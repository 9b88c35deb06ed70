import StubServer.Text.Hex

/-!
# Socket addresses

The numeric address that a server listens on: four bytes with points between them, or eight groups
of 16 bits with colons between them, in brackets. After a colon follows the port.

In the longer form one run of zero groups may be written as two colons, and the last two groups as
an address of four bytes.

## Main definitions

* `HostAddress`: an address without a port; `HostAddress.text` is its text.
* `SocketAddress`: an address with a port.
* `SocketAddress.ofText?`, `SocketAddress.text`: the address that a text denotes, and its text.
-/

namespace StubServer

/-- A numeric address. -/
inductive HostAddress where
  /-- An address of four bytes. -/
  | short (bytes : List UInt8)
  /-- An address of eight groups of 16 bits. -/
  | long (groups : List UInt16)
  deriving DecidableEq

/-- A numeric address with a port. -/
structure SocketAddress where
  host : HostAddress
  /-- The scope of an address of eight groups, or zero. -/
  scope : UInt32 := 0
  port : UInt16
  deriving DecidableEq

namespace SocketAddress

/-! ### Reading -/

/-- The value of a digit of a base up to 16. -/
def digit? (base : Nat) (c : Char) : Option Nat :=
  (hexDigit? c).filter (· < base)

/-- How a number is written. -/
structure NumberFormat where
  base : Nat := 10
  /-- The greatest number of digits. -/
  width : Option Nat := none
  /-- Whether more than one digit may begin with zero. -/
  padded : Bool := true
  /-- The greatest value. -/
  limit : Nat

/-- Reads a number as far as there are digits. -/
def readNumber (format : NumberFormat) (text : List Char) : Option (Nat × List Char) :=
  let digits := text.takeWhile fun c => (digit? format.base c).isSome
  let value := digits.foldl (fun n c => n * format.base + (digit? format.base c).getD 0) 0
  if digits.isEmpty || format.width.any (· < digits.length) then none
  else if !format.padded && digits.head? == some '0' && 1 < digits.length then none
  else if format.limit < value then none
  else some (value, text.drop digits.length)

/-- Takes a mark away. -/
def readMark (mark : Char) : List Char → Option (List Char)
  | c :: rest => if c = mark then some rest else none
  | [] => none

/-- Reads bytes with points between them. -/
def readBytes : Nat → List Char → Option (List UInt8 × List Char)
  | 0, text => some ([], text)
  | n + 1, text => do
    let (byte, rest) ← readNumber { width := some 3, padded := false, limit := 255 } text
    let rest ← if n = 0 then some rest else readMark '.' rest
    let (bytes, rest) ← readBytes n rest
    return (byte.toUInt8 :: bytes, rest)

/-- Two groups for four bytes. -/
def groupsOfBytes : List UInt8 → List UInt16
  | high :: low :: rest => (high.toUInt16 * 256 + low.toUInt16) :: groupsOfBytes rest
  | _ => []

/-- Reads up to `n` groups with colons between them, the last two of which may be written as four
bytes; whether they are is told. -/
def readGroups : (n : Nat) → (isFirst : Bool) → List Char → List UInt16 × Bool × List Char
  | 0, _, text => ([], false, text)
  | n + 1, isFirst, text =>
    match if isFirst then some text else readMark ':' text with
    | none => ([], false, text)
    | some start =>
      match if 0 < n then readBytes 4 start else none with
      | some (bytes, rest) => (groupsOfBytes bytes, true, rest)
      | none =>
        match readNumber { base := 16, width := some 4, limit := 65535 } start with
        | some (group, rest) =>
          let (groups, hasBytes, rest) := readGroups n false rest
          (group.toUInt16 :: groups, hasBytes, rest)
        | none => ([], false, text)

/-- Reads eight groups, of which two colons may stand for one or more that are zero. -/
def readLong (text : List Char) : Option (List UInt16 × List Char) := do
  let (head, hasBytes, rest) := readGroups 8 true text
  if head.length = 8 then return (head, rest)
  if hasBytes then none
  let rest ← readMark ':' (← readMark ':' rest)
  let (tail, _, rest) := readGroups (7 - head.length) true rest
  return (head ++ List.replicate (8 - head.length - tail.length) 0 ++ tail, rest)

/-- Reads a port with the colon before it. -/
def readPort (text : List Char) : Option (UInt16 × List Char) := do
  let (port, rest) ← readNumber { limit := 65535 } (← readMark ':' text)
  return (port.toUInt16, rest)

/-- Reads an address of four bytes with its port. -/
def readShortAddress (text : List Char) : Option (SocketAddress × List Char) := do
  let (bytes, rest) ← readBytes 4 text
  let (port, rest) ← readPort rest
  return ({ host := .short bytes, port }, rest)

/-- Reads the scope of an address. -/
def readScope (text : List Char) : Option (UInt32 × List Char) := do
  let (scope, rest) ← readNumber { limit := 4294967295 } (← readMark '%' text)
  return (scope.toUInt32, rest)

/-- Reads an address of eight groups in brackets with its port. -/
def readLongAddress (text : List Char) : Option (SocketAddress × List Char) := do
  let (groups, rest) ← readLong (← readMark '[' text)
  let (scope, rest) := (readScope rest).getD (0, rest)
  let (port, rest) ← readPort (← readMark ']' rest)
  return ({ host := .long groups, scope, port }, rest)

/-- The address that a text denotes. -/
def ofText? (text : String) : Option SocketAddress :=
  match (readShortAddress text.toList).orElse fun _ => readLongAddress text.toList with
  | some (address, []) => some address
  | _ => none

end SocketAddress

/-! ### Writing -/

namespace HostAddress

/-- The text of a number. -/
def numberText (base n : Nat) : String := .ofList (Nat.toDigits base n)

/-- The number of zero groups at the start. -/
def zeroRun (groups : List UInt16) : Nat :=
  (groups.takeWhile (· == 0)).length

/-- Where the longest run of zero groups begins, and how long it is. Of equal ones it is the first.
-/
def longestZeroRun : List UInt16 → Nat × Nat
  | [] => (0, 0)
  | group :: rest =>
    let (start, size) := longestZeroRun rest
    if size ≤ zeroRun (group :: rest) ∧ 0 < zeroRun (group :: rest) then (0, zeroRun (group :: rest))
    else (start + 1, size)

/-- Groups with colons between them. -/
def groupsText (groups : List UInt16) : String :=
  ":".intercalate (groups.map fun group => numberText 16 group.toNat)

/-- The text of an address. Addresses of four bytes that are written as eight groups keep their
points. -/
def text : HostAddress → String
  | short bytes => ".".intercalate (bytes.map fun byte => numberText 10 byte.toNat)
  | long [0, 0, 0, 0, 0, 0xffff, high, low] =>
    "::ffff:" ++ ".".intercalate ([high.toNat / 256, high.toNat % 256, low.toNat / 256,
      low.toNat % 256].map (numberText 10))
  | long groups =>
    let (start, size) := longestZeroRun groups
    if 1 < size then
      groupsText (groups.take start) ++ "::" ++ groupsText (groups.drop (start + size))
    else groupsText groups

end HostAddress

/-- The text of an address with its port. -/
def SocketAddress.text (address : SocketAddress) : String :=
  let port := ":" ++ HostAddress.numberText 10 address.port.toNat
  match address.host with
  | .short _ => address.host.text ++ port
  | .long _ =>
    let scope := if address.scope = 0 then "" else "%" ++ HostAddress.numberText 10 address.scope.toNat
    "[" ++ address.host.text ++ scope ++ "]" ++ port

end StubServer
