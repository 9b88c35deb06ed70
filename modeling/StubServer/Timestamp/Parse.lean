import StubServer.Text.Blank
import StubServer.Timestamp.Basic

/-!
# Reading timestamps

Timestamps are read leniently: blanks may stand between the parts, a blank may stand for the
`T`, months, days and times need no leading zeros, and the offset may be `Z`, `UTC`, or hours
and minutes with or without a colon.

## Main definitions

* `Timestamp.Fault`: what can be wrong with a text; `Timestamp.Fault.message` is its wording.
* `Timestamp.parse`: reads a text.
-/

namespace StubServer.Timestamp

/-- What can be wrong with the text of a timestamp. -/
inductive Fault where
  | outOfRange
  | impossible
  | invalid
  | tooShort
  | tooLong
  deriving DecidableEq

/-- The wording of a fault. -/
def Fault.message : Fault → String
  | .outOfRange => "input is out of range"
  | .impossible => "no possible date and time matching input"
  | .invalid => "input contains invalid characters"
  | .tooShort => "premature end of input"
  | .tooLong => "trailing input"

/-- Whether a character is a decimal digit. -/
def isDigit (c : Char) : Bool := '0' ≤ c && c ≤ '9'

/-- The value of a decimal digit. -/
def digit (c : Char) : Nat := c.toNat - '0'.toNat

/-- Reads a natural number of at least one digit and below `2⁶³`; `width` bounds its digits, if
given. -/
def natural (width : Option Nat) (text : List Char) : Except Fault (Nat × List Char) :=
  let all := text.takeWhile isDigit
  let digits := match width with
    | some n => all.take n
    | none => all
  match text, digits with
  | [], _ => .error .tooShort
  | _, [] => .error .invalid
  | _, _ =>
    let n := digits.foldl (fun n c => n * 10 + digit c) 0
    if 9223372036854775808 ≤ n then .error .outOfRange else .ok (n, text.drop digits.length)

/-- Reads a number of at most two digits, after blanks, that lies within bounds. -/
def part (low high : Nat) (text : List Char) : Except Fault (Nat × List Char) := do
  let (n, rest) ← natural (some 2) (trimStart text)
  if low ≤ n ∧ n ≤ high then .ok (n, rest) else .error .outOfRange

/-- Reads a year: at most four digits, or a sign and any number of them. -/
def year (text : List Char) : Except Fault (Int × List Char) := do
  let (y, rest) ← (match trimStart text with
    | '-' :: rest => (natural none rest).map fun r => (-(r.1 : Int), r.2)
    | '+' :: rest => (natural none rest).map fun r => ((r.1 : Int), r.2)
    | text => (natural (some 4) text).map fun r => ((r.1 : Int), r.2) : Except Fault (Int × List Char))
  if -2147483648 ≤ y ∧ y ≤ 2147483647 then .ok (y, rest) else .error .outOfRange

/-- Reads one character, after blanks. -/
def separator (c : Char) (text : List Char) : Except Fault (List Char) :=
  match trimStart text with
  | [] => .error .tooShort
  | d :: rest => if d = c then .ok rest else .error .invalid

/-- Reads the fraction of a second, if there is one: digits past the ninth are dropped. -/
def fraction : List Char → Except Fault (Nat × List Char)
  | '.' :: text => do
    let (n, _) ← natural (some 9) text
    let digits := text.takeWhile isDigit
    return (n * Nat.pow 10 (9 - digits.length), text.dropWhile isDigit)
  | text => .ok (0, text)

/-- Reads two digits; a text of fewer than two bytes is too short. -/
def twoDigits : List Char → Except Fault (Nat × Nat × List Char)
  | [] => .error .tooShort
  | [c] => if c.toNat < 128 then .error .tooShort else .error .invalid
  | a :: b :: rest =>
    if isDigit a && isDigit b then .ok (digit a, digit b, rest) else .error .invalid

/-- Reads hours and minutes of an offset, in seconds. -/
def offsetSize (text : List Char) : Except Fault (Nat × List Char) := do
  let (h1, h2, rest) ← twoDigits text
  let (m1, m2, rest) ← twoDigits (rest.dropWhile fun c => c == ':' || isBlank c)
  if m1 ≤ 5 then return ((h1 * 10 + h2) * 3600 + (m1 * 10 + m2) * 60, rest)
  else throw .outOfRange

/-- Reads an offset from universal time, in seconds. -/
def offset (text : List Char) : Except Fault (Int × List Char) :=
  match text with
  | [] => .error .tooShort
  | c :: rest =>
    if (text.take 3).map Char.toUpper = ['U', 'T', 'C'] then .ok (0, text.drop 3)
    else if c = 'Z' ∨ c = 'z' then .ok (0, rest)
    else if c = '+' then (offsetSize rest).map fun r => ((r.1 : Int), r.2)
    else if c = '-' ∨ c = '−' then (offsetSize rest).map fun r => (-(r.1 : Int), r.2)
    else .error .invalid

/-- Reads the character between date and time. -/
def dateEnd : List Char → Except Fault (List Char)
  | [] => .error .tooShort
  | c :: rest => if c = 'T' ∨ c = 't' ∨ c = ' ' then .ok rest else .error .invalid

/-- The point in time of a date, a time of day in seconds and nanoseconds, and an offset. -/
def ofLocal (date : Date) (second nanosecond : Nat) (offset : Int) : Except Fault Timestamp :=
  if date.year < yearBounds.1 ∨ yearBounds.2 < date.year ∨
      daysInMonth date.year date.month < date.day then .error .outOfRange
  else if 86400 ≤ offset.natAbs then .error .outOfRange
  else
    let total := dayOfDate date * 86400 + second - offset
    let day := total / 86400
    if inYears day then .ok ⟨day, (total % 86400).toNat, nanosecond⟩ else .error .impossible

/-- Reads a timestamp. -/
def parse (s : String) : Except Fault Timestamp := do
  let (year, text) ← year s.toList
  let (month, text) ← separator '-' text >>= part 1 12
  let (day, text) ← separator '-' text >>= part 1 31
  let (hour, text) ← dateEnd text >>= part 0 23
  let (minute, text) ← separator ':' text >>= part 0 59
  let (second, text) ← separator ':' text >>= part 0 60
  let (nanosecond, text) ← fraction text
  let (offset, text) ← offset (trimStart text)
  if !(trimStart text).isEmpty then throw .tooLong
  let ofDay := hour * 3600 + minute * 60 + min second 59
  let nanosecond := if second = 60 then nanosecond + 1000000000 else nanosecond
  ofLocal ⟨year, month, day⟩ ofDay nanosecond offset

end StubServer.Timestamp
