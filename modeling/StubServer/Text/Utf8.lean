/-!
# UTF-8

Texts as bytes. A character takes one to four bytes; the first one says how many follow and what
the next one may be, which rules out surrogates, values beyond the last code point and forms
that are longer than necessary.

## Main definitions

* `Utf8.encode`: the bytes of a text.
* `Utf8.scan`: the characters of bytes, and the bytes that are none.
* `Utf8.decode?`: the text of bytes, if they are the bytes of one.
* `Utf8.decodeLossy`: the same with a replacement character for everything that is none.
-/

namespace StubServer.Utf8

/-- The bytes of a text. -/
def encode (text : List Char) : List UInt8 :=
  text.flatMap String.utf8EncodeChar

/-- A part of some bytes. -/
inductive Piece where
  | char (c : Char)
  /-- Bytes that are no character, and how many of them there are. -/
  | broken (length : Nat)
  deriving DecidableEq

/-- A character of which some bytes are missing. -/
structure Pending where
  /-- The bits that were read. -/
  bits : Nat
  /-- How many bytes they were read from. -/
  taken : Nat := 1
  /-- How many bytes must follow after the next one. -/
  owed : Nat
  /-- The least next byte. -/
  low : Nat := 0x80
  /-- The greatest next byte. -/
  high : Nat := 0xBF

/-- What the first byte of a character of several bytes announces. -/
def announced? (byte : Nat) : Option Pending :=
  if 0xC2 ≤ byte ∧ byte ≤ 0xDF then some { bits := byte - 0xC0, owed := 0 }
  else if byte = 0xE0 then some { bits := 0, owed := 1, low := 0xA0 }
  else if byte = 0xED then some { bits := 0xD, owed := 1, high := 0x9F }
  else if 0xE1 ≤ byte ∧ byte ≤ 0xEF then some { bits := byte - 0xE0, owed := 1 }
  else if byte = 0xF0 then some { bits := 0, owed := 2, low := 0x90 }
  else if 0xF1 ≤ byte ∧ byte ≤ 0xF3 then some { bits := byte - 0xF0, owed := 2 }
  else if byte = 0xF4 then some { bits := 4, owed := 2, high := 0x8F }
  else none

/-- Takes a byte between characters: the parts that are complete now, and the character that is not. -/
def start (byte : Nat) : List Piece × Option Pending :=
  if byte < 0x80 then ([.char (Char.ofNat byte)], none)
  else match announced? byte with
    | some pending => ([], some pending)
    | none => ([.broken 1], none)

/-- Takes the next byte. One that cannot continue a character starts anew. -/
def step : Option Pending → Nat → List Piece × Option Pending
  | none, byte => start byte
  | some pending, byte =>
    if pending.low ≤ byte ∧ byte ≤ pending.high then
      let bits := pending.bits * 64 + byte % 64
      match pending.owed with
      | 0 => ([.char (Char.ofNat bits)], none)
      | owed + 1 => ([], some { bits, taken := pending.taken + 1, owed })
    else (.broken pending.taken :: (start byte).1, (start byte).2)

/-- The parts that bytes are made of. -/
def scan : Option Pending → List UInt8 → List Piece
  | none, [] => []
  | some pending, [] => [.broken pending.taken]
  | pending, byte :: rest =>
    (step pending byte.toNat).1 ++ scan (step pending byte.toNat).2 rest

/-- The text that parts are, if all of them are characters. -/
def text? : List Piece → Option (List Char)
  | [] => some []
  | .broken _ :: _ => none
  | .char c :: rest => (text? rest).map (c :: ·)

/-- The text of bytes, if they are the bytes of a text. -/
def decode? (bytes : List UInt8) : Option (List Char) :=
  text? (scan none bytes)

/-- The character of a part, which is U+FFFD for bytes that are none. -/
def Piece.lossy : Piece → Char
  | .char c => c
  | .broken _ => '\ufffd'

/-- The text of bytes, with U+FFFD for each part that is not a character. -/
def decodeLossy (bytes : List UInt8) : List Char :=
  (scan none bytes).map Piece.lossy

end StubServer.Utf8
