import StubServer.Json.Error
import StubServer.Text.Hex

/-!
# The words of a JSON text

Readers of blanks, literal words, numbers and strings. Each takes the text from where it stands
and gives what it read together with the rest.

Numbers are read in the manner of calculators with 64 bits: the digits are collected into a
natural number as long as it stays below `2⁶⁴`; further integer digits only raise the exponent
of ten, further digits of the fraction are dropped. A number with a fraction, an exponent or
too many digits is that natural number, rounded, times or over a rounded power of ten.

## Main definitions

* `readWord`: the rest of a literal word.
* `readNumber`: a number without its sign.
* `readString`: the rest of a string after its opening quote; `skipString` does not look at what the
  escapes stand for.
* `Breaks`: where a text was made from bytes that are no characters; `readCharacters` wants none of
  them in a string.
-/

namespace StubServer.Json

/-- A JSON text, from where a reader stands. -/
abbrev Text := List Char

/-- What a reader gives: a value and the rest of the text, or what is wrong. -/
abbrev Reading (α : Type) := Except Error (α × Text)

/-- The characters that may stand between the words of a JSON text. -/
def isSpace (c : Char) : Bool :=
  c == ' ' || c == '\n' || c == '\t' || c == '\r'

/-- The text without leading blanks. -/
def skipSpace (text : Text) : Text :=
  text.dropWhile isSpace

/-- Reads the given characters of a literal word. -/
def readWord : List Char → Text → Except Error Text
  | [], text => .ok text
  | _ :: _, [] => .error .endOfValue
  | expected :: more, c :: text =>
    if c = expected then readWord more text else .error .expectedIdent

/-! ### Numbers -/

/-- Whether a character is a decimal digit. -/
def isDigit (c : Char) : Bool := '0' ≤ c && c ≤ '9'

/-- The value of a decimal digit. -/
def digit (c : Char) : Nat := c.toNat - '0'.toNat

/-- A number while its digits are read. -/
structure Digits where
  /-- The digits that count, as a natural number. -/
  significand : Nat := 0
  /-- The power of ten that goes with it. -/
  exponent : Int := 0
  /-- Whether a digit was dropped, after which no more digits count. -/
  full : Bool := false
  deriving DecidableEq

/-- The largest significand. -/
def significandMax : Nat := 18446744073709551615

/-- Takes a digit before the point. -/
def Digits.pushWhole (d : Digits) (n : Nat) : Digits :=
  if d.full ∨ significandMax < d.significand * 10 + n then
    { d with exponent := d.exponent + 1, full := true }
  else { d with significand := d.significand * 10 + n }

/-- Takes a digit after the point. -/
def Digits.pushFraction (d : Digits) (n : Nat) : Digits :=
  if d.full ∨ significandMax < d.significand * 10 + n then { d with full := true }
  else { d with significand := d.significand * 10 + n, exponent := d.exponent - 1 }

/-- A number times a power of ten, in steps of at most 308 places, or nothing if it leaves the
range. -/
def scale (x : Binary64) : Nat → Int → Option Binary64
  | 0, _ => some x
  | fuel + 1, exponent =>
    if 308 < exponent then if x.units = 0 then some x else none
    else if 0 ≤ exponent then
      let y := x.mul (.ofNat (Nat.pow 10 exponent.toNat))
      if y.isFinite then some y else none
    else if -308 ≤ exponent then some (x.div (.ofNat (Nat.pow 10 (-exponent).toNat)))
    else scale (x.div (.ofNat (Nat.pow 10 308))) fuel (exponent + 308)

/-- The floating point number that digits and a sign denote. Two steps of 308 places take every
significand to zero. -/
def Digits.real (negative : Bool) (d : Digits) : Except Error Number :=
  match scale (.ofNat d.significand) 4 d.exponent with
  | some x => .ok (.real { x with negative })
  | none => .error .numberOutOfRange

/-- The integer that digits and a sign denote; minus zero and integers out of range become
floating point numbers. -/
def Digits.integer (negative : Bool) (d : Digits) : Number :=
  if negative then
    if d.significand = 0 then .real (.zero true)
    else match Number.ofInt? (-(d.significand : Int)) with
      | some n => n
      | none => .real (.ofInt (-(d.significand : Int)))
  else match Number.ofInt? d.significand with
    | some n => n
    | none => .real (.ofNat d.significand)

/-- Reads the exponent after its letter. -/
def exponentPart (negative : Bool) (d : Digits) (text : Text) : Reading Number :=
  let (down, text) := match text with
    | '+' :: rest => (false, rest)
    | '-' :: rest => (true, rest)
    | rest => (false, rest)
  match text with
  | [] => .error .endOfValue
  | c :: _ =>
    if isDigit c then
      let size : Nat := (text.takeWhile isDigit).foldl (fun n c => n * 10 + digit c) 0
      let exponent : Int := if down then d.exponent - size else d.exponent + size
      (Digits.real negative { d with exponent }).map fun n => (n, text.dropWhile isDigit)
    else .error .invalidNumber

/-- Reads the fraction after the point. -/
def fractionPart (negative : Bool) (d : Digits) (text : Text) : Reading Number :=
  let digits := text.takeWhile isDigit
  let rest := text.dropWhile isDigit
  let d := digits.foldl (fun d c => d.pushFraction (digit c)) { d with full := false }
  match digits, rest with
  | [], [] => .error .endOfValue
  | [], _ :: _ => .error .invalidNumber
  | _ :: _, 'e' :: rest => exponentPart negative d rest
  | _ :: _, 'E' :: rest => exponentPart negative d rest
  | _ :: _, rest => (Digits.real negative d).map fun n => (n, rest)

/-- Reads a number after its sign. -/
def readNumber (negative : Bool) (text : Text) : Reading Number :=
  match text with
  | [] => .error .endOfValue
  | first :: after =>
    if !isDigit first then .error .invalidNumber
    else if first = '0' ∧ (after.head?.any isDigit) then .error .invalidNumber
    else
      let d : Digits := (text.takeWhile isDigit).foldl (fun d c => d.pushWhole (digit c)) {}
      match text.dropWhile isDigit with
      | '.' :: rest => fractionPart negative d rest
      | 'e' :: rest => exponentPart negative d rest
      | 'E' :: rest => exponentPart negative d rest
      | rest =>
        if d.full then (Digits.real negative d).map fun n => (n, rest)
        else .ok (d.integer negative, rest)

/-! ### Strings -/

/-- The value of four base 16 digits. -/
def hex? (a b c d : Char) : Option Nat := do
  return (((← hexDigit? a) * 16 + (← hexDigit? b)) * 16 + (← hexDigit? c)) * 16 + (← hexDigit? d)

/-- The error of an escape that is not followed by four characters: the text ends, unless its
last characters make up four bytes. -/
def shortHex (rest : Text) : Error :=
  if rest.foldl (fun n c => n + c.utf8Size) 0 < 4 then .endOfString else .invalidEscape

/-- What an escape of one character stands for. -/
def simpleEscape? (c : Char) : Option Char :=
  if c = '"' ∨ c = '\\' ∨ c = '/' then some c
  else if c = 'b' then some '\x08'
  else if c = 'f' then some '\x0c'
  else if c = 'n' then some '\n'
  else if c = 'r' then some '\r'
  else if c = 't' then some '\t'
  else none

/-- Whether a code unit opens a pair of surrogates. -/
def isHighSurrogate (n : Nat) : Bool := 0xD800 ≤ n && n ≤ 0xDBFF

/-- Whether a code unit closes a pair of surrogates. -/
def isLowSurrogate (n : Nat) : Bool := 0xDC00 ≤ n && n ≤ 0xDFFF

/-- The character of a pair of surrogates. -/
def pairChar (high low : Nat) : Char :=
  Char.ofNat ((high - 0xD800) * 0x400 + (low - 0xDC00) + 0x10000)

/-- Puts a character before the string that follows it. -/
def prepend (c : Char) (following : Reading (List Char)) : Reading (List Char) :=
  following.map fun r => (c :: r.1, r.2)

/-- Reads the rest of a string after its opening quote. -/
def readString : Text → Reading (List Char)
  | [] => .error .endOfString
  | c :: rest =>
    if c = '"' then .ok ([], rest)
    else if c = '\\' then
      match rest with
      | [] => .error .endOfString
      | e :: rest =>
        if e = 'u' then
          match rest with
          | h1 :: h2 :: h3 :: h4 :: rest =>
            match hex? h1 h2 h3 h4 with
            | none => .error .invalidEscape
            | some n =>
              if isLowSurrogate n then .error .loneSurrogate
              else if isHighSurrogate n then
                match rest with
                | [] => .error .endOfString
                | b :: rest =>
                  if b ≠ '\\' then .error .endOfHexEscape else
                  match rest with
                  | [] => .error .endOfString
                  | u :: rest =>
                    if u ≠ 'u' then .error .endOfHexEscape else
                    match rest with
                    | l1 :: l2 :: l3 :: l4 :: rest =>
                      match hex? l1 l2 l3 l4 with
                      | none => .error .invalidEscape
                      | some m =>
                        if isLowSurrogate m then prepend (pairChar n m) (readString rest)
                        else .error .loneSurrogate
                    | short => .error (shortHex short)
              else prepend (Char.ofNat n) (readString rest)
          | short => .error (shortHex short)
        else match simpleEscape? e with
          | some c => prepend c (readString rest)
          | none => .error .invalidEscape
    else if c.toNat < 0x20 then .error .controlCharacter
    else prepend c (readString rest)

/-- Where a text was made from bytes that are no characters: how long it is from each of these places on.
A text that was not made from bytes has no such places. -/
abbrev Breaks := List Nat

/-- Whether there are such bytes between two places of a text, the first of which is farther from its
end. -/
def Breaks.between (breaks : Breaks) (text rest : Text) : Bool :=
  breaks.any fun length => rest.length < length && length ≤ text.length

/-- Reads the rest of a string after its opening quote. It must be made of characters, which is looked at
when the string has ended. -/
def readCharacters (breaks : Breaks) (text : Text) : Reading (List Char) :=
  match readString text with
  | .error e => .error e
  | .ok (s, rest) => if breaks.between text rest then .error .invalidCodePoint else .ok (s, rest)

/-- Reads over the rest of a string after its opening quote; escapes have to be complete, but
need not stand for characters. Nor do the bytes that the text was made from. -/
def skipString : Text → Except Error Text
  | [] => .error .endOfString
  | c :: rest =>
    if c = '"' then .ok rest
    else if c = '\\' then
      match rest with
      | [] => .error .endOfString
      | e :: rest =>
        if e = 'u' then
          match rest with
          | h1 :: h2 :: h3 :: h4 :: rest =>
            if (hex? h1 h2 h3 h4).isSome then skipString rest else .error .invalidEscape
          | short => .error (shortHex short)
        else if (simpleEscape? e).isSome then skipString rest
        else .error .invalidEscape
    else if c.toNat < 0x20 then .error .controlCharacter
    else skipString rest

end StubServer.Json
