import StubServer.Text.Hex
import StubServer.Text.Utf8

/-!
# Form encoding

In the query of a URL, a plus sign stands for a space, and a percent sign followed by two digits
of base 16 stands for a byte. A percent sign without them stands for itself.

## Main definitions

* `FormEncoding.decode`: what an encoded text stands for.
-/

namespace StubServer.FormEncoding

/-- Writes spaces for plus signs. -/
def spaced (text : List Char) : List Char :=
  text.map fun c => if c = '+' then ' ' else c

/-- The byte that a percent sign and two digits stand for. -/
def escaped? (sign high low : Char) : Option UInt8 :=
  if sign = '%' then
    match hexDigit? high, hexDigit? low with
    | some high, some low => some (UInt8.ofNat (high * 16 + low))
    | _, _ => none
  else none

/-- The bytes that a text with percent signs stands for. -/
def bytes : List Char → List UInt8
  | c :: high :: low :: rest =>
    match escaped? c high low with
    | some byte => byte :: bytes rest
    | none => String.utf8EncodeChar c ++ bytes (high :: low :: rest)
  | [c, d] => String.utf8EncodeChar c ++ String.utf8EncodeChar d
  | [c] => String.utf8EncodeChar c
  | [] => []

/-- What an encoded text stands for. If the bytes are not those of a text, only the plus signs
are taken to be encoded. -/
def decode (text : List Char) : List Char :=
  (Utf8.decode? (bytes (spaced text))).getD (spaced text)

end StubServer.FormEncoding
