import StubServer.Binary64.Shortest
import StubServer.Json.Basic

/-!
# The text of a number

An integer is written in decimal. A floating point number is written with the fewest digits that
read back: positionally and with at least one digit after the point while it lies between
`10⁻⁵` and `10¹⁶`, otherwise with one digit before the point and an exponent that carries its
sign.

## Main definitions

* `Binary64.text`, `Json.Number.text`: the texts.
-/

namespace StubServer

/-- The digits of a natural number in base 10. -/
def decimalDigits (n : Nat) : List Char :=
  Nat.toDigits 10 n

/-- The text of an integer. -/
def intText (i : Int) : List Char :=
  if i < 0 then '-' :: decimalDigits i.natAbs else decimalDigits i.natAbs

namespace Binary64

/-- Digits with a decimal point after the first `point` of them. -/
def positional (digits : List Char) (point : Int) : List Char :=
  if point ≤ 0 then ['0', '.'] ++ List.replicate (-point).toNat '0' ++ digits
  else if digits.length ≤ point.toNat then
    digits ++ List.replicate (point.toNat - digits.length) '0' ++ ['.', '0']
  else digits.take point.toNat ++ ['.'] ++ digits.drop point.toNat

/-- Digits with a point after the first one and an exponent. -/
def scientific (digits : List Char) (exponent : Int) : List Char :=
  let mantissa := match digits with
    | first :: second :: rest => first :: '.' :: second :: rest
    | short => short
  mantissa ++ ['e', if exponent < 0 then '-' else '+'] ++ decimalDigits exponent.natAbs

/-- The text of a magnitude in units. -/
def magnitudeText (units : Nat) : List Char :=
  if units = 0 then ['0', '.', '0'] else
    let decimal := shortest units
    let digits := decimalDigits decimal.digits
    let point : Int := decimal.exponent + digits.length
    if -5 < point ∧ point ≤ 16 then positional digits point else scientific digits (point - 1)

/-- The text of a floating point number. -/
def text (x : Binary64) : List Char :=
  if x.negative then '-' :: magnitudeText x.units else magnitudeText x.units

end Binary64

/-- The text of a number. -/
def Json.Number.text : Json.Number → List Char
  | .integer i _ => intText i
  | .real x => x.text

end StubServer
