import StubServer.Binary64.Basic

/-!
# The shortest decimal of a binary number

A floating point number is written with the fewest decimal digits that read back as the same
number, and of all decimals with so few digits with the one nearest to it; of two at the same
distance the even one is taken.

The decimals with a given count of digits form a grid. If any point of the grid reads back as
the number, then one of the two neighbours of the number on the grid does, so that trying one
digit, two digits and so on, and both neighbours each time, finds the shortest. Seventeen digits
always suffice.

## Main definitions

* `Decimal`: an integer times a power of ten.
* `Binary64.readsBack`: whether a decimal lies in the interval of numbers that round to `x`.
* `Binary64.shortest`: the shortest decimal of a positive number.
-/

namespace StubServer

/-- The decimal `digits · 10 ^ exponent`. -/
structure Decimal where
  digits : Nat
  exponent : Int
  deriving DecidableEq

namespace Binary64

/-- The order of magnitude of a positive number below one: the least `k` with `1 ≤ x · 10 ^ k`,
tried from `k` upwards. -/
def placesBelowOne (units : Nat) : Nat → Nat → Nat
  | 0, k => k
  | fuel + 1, k => if one ≤ units * Nat.pow 10 k then k else placesBelowOne units fuel (k + 1)

/-- The exponent of ten of the first decimal digit of a positive number. -/
def leadingExponent (units : Nat) : Int :=
  if one ≤ units then ((Nat.toDigits 10 (units / one)).length : Int) - 1
  else -(placesBelowOne units 400 1 : Int)

/-- The numerator and the denominator of a power of ten. -/
def powerOfTen (exponent : Int) : Nat × Nat :=
  if 0 ≤ exponent then (Nat.pow 10 exponent.toNat, 1) else (1, Nat.pow 10 (-exponent).toNat)

/-- Whether the decimal `candidate · 10 ^ exponent` lies in the interval of reals that round to
the number of so many units. Bounds are in quarters of a unit; a bound belongs to the interval
exactly if the number ends in a zero bit. -/
def readsBack (units candidate : Nat) (exponent : Int) : Bool :=
  let (num, den) := powerOfTen exponent
  let gap := step units
  let below := if 1 < gap ∧ units = Nat.pow 2 units.log2 then gap else 2 * gap
  let middle := 4 * candidate * num * one
  let low := (4 * units - below) * den
  let high := (4 * units + 2 * gap) * den
  if units / gap % 2 = 0 then low ≤ middle && middle ≤ high else low < middle && middle < high

/-- The distance between a decimal and the number, in a scale that depends on the grid alone. -/
def distance (units candidate : Nat) (exponent : Int) : Nat :=
  let (num, den) := powerOfTen exponent
  ((candidate * num * one : Nat) - (units * den : Nat) : Int).natAbs

/-- The neighbour on the grid of `10 ^ exponent` that reads back, if one does. -/
def onGrid? (units : Nat) (exponent : Int) : Option Nat :=
  let (num, den) := powerOfTen exponent
  let low := units * den / (num * one)
  match readsBack units low exponent, readsBack units (low + 1) exponent with
  | false, false => none
  | true, false => some low
  | false, true => some (low + 1)
  | true, true =>
    let dLow := distance units low exponent
    let dHigh := distance units (low + 1) exponent
    if dLow < dHigh ∨ (dLow = dHigh ∧ low % 2 = 0) then some low else some (low + 1)

/-- Drops the zeros at the end of the digits. -/
def Decimal.strip : Nat → Decimal → Decimal
  | 0, d => d
  | fuel + 1, d =>
    if d.digits ≠ 0 ∧ d.digits % 10 = 0 then Decimal.strip fuel ⟨d.digits / 10, d.exponent + 1⟩
    else d

/-- Tries ever finer grids, the first of which has the given exponent. -/
def shortestFrom (units : Nat) : Nat → Int → Decimal
  | 0, exponent => ⟨0, exponent⟩
  | fuel + 1, exponent =>
    match onGrid? units exponent with
    | some digits => Decimal.strip 400 ⟨digits, exponent⟩
    | none => shortestFrom units fuel (exponent - 1)

/-- The shortest decimal of a positive number of units. -/
def shortest (units : Nat) : Decimal :=
  shortestFrom units 20 (leadingExponent units)

end Binary64

end StubServer
