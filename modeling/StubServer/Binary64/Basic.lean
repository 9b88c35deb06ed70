/-!
# Binary floating point

Numbers with a fraction or an exponent are binary floating point numbers of 53 significant bits.
They are kept exactly, as a sign and a multiple of the smallest positive number `2⁻¹⁰⁷⁴`, the
*unit*, so that every comparison and every rounding is one of natural numbers.

## Main definitions

* `Binary64`: a number; `Binary64.value` is it as an integer multiple of the unit.
* `Binary64.roundUnits`: the nearest number of at most 53 significant bits to a quotient, with
  ties to the even neighbour.
* `Binary64.ofInt`, `Binary64.mul`, `Binary64.div`: the rounded results.
* `Binary64.isFinite`: whether a number is below `2¹⁰²⁴`, the range that can be written.

## Main results

* `Binary64.short_roundUnits`: rounding leaves at most 53 significant bits.
-/

namespace StubServer

namespace Binary64

/-- How many units make the number one. -/
def one : Nat := Nat.pow 2 1074

/-- The distance to the next larger number, for a number of so many units. -/
def step (units : Nat) : Nat := Nat.pow 2 (units.log2 - 52)

/-- At most 53 bits of the number are significant: the rest, at its end, are zero. -/
def Short (units : Nat) : Prop := step units ∣ units

instance (units : Nat) : Decidable (Short units) :=
  inferInstanceAs (Decidable (_ ∣ _))

end Binary64

/-- A binary floating point number with 53 significant bits. -/
structure Binary64 where
  /-- The sign; zero has both. -/
  negative : Bool
  /-- The magnitude in units. -/
  units : Nat
  short : Binary64.Short units
  deriving DecidableEq

namespace Binary64

/-! ### Rounding -/

/-- The integer nearest to a quotient; of two at the same distance the even one. -/
def roundQuotient (num den : Nat) : Nat :=
  let whole := num / den
  let rest := num % den
  if den < 2 * rest ∨ (2 * rest = den ∧ whole % 2 = 1) then whole + 1 else whole

/-- The number of units nearest to a quotient among those with at most 53 significant bits. -/
def roundUnits (num den : Nat) : Nat :=
  let grid := step (num / den)
  roundQuotient num (den * grid) * grid

theorem roundQuotient_le (num den : Nat) : roundQuotient num den ≤ num / den + 1 := by
  unfold roundQuotient
  dsimp only
  split <;> omega

theorem short_mul_two_pow {k e : Nat} (h : k ≤ 9007199254740992) : Short (k * Nat.pow 2 e) := by
  have h : k ≤ 2 ^ 53 := h
  change 2 ^ ((k * 2 ^ e).log2 - 52) ∣ k * 2 ^ e
  rcases Nat.eq_zero_or_pos k with rfl | hk
  · simp
  rcases Nat.lt_or_eq_of_le h with hlt | rfl
  · have hlog : (k * 2 ^ e).log2 = k.log2 + e := by
      rw [Nat.log2_eq_iff (Nat.pos_iff_ne_zero.1 (Nat.mul_pos hk (Nat.two_pow_pos e)))]
      have h1 : 2 ^ k.log2 ≤ k := Nat.log2_self_le (Nat.pos_iff_ne_zero.1 hk)
      have h2 : k < 2 ^ (k.log2 + 1) := Nat.lt_log2_self
      constructor
      · rw [Nat.pow_add]
        exact Nat.mul_le_mul_right _ h1
      · rw [show k.log2 + e + 1 = (k.log2 + 1) + e by omega, Nat.pow_add _ (k.log2 + 1)]
        exact Nat.mul_lt_mul_of_pos_right h2 (Nat.two_pow_pos e)
    have hsmall : k.log2 < 53 := (Nat.log2_lt (Nat.pos_iff_ne_zero.1 hk)).2 hlt
    rw [hlog]
    exact Nat.dvd_trans (Nat.pow_dvd_pow 2 (by omega)) (Nat.dvd_mul_left _ _)
  · have hlog : (2 ^ 53 * 2 ^ e).log2 = 53 + e := by
      rw [← Nat.pow_add, Nat.log2_two_pow]
    rw [hlog, ← Nat.pow_add]
    exact Nat.pow_dvd_pow 2 (by omega)

/-- **Rounding leaves at most 53 significant bits.** -/
theorem short_roundUnits (num den : Nat) : Short (roundUnits num den) := by
  unfold roundUnits
  refine short_mul_two_pow (Nat.le_trans (roundQuotient_le _ _) ?_)
  rw [← Nat.div_div_eq_div_mul]
  generalize num / den = q
  change q / 2 ^ (q.log2 - 52) + 1 ≤ 2 ^ 53
  have h : q < 2 ^ (q.log2 + 1) := Nat.lt_log2_self
  have h53 : q < 2 ^ (q.log2 - 52) * 2 ^ 53 := by
    rw [← Nat.pow_add]
    exact Nat.lt_of_lt_of_le h (Nat.pow_le_pow_right (by omega) (by omega))
  have := Nat.div_lt_of_lt_mul h53
  omega

/-! ### Arithmetic and order -/

/-- The number nearest to a quotient of units. -/
def ofQuotient (negative : Bool) (num den : Nat) : Binary64 :=
  ⟨negative, roundUnits num den, short_roundUnits num den⟩

/-- Zero with the given sign. -/
def zero (negative : Bool) : Binary64 :=
  ⟨negative, 0, by decide⟩

/-- The number nearest to a natural number. -/
def ofNat (n : Nat) : Binary64 :=
  ofQuotient false (n * one) 1

/-- The number nearest to an integer. -/
def ofInt (i : Int) : Binary64 :=
  ofQuotient (decide (i < 0)) (i.natAbs * one) 1

/-- The rounded product. -/
def mul (x y : Binary64) : Binary64 :=
  ofQuotient (x.negative != y.negative) (x.units * y.units) one

/-- The rounded quotient. -/
def div (x y : Binary64) : Binary64 :=
  ofQuotient (x.negative != y.negative) (x.units * one) y.units

/-- Whether the number is below `2¹⁰²⁴` in magnitude. -/
def isFinite (x : Binary64) : Bool :=
  x.units < Nat.pow 2 1024 * one

/-- The number as an integer multiple of the unit. -/
def value (x : Binary64) : Int :=
  if x.negative then -(x.units : Int) else x.units

/-- Equality of numbers: both zeros are the same number. -/
def same (x y : Binary64) : Bool :=
  x.value == y.value

/-- The order of numbers. -/
def less (x y : Binary64) : Bool :=
  x.value < y.value

end Binary64

end StubServer
