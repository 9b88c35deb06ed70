import Mathlib.Algebra.Ring.Nat
import StubServer.Binary64.Basic

/-!
# Integers as floating point numbers

An integer below `2⁵³` in magnitude is a floating point number as it is, and no other integer is rounded to it.
Beyond that several integers are rounded to one number.

## Main statements

* `roundUnits_of_short`: what has few significant bits is not changed by rounding.
* `two_pow_le_roundUnits`: rounding does not go below a power of two.
* `ofInt_same_iff`: an integer below `2⁵³` shares its number with no other.
-/

namespace StubServer.Binary64

variable {units k : Nat} {m n : Int}

/-! ### Rounding -/

/-- A quotient without a rest is not rounded. -/
theorem roundQuotient_of_dvd {num den : Nat} (h : den ∣ num) (hden : 0 < den) :
    roundQuotient num den = num / den := by
  have hrest : num % den = 0 := Nat.mod_eq_zero_of_dvd h
  unfold roundQuotient
  dsimp only
  rw [if_neg (by omega)]

/-- A quotient is not rounded to less than its whole part. -/
theorem le_roundQuotient (num den : Nat) : num / den ≤ roundQuotient num den := by
  unfold roundQuotient
  dsimp only
  split <;> omega

/-- **What has few significant bits is not changed by rounding.** -/
theorem roundUnits_of_short (h : Short units) : roundUnits units 1 = units := by
  have hpositive : 0 < step units := Nat.two_pow_pos _
  unfold roundUnits
  simp only [Nat.div_one, Nat.one_mul]
  rw [roundQuotient_of_dvd h hpositive, Nat.div_mul_cancel h]

/-- **Rounding does not go below a power of two.** -/
theorem two_pow_le_roundUnits (h : 2 ^ k ≤ units) : 2 ^ k ≤ roundUnits units 1 := by
  have hne : units ≠ 0 := by
    have hpositive := Nat.two_pow_pos k
    omega
  have hlog : k ≤ units.log2 := (Nat.le_log2 hne).mpr h
  -- The distance between neighbours divides the greatest power of two below the number.
  have hdvd : step units ∣ 2 ^ units.log2 := Nat.pow_dvd_pow 2 (Nat.sub_le _ _)
  calc 2 ^ k ≤ 2 ^ units.log2 := Nat.pow_le_pow_right (by decide) hlog
    _ = 2 ^ units.log2 / step units * step units := (Nat.div_mul_cancel hdvd).symm
    _ ≤ units / step units * step units :=
        Nat.mul_le_mul_right _ (Nat.div_le_div_right (Nat.log2_self_le hne))
    _ ≤ roundQuotient units (step units) * step units :=
        Nat.mul_le_mul_right _ (le_roundQuotient _ _)
    _ = roundUnits units 1 := by simp [roundUnits]

/-! ### Integers -/

/-- One is a power of two in units. -/
theorem exists_one_eq : ∃ e : Nat, one = 2 ^ e := by
  unfold one
  generalize 1074 = e
  exact ⟨e, rfl⟩

/-- One is positive. -/
theorem one_pos : 0 < one := by
  obtain ⟨e, he⟩ := exists_one_eq
  rw [he]
  exact Nat.two_pow_pos e

/-- An integer of at most 53 bits has few significant bits in units as well. -/
theorem short_mul_one {k : Nat} (h : k ≤ 9007199254740992) : Short (k * one) := by
  obtain ⟨e, he⟩ := exists_one_eq
  rw [he]
  exact short_mul_two_pow h

/-- The magnitude of a number. -/
theorem natAbs_value (x : Binary64) : x.value.natAbs = x.units := by
  unfold value
  split <;> simp

/-- An integer is rounded without its sign. -/
theorem units_ofInt (n : Int) : (ofInt n).units = roundUnits (n.natAbs * one) 1 :=
  rfl

/-- Rounding keeps the sign. -/
theorem negative_ofInt (n : Int) : (ofInt n).negative = decide (n < 0) :=
  rfl

/-- An integer of at most 53 bits is a floating point number as it is. -/
theorem value_ofInt (h : n.natAbs ≤ 9007199254740992) : (ofInt n).value = n * one := by
  have hunits : (ofInt n).units = n.natAbs * one :=
    (units_ofInt n).trans (roundUnits_of_short (short_mul_one h))
  rw [value, hunits, negative_ofInt]
  generalize one = u
  simp only [decide_eq_true_eq]
  split
  · rw [Int.natCast_mul, ← Int.neg_mul]
    congr 1
    omega
  · rw [Int.natCast_mul]
    congr 1
    omega

/-- An integer beyond them is not rounded to one of less than 53 bits. -/
theorem le_units_ofInt (h : 9007199254740992 ≤ n.natAbs) : 9007199254740992 * one ≤ (ofInt n).units := by
  obtain ⟨e, he⟩ := exists_one_eq
  have hpower : 9007199254740992 * one = 2 ^ (53 + e) := by rw [he, Nat.pow_add]
  have hunits : 9007199254740992 * one ≤ n.natAbs * one := Nat.mul_le_mul_right one h
  rw [hpower] at hunits ⊢
  exact two_pow_le_roundUnits hunits

/-- **An integer below `2⁵³` is rounded to a number that no other integer is rounded to.** -/
theorem ofInt_same_iff (hm : m.natAbs < 9007199254740992) : (ofInt m).same (ofInt n) = true ↔ m = n := by
  have hvalue : (ofInt m).value = m * one := value_ofInt (Nat.le_of_lt hm)
  rw [same, beq_iff_eq]
  constructor
  · intro heq
    by_cases hn : n.natAbs < 9007199254740992
    · rw [hvalue, value_ofInt (Nat.le_of_lt hn)] at heq
      have hone : one ≠ 0 := Nat.ne_of_gt one_pos
      generalize one = u at heq hone
      exact Int.eq_of_mul_eq_mul_right (Int.natCast_ne_zero.mpr hone) heq
    · have hfar := le_units_ofInt (Nat.not_lt.mp hn)
      rw [← natAbs_value, ← heq, hvalue, Int.natAbs_mul, Int.natAbs_natCast] at hfar
      exact absurd (Nat.le_of_mul_le_mul_right hfar one_pos) (Nat.not_le.mpr hm)
  · rintro rfl
    rfl

end StubServer.Binary64
