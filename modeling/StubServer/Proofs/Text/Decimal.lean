import Mathlib.Data.List.TakeWhile
import StubServer.Json.Lexeme
import StubServer.Json.NumberText

/-!
# Decimal digits

The digits of a natural number in base 10, as they are read back: they are digits, have the number as
their value, start with a zero only if that is all, and end where something else begins.

## Main statements

* `foldl_decimalDigits`: the value of the digits.
* `exists_decimalDigits`: the first digit.
* `takeWhile_isDigit_append`, `dropWhile_isDigit_append`: where digits end.
-/

namespace StubServer

open Json (isDigit digit)

variable {digits rest : List Char} {c : Char}

/-- The digits of a number are digits. -/
theorem isDigit_of_mem_decimalDigits {n : Nat} (h : c ∈ decimalDigits n) : isDigit c = true := by
  have hdigit : c.isDigit = true := Nat.isDigit_of_mem_toDigits (by decide) (by decide) h
  simpa [isDigit, Char.isDigit, Char.le_def] using hdigit

/-- The value of the digits of a number is the number. -/
theorem foldl_decimalDigits (n : Nat) :
    (decimalDigits n).foldl (fun n c => n * 10 + digit c) 0 = n := by
  have hvalue : Nat.ofDigitChars 10 (decimalDigits n) 0 = n :=
    Nat.ofDigitChars_toDigits (by decide) (by decide)
  simpa [Nat.ofDigitChars_eq_foldl, digit, Nat.mul_comm] using hvalue

/-- A number has a first digit, which is zero only if there are no others. -/
theorem exists_decimalDigits (n : Nat) :
    ∃ first others, decimalDigits n = first :: others ∧ (first = '0' → others = []) := by
  induction n using Nat.strongRecOn with
  | ind n ih =>
      unfold decimalDigits at ih ⊢
      rw [Nat.toDigits_eq_if (by decide)]
      split
      · exact ⟨_, [], rfl, fun _ => rfl⟩
      · obtain ⟨first, others, heq, hfirst⟩ := ih (n / 10) (by omega)
        refine ⟨first, others ++ [(n % 10).digitChar], by rw [heq]; rfl, fun hzero => ?_⟩
        -- A number of several digits that starts with a zero would be less than ten.
        have hvalue := foldl_decimalDigits (n / 10)
        rw [decimalDigits, heq, hfirst hzero, hzero] at hvalue
        have hnine : n / 10 = 0 := hvalue.symm.trans (by decide)
        omega

/-! ### Reading -/

/-- Something other than a digit comes next, if anything. -/
def EndsDigits (rest : List Char) : Prop :=
  ∀ c ∈ rest.head?, isDigit c = false

/-- A character that is no digit ends a number. -/
theorem endsDigits_cons (hc : isDigit c = false) (rest : List Char) : EndsDigits (c :: rest) := by
  intro d hd
  rw [← Option.some.inj hd]
  exact hc

/-- The digits at the start of a text end with it, if no digit follows. -/
theorem takeWhile_append_of_endsDigits (text : List Char) (hrest : EndsDigits rest) :
    (text ++ rest).takeWhile isDigit = text.takeWhile isDigit := by
  induction text with
  | nil =>
      cases rest with
      | nil => rfl
      | cons c rest => simp [hrest c rfl]
  | cons c text ih => rw [List.cons_append, List.takeWhile_cons, List.takeWhile_cons, ih]

/-- What is left behind the digits at the start of a text goes on with what follows, if that is no digit. -/
theorem dropWhile_append_of_endsDigits (text : List Char) (hrest : EndsDigits rest) :
    (text ++ rest).dropWhile isDigit = text.dropWhile isDigit ++ rest := by
  induction text with
  | nil =>
      cases rest with
      | nil => rfl
      | cons c rest => simp [hrest c rfl]
  | cons c text ih =>
      rw [List.cons_append, List.dropWhile_cons, List.dropWhile_cons, ih]
      split <;> rfl

/-- Digits are taken up to where they end. -/
theorem takeWhile_isDigit_append (h : ∀ c ∈ digits, isDigit c = true) (hrest : EndsDigits rest) :
    (digits ++ rest).takeWhile isDigit = digits := by
  have hend : rest.takeWhile isDigit = [] := takeWhile_append_of_endsDigits [] hrest
  rw [List.takeWhile_append_of_pos h, hend, List.append_nil]

/-- What is left begins where digits end. -/
theorem dropWhile_isDigit_append (h : ∀ c ∈ digits, isDigit c = true) (hrest : EndsDigits rest) :
    (digits ++ rest).dropWhile isDigit = rest := by
  rw [List.dropWhile_append_of_pos h]
  exact dropWhile_append_of_endsDigits [] hrest

/-- What is left behind digits does not start with one. -/
theorem endsDigits_dropWhile (text : List Char) : EndsDigits (text.dropWhile isDigit) := by
  intro c hc
  have hne := List.head?_dropWhile_not isDigit text
  rw [hc] at hne
  simpa using hne

/-- What ends digits does so with less behind it. -/
theorem EndsDigits.of_append {text : List Char} (h : EndsDigits (text ++ rest)) : EndsDigits text := by
  cases text with
  | nil => rintro _ ⟨⟩
  | cons c text => exact h

/-- What ends digits does so with something else behind it that does. -/
theorem EndsDigits.append {text other : List Char} (h : EndsDigits (text ++ rest)) (hother : EndsDigits other) :
    EndsDigits (text ++ other) := by
  cases text with
  | nil => exact hother
  | cons c text => exact h

/-- The digits at the start of a text are the same with something else behind them that does not go on with them. -/
theorem takeWhile_isDigit_takeWhile (text : List Char) (hrest : EndsDigits rest) :
    (text.takeWhile isDigit ++ rest).takeWhile isDigit = text.takeWhile isDigit :=
  takeWhile_isDigit_append (fun _ => List.mem_takeWhile_imp) hrest

/-- What is behind the digits at the start of a text can be put in the place of something else. -/
theorem dropWhile_isDigit_takeWhile (text : List Char) (hrest : EndsDigits rest) :
    (text.takeWhile isDigit ++ rest).dropWhile isDigit = rest :=
  dropWhile_isDigit_append (fun _ => List.mem_takeWhile_imp) hrest

end StubServer
