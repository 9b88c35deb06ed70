import StubServer.Proofs.Text.Decimal
import StubServer.Text.Integer

/-!
# Which texts are integers

`Spells` says how an integer of 64 bits is written: in decimal digits, as many as one likes, perhaps after a sign,
with a value that fits. These are the texts that are read (`readInteger?_eq_some_iff`), and the decimal text of
every integer of 64 bits is one of them (`spells_intText`).
-/

namespace StubServer

variable {text digits : List Char} {id : Int} {n : Nat}

/-- The text consists of decimal digits, of which there is at least one. -/
structure AreDigits (digits : List Char) : Prop where
  nonempty : digits ≠ []
  all : ∀ c ∈ digits, c.isDigit = true

/-- The value of decimal digits. -/
def digitsValue (digits : List Char) : Nat :=
  Nat.ofDigitChars 10 digits 0

/-- How an integer of 64 bits is written. -/
inductive Spells : List Char → Int → Prop
  | plain {digits : List Char} (h : AreDigits digits) (hfits : digitsValue digits ≤ 9223372036854775807) :
      Spells digits (digitsValue digits)
  | plus {digits : List Char} (h : AreDigits digits) (hfits : digitsValue digits ≤ 9223372036854775807) :
      Spells ('+' :: digits) (digitsValue digits)
  | minus {digits : List Char} (h : AreDigits digits) (hfits : digitsValue digits ≤ 9223372036854775808) :
      Spells ('-' :: digits) (-(digitsValue digits : Int))

/-! ### Reading -/

/-- Digits are read as their value, and nothing else is. -/
theorem readDigits?_eq_some_iff : readDigits? digits = some n ↔ AreDigits digits ∧ digitsValue digits = n := by
  unfold readDigits?
  split
  · rename_i h
    rw [Bool.and_eq_true, List.all_eq_true] at h
    have hdigits : AreDigits digits := ⟨by simpa using h.1, h.2⟩
    rw [digitsValue, Nat.ofDigitChars_eq_foldl, Option.some.injEq]
    exact (and_iff_right hdigits).symm
  · rename_i h
    refine iff_of_false nofun fun hread => h ?_
    rw [Bool.and_eq_true, List.all_eq_true]
    exact ⟨by simpa using hread.1.nonempty, hread.1.all⟩

/-- Digits are read as a number that fits, and nothing else is. -/
theorem readDigits?_bind_eq_some_iff {limit : Nat} {sign : Nat → Int} :
    ((readDigits? digits).bind fun n => if n ≤ limit then some (sign n) else none) = some id ↔
      AreDigits digits ∧ digitsValue digits ≤ limit ∧ sign (digitsValue digits) = id := by
  rw [Option.bind_eq_some_iff]
  constructor
  · rintro ⟨n, hread, hfits⟩
    obtain ⟨hdigits, rfl⟩ := readDigits?_eq_some_iff.mp hread
    split at hfits
    · exact ⟨hdigits, ‹_›, Option.some.inj hfits⟩
    · cases hfits
  · rintro ⟨hdigits, hfits, rfl⟩
    exact ⟨_, readDigits?_eq_some_iff.mpr ⟨hdigits, rfl⟩, if_pos hfits⟩

/-- **The texts that are read** are those that spell an integer. -/
theorem readInteger?_eq_some_iff : readInteger? text = some id ↔ Spells text id := by
  constructor
  · intro h
    unfold readInteger? at h
    split at h
    · obtain ⟨hdigits, hfits, rfl⟩ := readDigits?_bind_eq_some_iff.mp h
      exact .minus hdigits hfits
    · obtain ⟨hdigits, hfits, rfl⟩ := readDigits?_bind_eq_some_iff.mp h
      exact .plus hdigits hfits
    · obtain ⟨hdigits, hfits, rfl⟩ := readDigits?_bind_eq_some_iff.mp h
      exact .plain hdigits hfits
  · intro h
    cases h with
    | plus hdigits hfits => exact readDigits?_bind_eq_some_iff.mpr ⟨hdigits, hfits, rfl⟩
    | minus hdigits hfits => exact readDigits?_bind_eq_some_iff.mpr ⟨hdigits, hfits, rfl⟩
    | plain hdigits hfits =>
        have hsign : ∀ c rest, text = c :: rest → c.isDigit = true :=
          fun c rest heq => hdigits.all c (heq ▸ List.mem_cons_self)
        unfold readInteger?
        split
        · exact absurd (hsign '-' _ rfl) (by decide)
        · exact absurd (hsign '+' _ rfl) (by decide)
        · exact readDigits?_bind_eq_some_iff.mpr ⟨hdigits, hfits, rfl⟩

/-- An integer is written without slashes, and not by the empty text. -/
theorem Spells.proper (h : Spells text id) : text ≠ [] ∧ '/' ∉ text := by
  have hslash : ∀ {digits : List Char}, AreDigits digits → '/' ∉ digits :=
    fun h hmem => absurd (h.all '/' hmem) (by decide)
  cases h with
  | plain h => exact ⟨h.nonempty, hslash h⟩
  | plus h => exact ⟨by simp, by simpa using hslash h⟩
  | minus h => exact ⟨by simp, by simpa using hslash h⟩

/-- A word that is not read as an integer is no text that spells one. -/
theorem Spells.ne_word (h : Spells text id) (word : List Char) (hword : readInteger? word = none) : text ≠ word := by
  rintro rfl
  cases (readInteger?_eq_some_iff.mpr h).symm.trans hword

/-! ### Decimal texts -/

/-- The digits of a number are digits. -/
theorem areDigits_decimalDigits (n : Nat) : AreDigits (decimalDigits n) := by
  obtain ⟨first, others, heq, -⟩ := exists_decimalDigits n
  exact ⟨by simp [heq], fun c hc => Nat.isDigit_of_mem_toDigits (by decide) (by decide) hc⟩

/-- The value of the digits of a number is the number. -/
theorem digitsValue_decimalDigits (n : Nat) : digitsValue (decimalDigits n) = n :=
  Nat.ofDigitChars_toDigits (by decide) (by decide)

/-- **The decimal text** of an integer of 64 bits spells it. -/
theorem spells_intText (hleast : -9223372036854775808 ≤ id) (hgreatest : id ≤ 9223372036854775807) :
    Spells (intText id) id := by
  have hdigits := areDigits_decimalDigits id.natAbs
  have hvalue := digitsValue_decimalDigits id.natAbs
  unfold intText
  split
  · have hid : -(digitsValue (decimalDigits id.natAbs) : Int) = id := by omega
    have hspells := Spells.minus hdigits (by omega)
    rwa [hid] at hspells
  · have hid : (digitsValue (decimalDigits id.natAbs) : Int) = id := by omega
    have hspells := Spells.plain hdigits (by omega)
    rwa [hid] at hspells

end StubServer
