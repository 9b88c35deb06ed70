import StubServer.Json.Write
import StubServer.Proofs.Text.Decimal

/-!
# Words that are written are read back

Each word of a JSON text, with whatever stands after it, is read as what was written. Strings are read
back whatever their characters are; integers where something comes next that does not go on with a
number.

## Main statements

* `skipSpace_append`: blanks do not matter.
* `SpellsString`: the ways to write a string; `SpellsString.readString_append`: each of them is read.
* `readString_escape`: a string is read back.
* `readNumber_decimalDigits`: the digits of an integer are read back.
-/

namespace StubServer.Json

variable {text rest gap : Text} {c : Char}

/-! ### Blanks -/

/-- Nothing but blanks. -/
def Blank (gap : Text) : Prop :=
  ∀ c ∈ gap, isSpace c = true

/-- Blanks are skipped. -/
theorem skipSpace_append (h : Blank gap) (text : Text) : skipSpace (gap ++ text) = skipSpace text :=
  List.dropWhile_append_of_pos h

/-- Up to what is not blank, blanks are skipped. -/
theorem skipSpace_append_cons (h : Blank gap) (hc : isSpace c = false) (text : Text) :
    skipSpace (gap ++ c :: text) = c :: text := by
  rw [skipSpace_append h, skipSpace, List.dropWhile_cons_of_neg (by simp [hc])]

/-! ### Words -/

/-- A literal word is read back. -/
theorem readWord_append (word rest : List Char) : readWord word (word ++ rest) = .ok rest := by
  induction word with
  | nil => cases rest <;> rfl
  | cons c word ih => simpa [readWord] using ih

/-! ### Strings -/

/-- In a text that was not made from bytes, every string is made of characters. -/
@[simp] theorem readCharacters_nil (text : Text) : readCharacters [] text = readString text := by
  rw [readCharacters]
  rcases readString text with _ | ⟨_, _⟩ <;> rfl

/-- The digits of base 16 are read back. -/
theorem hexDigit?_hexChar : ∀ n, n < 16 → hexDigit? (hexChar n) = some n := by
  decide

/-- An escaped control character is read back. -/
theorem hex?_hexChar {n : Nat} (h : n < 0x20) :
    hex? '0' '0' (hexChar (n / 16)) (hexChar (n % 16)) = some n := by
  have hzero : hexDigit? '0' = some 0 := by decide
  have hhigh := hexDigit?_hexChar (n / 16) (by omega)
  have hlow := hexDigit?_hexChar (n % 16) (by omega)
  simp only [hex?, hzero, hhigh, hlow, bind, Option.bind, pure]
  exact congrArg some (by omega)

/-- The closing quote ends a string. -/
theorem readString_quote (rest : Text) : readString ('"' :: rest) = .ok ([], rest) := by
  rw [readString.eq_def]
  rfl

/-- An escape of one character is read as what it stands for. -/
theorem readString_simpleEscape {e : Char} (hu : e ≠ 'u') (he : simpleEscape? e = some c)
    (rest : Text) : readString ('\\' :: e :: rest) = prepend c (readString rest) := by
  rw [readString.eq_def]
  simp [hu, he]

/-- An escape of four digits that is no surrogate is read as the character with that number. -/
theorem readString_hex {n : Nat} {h₁ h₂ h₃ h₄ : Char} (hn : hex? h₁ h₂ h₃ h₄ = some n)
    (hlow : isLowSurrogate n = false) (hhigh : isHighSurrogate n = false) (rest : Text) :
    readString ('\\' :: 'u' :: h₁ :: h₂ :: h₃ :: h₄ :: rest) =
      prepend (Char.ofNat n) (readString rest) := by
  rw [readString.eq_def]
  simp [hn, hlow, hhigh]

/-- What opens a pair of surrogates does not close one. -/
theorem isLowSurrogate_of_isHighSurrogate {n : Nat} (h : isHighSurrogate n = true) :
    isLowSurrogate n = false := by
  simp [isHighSurrogate, isLowSurrogate] at h ⊢
  omega

/-- Two escapes that are a pair of surrogates are read as the character of the pair. -/
theorem readString_pair {high low : Nat} {h₁ h₂ h₃ h₄ l₁ l₂ l₃ l₄ : Char}
    (hhigh : hex? h₁ h₂ h₃ h₄ = some high) (hlow : hex? l₁ l₂ l₃ l₄ = some low)
    (hopens : isHighSurrogate high = true) (hcloses : isLowSurrogate low = true) (rest : Text) :
    readString ('\\' :: 'u' :: h₁ :: h₂ :: h₃ :: h₄ :: '\\' :: 'u' :: l₁ :: l₂ :: l₃ :: l₄ :: rest) =
      prepend (pairChar high low) (readString rest) := by
  rw [readString.eq_def]
  simp [hhigh, hlow, hopens, hcloses, isLowSurrogate_of_isHighSurrogate hopens]

/-- Any other character stands for itself. -/
theorem readString_plain (hquote : c ≠ '"') (hbackslash : c ≠ '\\') (hcontrol : ¬ c.toNat < 0x20)
    (rest : Text) : readString (c :: rest) = prepend c (readString rest) := by
  rw [readString.eq_def]
  simp [hquote, hbackslash, hcontrol]

/-- The ways to write the characters of a string between its quotes. -/
inductive SpellsString : List Char → Text → Prop
  /-- No characters. -/
  | nil : SpellsString [] []
  /-- A character as itself. -/
  | plain {c : Char} {cs : List Char} {text : Text} (hquote : c ≠ '"') (hbackslash : c ≠ '\\')
      (hcontrol : ¬ c.toNat < 0x20) (h : SpellsString cs text) : SpellsString (c :: cs) (c :: text)
  /-- A character by its letter, or behind a backslash. -/
  | simple {c e : Char} {cs : List Char} {text : Text} (he : simpleEscape? e = some c)
      (h : SpellsString cs text) : SpellsString (c :: cs) ('\\' :: e :: text)
  /-- A character by its number. -/
  | hex {n : Nat} {h₁ h₂ h₃ h₄ : Char} {cs : List Char} {text : Text} (hn : hex? h₁ h₂ h₃ h₄ = some n)
      (hlow : isLowSurrogate n = false) (hhigh : isHighSurrogate n = false) (h : SpellsString cs text) :
      SpellsString (Char.ofNat n :: cs) ('\\' :: 'u' :: h₁ :: h₂ :: h₃ :: h₄ :: text)
  /-- A character by the numbers of a pair of surrogates. -/
  | pair {high low : Nat} {h₁ h₂ h₃ h₄ l₁ l₂ l₃ l₄ : Char} {cs : List Char} {text : Text}
      (hhigh : hex? h₁ h₂ h₃ h₄ = some high) (hlow : hex? l₁ l₂ l₃ l₄ = some low)
      (hopens : isHighSurrogate high = true) (hcloses : isLowSurrogate low = true)
      (h : SpellsString cs text) :
      SpellsString (pairChar high low :: cs)
        ('\\' :: 'u' :: h₁ :: h₂ :: h₃ :: h₄ :: '\\' :: 'u' :: l₁ :: l₂ :: l₃ :: l₄ :: text)

/-- **A string is read** however it is written. -/
theorem SpellsString.readString_append {cs : List Char} (h : SpellsString cs text) (rest : Text) :
    readString (text ++ '"' :: rest) = .ok (cs, rest) := by
  induction h with
  | nil => exact readString_quote rest
  | plain hquote hbackslash hcontrol h ih =>
      rw [List.cons_append, readString_plain hquote hbackslash hcontrol, ih]
      rfl
  | @simple _ e _ _ he h ih =>
      have hu : e ≠ 'u' := by
        rintro rfl
        simp [simpleEscape?] at he
      simp only [List.cons_append]
      rw [readString_simpleEscape hu he, ih]
      rfl
  | hex hn hlow hhigh h ih =>
      simp only [List.cons_append]
      rw [readString_hex hn hlow hhigh, ih]
      rfl
  | pair hhigh hlow hopens hcloses h ih =>
      simp only [List.cons_append]
      rw [readString_pair hhigh hlow hopens hcloses, ih]
      rfl

/-- The escape of a character is a way to write it. -/
theorem SpellsString.escapeChar_append {cs : List Char} (h : SpellsString cs text) (c : Char) :
    SpellsString (c :: cs) (escapeChar c ++ text) := by
  unfold escapeChar
  iterate 7
    split
    · subst c
      exact .simple (by decide) h
  split
  · rename_i hcontrol
    have hlow : isLowSurrogate c.toNat = false := by simp [isLowSurrogate]; omega
    have hhigh : isHighSurrogate c.toNat = false := by simp [isHighSurrogate]; omega
    have hspells := SpellsString.hex (hex?_hexChar hcontrol) hlow hhigh h
    rwa [Char.ofNat_toNat] at hspells
  · exact .plain ‹_› ‹_› ‹_› h

/-- The text with the escapes in place is a way to write a string. -/
theorem spellsString_escape (cs : List Char) : SpellsString cs (escape cs) := by
  induction cs with
  | nil => exact .nil
  | cons c cs ih => exact ih.escapeChar_append c

/-- **A string is read back**, whatever its characters are. -/
theorem readString_escape (cs : List Char) (rest : Text) :
    readString (escape cs ++ '"' :: rest) = .ok (cs, rest) :=
  (spellsString_escape cs).readString_append rest

/-! ### Numbers -/

/-- Whether a character goes on with an integer, as such or as another number. -/
def goesOn (c : Char) : Bool :=
  isDigit c || c == '.' || c == 'e' || c == 'E'

/-- Something comes next, if anything, that does not go on with an integer. -/
def EndsInteger (rest : Text) : Prop :=
  ∀ c ∈ rest.head?, goesOn c = false

/-- The digits of an integer end with it. -/
theorem EndsInteger.endsDigits (h : EndsInteger rest) : EndsDigits rest := by
  intro c hc
  have hgoesOn := h c hc
  simp only [goesOn, Bool.or_eq_false_iff] at hgoesOn
  exact hgoesOn.1.1.1

/-- Digits are collected as long as there is room. -/
theorem foldl_pushWhole (digits : List Char) (d : Digits)
    (hfull : d.full = false)
    (hmax : digits.foldl (fun n c => n * 10 + digit c) d.significand ≤ significandMax) :
    digits.foldl (fun d c => d.pushWhole (digit c)) d =
      { d with significand := digits.foldl (fun n c => n * 10 + digit c) d.significand } := by
  induction digits generalizing d with
  | nil => rfl
  | cons c digits ih =>
      rw [List.foldl_cons] at hmax
      have hgrows : ∀ (digits : List Char) (n : Nat),
          n ≤ digits.foldl (fun n c => n * 10 + digit c) n := by
        intro digits
        induction digits with
        | nil => exact fun n => Nat.le_refl n
        | cons c digits ih => exact fun n => Nat.le_trans (by omega) (ih (n * 10 + digit c))
      have hroom : ¬ significandMax < d.significand * 10 + digit c :=
        Nat.not_lt.mpr (Nat.le_trans (hgrows digits _) hmax)
      have hpush : d.pushWhole (digit c) = { d with significand := d.significand * 10 + digit c } := by
        simp [Digits.pushWhole, hfull, hroom]
      rw [List.foldl_cons, hpush]
      exact ih _ hfull hmax

/-- A number that starts with a zero has no other digit before its end. -/
theorem not_leadingZero {first : Char} {others : List Char} (hfirst : first = '0' → others = [])
    (hrest : EndsDigits rest) : ¬ (first = '0' ∧ ((others ++ rest).head?.any isDigit) = true) := by
  rintro ⟨hzero, hany⟩
  rw [hfirst hzero, List.nil_append] at hany
  cases hhead : rest.head? with
  | none => simp [hhead] at hany
  | some c => simp [hhead, hrest c hhead] at hany

/-- **The digits of an integer are read back.** -/
theorem readNumber_decimalDigits {n : Nat} (hmax : n ≤ significandMax) (negative : Bool)
    (hrest : EndsInteger rest) :
    readNumber negative (decimalDigits n ++ rest) =
      .ok (Digits.integer negative { significand := n }, rest) := by
  obtain ⟨first, others, hdigits, hfirst⟩ := exists_decimalDigits n
  have hdigit : ∀ c ∈ decimalDigits n, isDigit c = true := fun _ => isDigit_of_mem_decimalDigits
  have htake := takeWhile_isDigit_append hdigit hrest.endsDigits
  have hdrop := dropWhile_isDigit_append hdigit hrest.endsDigits
  have hvalue := foldl_pushWhole (decimalDigits n) {} rfl (by rwa [foldl_decimalDigits])
  rw [foldl_decimalDigits] at hvalue
  have hzero := not_leadingZero hfirst hrest.endsDigits
  have hstart : isDigit first = true := hdigit first (hdigits ▸ List.mem_cons_self)
  have htext : decimalDigits n ++ rest = first :: (others ++ rest) := by rw [hdigits]; rfl
  rw [htext] at htake hdrop ⊢
  simp only [readNumber, hstart, Bool.not_true, Bool.false_eq_true, if_false, if_neg hzero, htake, hdrop,
    hvalue]
  cases rest with
  | nil => rfl
  | cons c rest =>
      have hne : ∀ d, goesOn d = true → c ≠ d := by
        rintro d hd rfl
        exact Bool.noConfusion (hd.symm.trans (hrest c rfl))
      split
      · rename_i heq
        exact absurd (List.cons.inj heq).1 (hne '.' (by decide))
      · rename_i heq
        exact absurd (List.cons.inj heq).1 (hne 'e' (by decide))
      · rename_i heq
        exact absurd (List.cons.inj heq).1 (hne 'E' (by decide))
      · rfl

end StubServer.Json
