import StubServer.Json.Source
import StubServer.Proofs.Json.Lexeme

/-!
# Values that are written are read back

The questions that a text is asked get the answers that were written into it, after any blanks and with
anything behind that does not go on with a number.

## Main statements

* `stringText?_append`, `numberText_append`, `boolText?_append`, `variantText_append`,
  `readValue_append`: the answers.
* `int_append`, `optional_append`: the same for integers within bounds and for what may be missing.
-/

namespace StubServer.Json

variable {gap rest : Text} {c : Char} {α : Type}

/-! ### What comes next -/

/-- Up to what is not blank, blanks are skipped. -/
theorem atNext_append (hgap : Blank gap) (hc : isSpace c = false) (rest : Text)
    (k : Char → Text → Except Error α) : atNext (gap ++ c :: rest) k = k c rest := by
  rw [atNext, skipSpace_append_cons hgap hc]

/-- What does not start like null is not null. -/
theorem nullText?_append (hgap : Blank gap) (hc : isSpace c = false) (hnull : c ≠ 'n') (rest : Text) :
    nullText? (gap ++ c :: rest) = .ok none := by
  rw [nullText?, skipSpace_append_cons hgap hc]
  split
  · rename_i heq
    exact absurd (List.cons.inj heq).1 hnull
  · rfl

/-! ### Strings -/

/-- The text of a string, with what comes after it. -/
theorem stringText_append (s : String) (rest : Text) :
    stringText s ++ rest = '"' :: (escape s.toList ++ '"' :: rest) := by
  simp [stringText]

/-- **A string** is read back. -/
theorem stringText?_append (hgap : Blank gap) (expected s : String) (rest : Text) :
    stringText? [] expected (gap ++ (stringText s ++ rest)) = .ok (s, rest) := by
  rw [stringText_append, stringText?, atNext_append hgap (by decide), if_pos rfl, readCharacters_nil, readString_escape]
  simp [Except.map]

/-- **One of the names** is read back. -/
theorem variantText_append (hgap : Blank gap) (depth : Nat) {names : List String} {name : String}
    (hname : name ∈ names) (rest : Text) :
    variantText [] depth names (gap ++ (stringText name ++ rest)) = .ok (name, rest) := by
  rw [stringText_append, variantText, atNext_append hgap (by decide), if_pos rfl, readCharacters_nil, readString_escape]
  simp [bind, Except.bind, chooseVariant, hname, pure, Except.pure]

/-- A string is read back where any value may stand. -/
theorem readValue_append (hgap : Blank gap) (fuel depth : Nat) (s : String) (rest : Text) :
    readValue [] (fuel + 1) depth (gap ++ (stringText s ++ rest)) = .ok (.string s, rest) := by
  rw [stringText_append, readValue, skipSpace_append_cons hgap (by decide)]
  simp [readString_escape, Except.map, isDigit]

/-! ### Truth values and numbers -/

/-- **A truth value** is read back. -/
theorem boolText?_append (hgap : Blank gap) (b : Bool) (rest : Text) :
    boolText? [] (gap ++ (boolText b ++ rest)) = .ok (b, rest) := by
  cases b with
  | true =>
      have hword := readWord_append ['r', 'u', 'e'] rest
      change boolText? [] (gap ++ 't' :: (['r', 'u', 'e'] ++ rest)) = _
      rw [boolText?, atNext_append hgap (by decide), if_pos rfl, hword]
      rfl
  | false =>
      have hword := readWord_append ['a', 'l', 's', 'e'] rest
      change boolText? [] (gap ++ 'f' :: (['a', 'l', 's', 'e'] ++ rest)) = _
      rw [boolText?, atNext_append hgap (by decide), if_neg (by decide), if_pos rfl, hword]
      rfl

/-- An integer starts with a minus sign or a digit. -/
theorem exists_intText (i : Int) :
    ∃ first others, intText i = first :: others ∧ (first = '-' ∨ isDigit first = true) := by
  unfold intText
  split
  · exact ⟨_, _, rfl, .inl rfl⟩
  · obtain ⟨first, others, hdigits, -⟩ := exists_decimalDigits i.natAbs
    exact ⟨first, others, hdigits, .inr (isDigit_of_mem_decimalDigits (hdigits ▸ List.mem_cons_self))⟩

/-- What is no digit is none of the characters that are digits. -/
theorem ne_of_isDigit {d : Char} (hc : isDigit c = true) (hd : isDigit d = false) : c ≠ d := by
  rintro rfl
  exact Bool.noConfusion (hc.symm.trans hd)

/-- What starts an integer is not blank. -/
theorem isSpace_eq_false (h : c = '-' ∨ isDigit c = true) : isSpace c = false := by
  rcases h with rfl | hdigit
  · decide
  · have hblank : c ≠ ' ' := ne_of_isDigit hdigit (by decide)
    have hline : c ≠ '\n' := ne_of_isDigit hdigit (by decide)
    have htab : c ≠ '\t' := ne_of_isDigit hdigit (by decide)
    have hreturn : c ≠ '\r' := ne_of_isDigit hdigit (by decide)
    simp [isSpace, hblank, hline, htab, hreturn]

/-- The digits of an integer below zero are read back. -/
theorem integer_of_neg {i : Int} (hrange : InRange i) (hneg : i < 0) :
    Digits.integer true { significand := i.natAbs } = .integer i hrange := by
  have hzero : i.natAbs ≠ 0 := by omega
  have habs : -(i.natAbs : Int) = i := by omega
  have hfits : Number.ofInt? i = some (.integer i hrange) := dif_pos hrange
  rw [Digits.integer, if_pos rfl]
  dsimp only
  rw [if_neg hzero, habs, hfits]

/-- The digits of any other integer are read back. -/
theorem integer_of_nonneg {i : Int} (hrange : InRange i) (hnonneg : ¬ i < 0) :
    Digits.integer false { significand := i.natAbs } = .integer i hrange := by
  have habs : (i.natAbs : Int) = i := by omega
  have hfits : Number.ofInt? i = some (.integer i hrange) := dif_pos hrange
  rw [Digits.integer, if_neg Bool.false_ne_true]
  dsimp only
  rw [habs, hfits]

/-- The digits of an integer in range all count. -/
theorem natAbs_le_significandMax {i : Int} (hrange : InRange i) : i.natAbs ≤ significandMax := by
  obtain ⟨hlow, hhigh⟩ := hrange
  unfold significandMax
  omega

/-- **An integer** is read back. -/
theorem numberText_append (hgap : Blank gap) (expected : String) {i : Int} (hrange : InRange i)
    (hrest : EndsInteger rest) :
    numberText [] expected (gap ++ (intText i ++ rest)) = .ok (.integer i hrange, rest) := by
  have hmax := natAbs_le_significandMax hrange
  unfold intText
  split
  · rename_i hneg
    rw [List.cons_append, numberText, atNext_append hgap (by decide), if_pos rfl,
      readNumber_decimalDigits hmax true hrest, integer_of_neg hrange hneg]
  · rename_i hnonneg
    obtain ⟨first, others, hdigits, -⟩ := exists_decimalDigits i.natAbs
    have hfirst : isDigit first = true := isDigit_of_mem_decimalDigits (hdigits ▸ List.mem_cons_self)
    have hread := readNumber_decimalDigits hmax false hrest
    rw [hdigits, List.cons_append] at hread ⊢
    rw [numberText, atNext_append hgap (isSpace_eq_false (.inr hfirst)),
      if_neg (ne_of_isDigit hfirst (by decide)), if_pos hfirst, hread, integer_of_nonneg hrange hnonneg]

/-- An integer within bounds is read back as such. -/
theorem int_append (hgap : Blank gap) (depth : Nat) {low high i : Int} (expected : String)
    (hlow : low ≤ i) (hhigh : i ≤ high) (hrange : InRange i) (hrest : EndsInteger rest) :
    (Source.text [] depth).int low high expected (gap ++ (intText i ++ rest)) = .ok (i, rest) := by
  have hnumber : (Source.text [] depth).number expected (gap ++ (intText i ++ rest)) =
      .ok (.integer i hrange, rest) := numberText_append hgap expected hrange hrest
  unfold Source.int
  rw [hnumber]
  simp [bind, Except.bind, boundedInt, hlow, hhigh, pure, Except.pure]

/-- **What may be missing** is read back if it is there and does not start like null. -/
theorem optional_append (hgap : Blank gap) (hc : isSpace c = false) (hnull : c ≠ 'n') (depth : Nat)
    {read : Text → Except Error (α × Text)} {others : Text} {v : α}
    (hread : read (gap ++ c :: others) = .ok (v, rest)) :
    (Source.text [] depth).optional read (gap ++ c :: others) = .ok (some v, rest) := by
  have hnone : (Source.text [] depth).null? (gap ++ c :: others) = .ok none :=
    nullText?_append hgap hc hnull others
  unfold Source.optional
  rw [hnone]
  simp [bind, Except.bind, hread, pure, Except.pure]

end StubServer.Json
