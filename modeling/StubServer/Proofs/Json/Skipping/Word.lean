import StubServer.Proofs.Json.Reading.Word

/-!
# Words that are read over

A string or a number that is read over is taken from the front of a text, and is read over alike with something else
behind it, if that does not go on with a number. Whatever is read as a string or a number is read over, too, up to the
same place.

## Main statements

* `exists_taken_of_skipString`, `exists_taken_of_skipNumber`: what is read over is taken from the front.
* `SpellsString.skipString_append`, `skipNumber_of_readNumber`: what is read is read over.
-/

namespace StubServer.Json

variable {text rest other : Text} {c : Char} {d : Digits} {n : Number} {negative : Bool}

/-! ### Strings -/

/-- **A string that is read over** is so with anything behind it. -/
theorem exists_taken_of_skipString (h : skipString text = .ok rest) :
    ∃ taken, text = taken ++ rest ∧ ∀ other, skipString (taken ++ other) = .ok other := by
  fun_induction skipString text with
  | case2 =>
      cases h
      exact ⟨['"'], rfl, fun other => by rw [List.singleton_append, skipString.eq_def]; rfl⟩
  | case4 h₁ h₂ h₃ h₄ _ hhex _ ih =>
      obtain ⟨taken, rfl, htaken⟩ := ih h
      refine ⟨'\\' :: 'u' :: h₁ :: h₂ :: h₃ :: h₄ :: taken, rfl, fun other => ?_⟩
      simp only [List.cons_append]
      rw [skipString.eq_def]
      simp [hhex, htaken]
  | case7 e _ hu he _ ih =>
      obtain ⟨taken, rfl, htaken⟩ := ih h
      refine ⟨'\\' :: e :: taken, rfl, fun other => ?_⟩
      simp only [List.cons_append]
      rw [skipString.eq_def]
      simp [hu, he, htaken]
  | case10 c _ hquote hbackslash hcontrol ih =>
      obtain ⟨taken, rfl, htaken⟩ := ih h
      refine ⟨c :: taken, rfl, fun other => ?_⟩
      rw [List.cons_append, skipString.eq_def]
      simp [hquote, hbackslash, hcontrol, htaken]
  | _ => cases h

/-- The text of a string is read over. -/
theorem SpellsString.skipString_append {cs : List Char} (h : SpellsString cs text) (rest : Text) :
    skipString (text ++ '"' :: rest) = .ok rest := by
  induction h with
  | nil =>
      rw [List.nil_append, skipString.eq_def]
      rfl
  | plain hquote hbackslash hcontrol _ ih =>
      rw [List.cons_append, skipString.eq_def]
      simp [hquote, hbackslash, hcontrol, ih]
  | @simple _ e _ _ he _ ih =>
      have hu : e ≠ 'u' := by
        rintro rfl
        simp [simpleEscape?] at he
      rw [List.cons_append, List.cons_append, skipString.eq_def]
      simp [hu, he, ih]
  | hex hn _ _ _ ih =>
      simp only [List.cons_append]
      rw [skipString.eq_def]
      simp [hn, ih]
  | pair hhigh hlow _ _ _ ih =>
      simp only [List.cons_append]
      rw [skipString.eq_def]
      simp only [hhigh]
      rw [skipString.eq_def]
      simp [hlow, ih]

/-! ### Numbers -/

/-- The digits of an exponent are read over. -/
def skipExponentDigits (text : Text) : Except Error Text :=
  match text with
  | [] => .error .invalidNumber
  | c :: rest => if isDigit c then .ok (rest.dropWhile isDigit) else .error .invalidNumber

/-- An exponent without a sign. -/
theorem skipExponent_of_ne (hplus : c ≠ '+') (hminus : c ≠ '-') (text : Text) :
    skipExponent (c :: text) = skipExponentDigits (c :: text) := by
  unfold skipExponent
  split
  · rename_i heq
    exact absurd (List.cons.inj heq).1 hplus
  · rename_i heq
    exact absurd (List.cons.inj heq).1 hminus
  · rfl

/-- What is behind the digits of a number: an exponent, or nothing that belongs to it. -/
def skipExponentOr (text : Text) : Except Error Text :=
  match text with
  | 'e' :: rest => skipExponent rest
  | 'E' :: rest => skipExponent rest
  | rest => .ok rest

/-- What is behind the point of a number. -/
def skipFraction (text : Text) : Except Error Text :=
  match text with
  | [] => .error .invalidNumber
  | c :: rest => if isDigit c then skipExponentOr (rest.dropWhile isDigit) else .error .invalidNumber

/-- What is behind the digits of a number: a fraction, an exponent, or nothing that belongs to it. -/
def skipFractionOr (text : Text) : Except Error Text :=
  match text with
  | '.' :: rest => skipFraction rest
  | rest => skipExponentOr rest

/-- A number has digits, and then a fraction, an exponent or nothing. -/
theorem skipNumber_eq (hc : isDigit c = true) (hzero : ¬ (c = '0' ∧ (text.head?.any isDigit) = true)) :
    skipNumber (c :: text) = skipFractionOr (text.dropWhile isDigit) := by
  unfold skipNumber
  simp only [hc, if_neg hzero, Bool.not_true, Bool.false_eq_true, if_false, List.dropWhile_cons_of_pos hc]
  cases text.dropWhile isDigit with
  | nil => rfl
  | cons d behind =>
      by_cases hpoint : d = '.'
      · subst hpoint
        cases behind with
        | nil => rfl
        | cons e behind =>
            simp only [skipFractionOr, skipFraction]
            cases he : isDigit e with
            | false => simp
            | true =>
                simp only [Bool.not_true, Bool.false_eq_true, if_false, if_true, List.dropWhile_cons_of_pos he]
                rfl
      by_cases hsmall : d = 'e'
      · subst hsmall
        rfl
      by_cases hcapital : d = 'E'
      · subst hcapital
        rfl
      simp [skipFractionOr, skipExponentOr, hpoint, hsmall, hcapital]

/-- The digits of an exponent are read over alike with something else behind them. -/
theorem exists_taken_of_skipExponentDigits (h : skipExponentDigits text = .ok rest) :
    ∃ taken, text = taken ++ rest ∧ ∀ other, EndsDigits other → skipExponentDigits (taken ++ other) = .ok other := by
  unfold skipExponentDigits at h
  split at h
  · cases h
  rename_i c more
  split at h
  · rename_i hc
    cases h
    refine ⟨c :: more.takeWhile isDigit, ?_, fun other hother => ?_⟩
    · rw [List.cons_append, List.takeWhile_append_dropWhile]
    · have hdrop := dropWhile_isDigit_takeWhile more hother
      simp only [List.cons_append, skipExponentDigits, if_pos hc, hdrop]
  · cases h

/-- An exponent is read over alike with something else behind it. -/
theorem exists_taken_of_skipExponent (h : skipExponent text = .ok rest) :
    ∃ taken, text = taken ++ rest ∧ ∀ other, EndsDigits other → skipExponent (taken ++ other) = .ok other := by
  cases text with
  | nil => cases h
  | cons c more =>
      by_cases hplus : c = '+'
      · subst hplus
        obtain ⟨taken, rfl, htaken⟩ := exists_taken_of_skipExponentDigits h
        exact ⟨'+' :: taken, rfl, htaken⟩
      by_cases hminus : c = '-'
      · subst hminus
        obtain ⟨taken, rfl, htaken⟩ := exists_taken_of_skipExponentDigits h
        exact ⟨'-' :: taken, rfl, htaken⟩
      rw [skipExponent_of_ne hplus hminus] at h
      obtain ⟨taken, htext, htaken⟩ := exists_taken_of_skipExponentDigits h
      refine ⟨taken, htext, fun other hother => ?_⟩
      have hskip := htaken other hother
      cases taken with
      | nil => cases (htaken [] nofun)
      | cons e taken =>
          obtain ⟨rfl, -⟩ := List.cons.inj htext
          rwa [List.cons_append, skipExponent_of_ne hplus hminus]

/-- What is behind the digits of a number is read over alike with something else behind it. -/
theorem exists_taken_of_skipExponentOr (h : skipExponentOr text = .ok rest) :
    ∃ taken, text = taken ++ rest ∧ ∀ other, EndsInteger other → skipExponentOr (taken ++ other) = .ok other := by
  unfold skipExponentOr at h
  split at h
  · obtain ⟨taken, rfl, htaken⟩ := exists_taken_of_skipExponent h
    exact ⟨'e' :: taken, rfl, fun other hother => htaken other hother.endsDigits⟩
  · obtain ⟨taken, rfl, htaken⟩ := exists_taken_of_skipExponent h
    exact ⟨'E' :: taken, rfl, fun other hother => htaken other hother.endsDigits⟩
  · cases h
    refine ⟨[], rfl, fun other hother => ?_⟩
    rw [List.nil_append]
    unfold skipExponentOr
    split
    · exact absurd (hother 'e' rfl) (by decide)
    · exact absurd (hother 'E' rfl) (by decide)
    · rfl

/-- A fraction is read over alike with something else behind it. -/
theorem exists_taken_of_skipFraction (h : skipFraction text = .ok rest) :
    ∃ taken, text = taken ++ rest ∧ ∀ other, EndsInteger other → skipFraction (taken ++ other) = .ok other := by
  unfold skipFraction at h
  split at h
  · cases h
  rename_i c more
  split at h
  · rename_i hc
    obtain ⟨taken, hbehind, htaken⟩ := exists_taken_of_skipExponentOr h
    refine ⟨c :: (more.takeWhile isDigit ++ taken), ?_, fun other hother => ?_⟩
    · rw [List.cons_append, List.append_assoc, ← hbehind, List.takeWhile_append_dropWhile]
    · have hends : EndsDigits (taken ++ other) :=
        .append (hbehind ▸ endsDigits_dropWhile more) hother.endsDigits
      have hdrop := dropWhile_isDigit_takeWhile more hends
      simp only [List.cons_append, List.append_assoc, skipFraction, if_pos hc, hdrop]
      exact htaken other hother
  · cases h

/-- What is behind the digits of a number is read over alike with something else behind it. -/
theorem exists_taken_of_skipFractionOr (h : skipFractionOr text = .ok rest) :
    ∃ taken, text = taken ++ rest ∧ ∀ other, EndsInteger other → skipFractionOr (taken ++ other) = .ok other := by
  unfold skipFractionOr at h
  split at h
  · obtain ⟨taken, rfl, htaken⟩ := exists_taken_of_skipFraction h
    exact ⟨'.' :: taken, rfl, htaken⟩
  · rename_i hpoint
    obtain ⟨taken, rfl, htaken⟩ := exists_taken_of_skipExponentOr h
    refine ⟨taken, rfl, fun other hother => ?_⟩
    have hskip := htaken other hother
    unfold skipFractionOr
    split
    · rename_i behind heq
      cases taken with
      | nil => exact absurd (hother '.' (by rw [← List.nil_append other, heq]; rfl)) (by decide)
      | cons e taken =>
          obtain ⟨rfl, -⟩ := List.cons.inj heq
          exact absurd rfl (hpoint _)
    · exact hskip

/-- **A number that is read over** is so with something else behind it that does not go on with it. -/
theorem exists_taken_of_skipNumber (h : skipNumber text = .ok rest) :
    ∃ taken, text = taken ++ rest ∧ ∀ other, EndsInteger other → skipNumber (taken ++ other) = .ok other := by
  have hstart : ∃ c more, text = c :: more ∧ isDigit c = true ∧ ¬ (c = '0' ∧ (more.head?.any isDigit) = true) := by
    unfold skipNumber at h
    split at h
    · cases h
    rename_i c more
    cases hc : isDigit c with
    | false => simp [hc] at h
    | true =>
        refine ⟨c, more, rfl, hc, fun hzero => ?_⟩
        simp [hzero] at h
  obtain ⟨c, more, rfl, hc, hzero⟩ := hstart
  rw [skipNumber_eq hc hzero] at h
  obtain ⟨taken, hbehind, htaken⟩ := exists_taken_of_skipFractionOr h
  have hmore : more = more.takeWhile isDigit ++ taken ++ rest := by
    rw [List.append_assoc, ← hbehind, List.takeWhile_append_dropWhile]
  refine ⟨c :: (more.takeWhile isDigit ++ taken), congrArg (c :: ·) hmore, fun other hother => ?_⟩
  have hends : EndsDigits (taken ++ other) := .append (hbehind ▸ endsDigits_dropWhile more) hother.endsDigits
  have hzeroOther : ¬ (c = '0' ∧ ((more.takeWhile isDigit ++ taken ++ other).head?.any isDigit) = true) := by
    cases hothers : more.takeWhile isDigit ++ taken with
    | nil => exact not_leadingZero (fun _ => rfl) hother.endsDigits
    | cons e others =>
        rw [hothers] at hmore
        rwa [hmore] at hzero
  rw [List.cons_append, skipNumber_eq hc hzeroOther, List.append_assoc, dropWhile_isDigit_takeWhile more hends]
  exact htaken other hother

/-- The digits of an exponent that are read are read over. -/
theorem skipExponentDigits_of_exponentDigits {down : Bool}
    (h : exponentDigits negative down d text = .ok (n, rest)) : skipExponentDigits text = .ok rest := by
  unfold exponentDigits at h
  split at h
  · cases h
  dsimp only at h
  split at h
  · rename_i hc
    obtain ⟨_, -, heq⟩ := exists_of_map_eq_ok h
    cases heq
    rw [skipExponentDigits, if_pos hc, List.dropWhile_cons_of_pos hc]
  · cases h

/-- An exponent that is read is read over. -/
theorem skipExponent_of_exponentPart (h : exponentPart negative d text = .ok (n, rest)) :
    skipExponent text = .ok rest := by
  cases text with
  | nil => cases h
  | cons c more =>
      by_cases hplus : c = '+'
      · subst hplus
        exact skipExponentDigits_of_exponentDigits h
      by_cases hminus : c = '-'
      · subst hminus
        exact skipExponentDigits_of_exponentDigits h
      rw [exponentPart_of_ne hplus hminus] at h
      rw [skipExponent_of_ne hplus hminus]
      exact skipExponentDigits_of_exponentDigits h

/-- What is read behind the digits of a number is read over. -/
theorem skipExponentOr_of_exponentOr {plain : Except Error Number}
    (h : exponentOr negative d plain text = .ok (n, rest)) : skipExponentOr text = .ok rest := by
  unfold exponentOr at h
  split at h
  · exact skipExponent_of_exponentPart h
  · exact skipExponent_of_exponentPart h
  · rename_i hsmall hcapital
    obtain ⟨_, -, heq⟩ := exists_of_map_eq_ok h
    cases heq
    unfold skipExponentOr
    split
    · exact absurd rfl (hsmall _)
    · exact absurd rfl (hcapital _)
    · rfl

/-- A fraction that is read is read over. -/
theorem skipFraction_of_fractionPart (h : fractionPart negative d text = .ok (n, rest)) :
    skipFraction text = .ok rest := by
  by_cases hdigits : text.takeWhile isDigit = []
  · cases hbehind : text.dropWhile isDigit <;> simp [fractionPart, hdigits, hbehind] at h
  · rw [fractionPart_eq hdigits] at h
    cases text with
    | nil => exact absurd rfl hdigits
    | cons c more =>
        have hc : isDigit c = true := by
          cases hc : isDigit c with
          | true => rfl
          | false => simp [hc] at hdigits
        have hskip := skipExponentOr_of_exponentOr h
        rw [List.dropWhile_cons_of_pos hc] at hskip
        rw [skipFraction, if_pos hc]
        exact hskip

/-- What is read behind the digits of a number is read over. -/
theorem skipFractionOr_of_fractionOr {plain : Except Error Number}
    (h : fractionOr negative d plain text = .ok (n, rest)) : skipFractionOr text = .ok rest := by
  unfold fractionOr at h
  split at h
  · exact skipFraction_of_fractionPart h
  · rename_i hpoint
    unfold skipFractionOr
    split
    · exact absurd rfl (hpoint _)
    · exact skipExponentOr_of_exponentOr h

/-- **A number that is read is read over.** -/
theorem skipNumber_of_readNumber (h : readNumber negative text = .ok (n, rest)) : skipNumber text = .ok rest := by
  obtain ⟨c, more, rfl, hc, hzero⟩ := exists_of_readNumber_eq_ok h
  rw [readNumber_eq hc hzero, List.dropWhile_cons_of_pos hc] at h
  rw [skipNumber_eq hc hzero]
  exact skipFractionOr_of_fractionOr h

end StubServer.Json
