import StubServer.Proofs.Json.RoundTrip

/-!
# Words that are read

Strings, numbers and what stands between values are read as they are written: what a reader takes from the front of a
text is one of the texts of what it gives, and is taken alike with something else behind it.

## Main statements

* `exists_spellsString_of_readString`, `exists_taken_of_readNumber`: strings and numbers.
* `exists_gap_of_nextItem`, `exists_spelled_of_nextName`, `exists_gap_of_colon`: what stands between values.
* `exists_left_of_nextItem`, `exists_left_of_nextName`: it is found again with something else behind it.
-/

namespace StubServer.Json

variable {text rest : Text} {c : Char} {d : Digits} {n : Number} {negative : Bool}

/-! ### Strings -/

/-- A string with a character before it was read. -/
theorem exists_of_prepend {following : Reading (List Char)} {cs : List Char}
    (h : prepend c following = .ok (cs, rest)) : ∃ others, cs = c :: others ∧ following = .ok (others, rest) := by
  obtain ⟨⟨others, after⟩, hfollowing, heq⟩ := exists_of_map_eq_ok h
  obtain ⟨rfl, rfl⟩ := Prod.mk.inj heq
  exact ⟨others, rfl, hfollowing⟩

/-- **A string that is read** is one of its texts, up to the closing quote. -/
theorem exists_spellsString_of_readString {cs : List Char} (h : readString text = .ok (cs, rest)) :
    ∃ taken, text = taken ++ '"' :: rest ∧ SpellsString cs taken := by
  fun_induction readString text generalizing cs with
  | case2 =>
      cases h
      exact ⟨[], rfl, .nil⟩
  | case11 h₁ h₂ h₃ h₄ high hhex hlow hhigh b hb u hu l₁ l₂ l₃ l₄ _ low hhex' hlow' _ ih =>
      obtain ⟨others, rfl, hread⟩ := exists_of_prepend h
      obtain ⟨taken, rfl, hspells⟩ := ih hread
      obtain rfl : b = '\\' := Decidable.not_not.mp hb
      obtain rfl : u = 'u' := Decidable.not_not.mp hu
      exact ⟨_, rfl, .pair hhex hhex' hhigh hlow' hspells⟩
  | case14 h₁ h₂ h₃ h₄ _ n hhex hlow hhigh _ ih =>
      obtain ⟨others, rfl, hread⟩ := exists_of_prepend h
      obtain ⟨taken, rfl, hspells⟩ := ih hread
      exact ⟨_, rfl, .hex hhex (eq_false_of_ne_true hlow) (eq_false_of_ne_true hhigh) hspells⟩
  | case16 e _ _ c he _ ih =>
      obtain ⟨others, rfl, hread⟩ := exists_of_prepend h
      obtain ⟨taken, rfl, hspells⟩ := ih hread
      exact ⟨_, rfl, .simple he hspells⟩
  | case19 c _ hquote hbackslash hcontrol ih =>
      obtain ⟨others, rfl, hread⟩ := exists_of_prepend h
      obtain ⟨taken, rfl, hspells⟩ := ih hread
      exact ⟨_, rfl, .plain hquote hbackslash hcontrol hspells⟩
  | _ => cases h

/-! ### Numbers -/

/-- The digits of an exponent are read alike where they stand alone. -/
theorem exists_taken_of_exponentDigits {down : Bool} (h : exponentDigits negative down d text = .ok (n, rest)) :
    ∃ taken, text = taken ++ rest ∧ exponentDigits negative down d taken = .ok (n, []) := by
  cases text with
  | nil => cases h
  | cons c more =>
      unfold exponentDigits at h
      dsimp only at h
      by_cases hc : isDigit c = true
      · have hfirst : (c :: more).takeWhile isDigit = c :: more.takeWhile isDigit := List.takeWhile_cons_of_pos hc
        have htake := takeWhile_isDigit_takeWhile (c :: more) (show EndsDigits [] from nofun)
        have hdrop := dropWhile_isDigit_takeWhile (c :: more) (show EndsDigits [] from nofun)
        rw [if_pos hc] at h
        obtain ⟨m, hreal, heq⟩ := exists_of_map_eq_ok h
        obtain ⟨rfl, rfl⟩ := Prod.mk.inj heq
        refine ⟨(c :: more).takeWhile isDigit, List.takeWhile_append_dropWhile.symm, ?_⟩
        rw [List.append_nil, hfirst] at htake hdrop
        rw [hfirst] at hreal ⊢
        unfold exponentDigits
        simp only [if_pos hc, htake, hdrop, hreal]
        rfl
      · rw [if_neg hc] at h
        cases h

/-- An exponent is read alike where it stands alone. -/
theorem exists_taken_of_exponentPart (h : exponentPart negative d text = .ok (n, rest)) :
    ∃ taken, text = taken ++ rest ∧ exponentPart negative d taken = .ok (n, []) := by
  cases text with
  | nil => cases h
  | cons c more =>
      by_cases hplus : c = '+'
      · subst hplus
        obtain ⟨taken, rfl, htaken⟩ := exists_taken_of_exponentDigits h
        exact ⟨'+' :: taken, rfl, htaken⟩
      by_cases hminus : c = '-'
      · subst hminus
        obtain ⟨taken, rfl, htaken⟩ := exists_taken_of_exponentDigits h
        exact ⟨'-' :: taken, rfl, htaken⟩
      rw [exponentPart_of_ne hplus hminus] at h
      obtain ⟨taken, htext, htaken⟩ := exists_taken_of_exponentDigits h
      refine ⟨taken, htext, ?_⟩
      cases taken with
      | nil => cases htaken
      | cons e taken =>
          obtain ⟨rfl, -⟩ := List.cons.inj htext
          rwa [exponentPart_of_ne hplus hminus]

/-- What is behind the digits of a number is read alike where it stands alone. -/
theorem exists_taken_of_exponentOr {plain : Except Error Number}
    (h : exponentOr negative d plain text = .ok (n, rest)) :
    ∃ taken, text = taken ++ rest ∧ exponentOr negative d plain taken = .ok (n, []) := by
  by_cases hletter : ∀ c ∈ text.head?, c ≠ 'e' ∧ c ≠ 'E'
  · rw [exponentOr_of_ne hletter] at h
    obtain ⟨m, hplain, heq⟩ := exists_of_map_eq_ok h
    obtain ⟨rfl, rfl⟩ := Prod.mk.inj heq
    exact ⟨[], rfl, by rw [exponentOr_of_ne (by simp), hplain]; rfl⟩
  · cases text with
    | nil => exact absurd (by simp) hletter
    | cons c more =>
        have hc : c = 'e' ∨ c = 'E' := by
          simpa [Decidable.or_iff_not_imp_left] using hletter
        rcases hc with rfl | rfl
        · obtain ⟨taken, rfl, htaken⟩ := exists_taken_of_exponentPart h
          exact ⟨'e' :: taken, rfl, htaken⟩
        · obtain ⟨taken, rfl, htaken⟩ := exists_taken_of_exponentPart h
          exact ⟨'E' :: taken, rfl, htaken⟩

/-- A fraction is read alike where it stands alone. -/
theorem exists_taken_of_fractionPart (h : fractionPart negative d text = .ok (n, rest)) :
    ∃ taken, text = taken ++ rest ∧ fractionPart negative d taken = .ok (n, []) := by
  by_cases hdigits : text.takeWhile isDigit = []
  · cases hbehind : text.dropWhile isDigit <;> simp [fractionPart, hdigits, hbehind] at h
  · rw [fractionPart_eq hdigits] at h
    obtain ⟨taken, hbehind, htaken⟩ := exists_taken_of_exponentOr h
    have hends : EndsDigits taken := .of_append (hbehind ▸ endsDigits_dropWhile text)
    have htake := takeWhile_isDigit_takeWhile text hends
    refine ⟨text.takeWhile isDigit ++ taken, ?_, ?_⟩
    · rw [List.append_assoc, ← hbehind, List.takeWhile_append_dropWhile]
    · rw [fractionPart_eq (by rwa [htake]), htake, dropWhile_isDigit_takeWhile text hends]
      exact htaken

/-- What is behind the digits of a number is read alike where it stands alone. -/
theorem exists_taken_of_fractionOr {plain : Except Error Number}
    (h : fractionOr negative d plain text = .ok (n, rest)) :
    ∃ taken, text = taken ++ rest ∧ fractionOr negative d plain taken = .ok (n, []) := by
  by_cases hpoint : ∀ c ∈ text.head?, c ≠ '.'
  · rw [fractionOr_of_ne hpoint] at h
    obtain ⟨taken, rfl, htaken⟩ := exists_taken_of_exponentOr h
    refine ⟨taken, rfl, ?_⟩
    rwa [fractionOr_of_ne]
    cases taken with
    | nil => nofun
    | cons c taken => exact hpoint
  · cases text with
    | nil => exact absurd nofun hpoint
    | cons c more =>
        obtain rfl : c = '.' := by simpa using hpoint
        obtain ⟨taken, rfl, htaken⟩ := exists_taken_of_fractionPart h
        exact ⟨'.' :: taken, rfl, htaken⟩

/-- **A number is read alike where it stands alone.** -/
theorem exists_taken_of_readNumber (h : readNumber negative text = .ok (n, rest)) :
    ∃ taken, text = taken ++ rest ∧ readNumber negative taken = .ok (n, []) := by
  obtain ⟨c, more, rfl, hc, hzero⟩ := exists_of_readNumber_eq_ok h
  rw [readNumber_eq hc hzero] at h
  obtain ⟨taken, hbehind, htaken⟩ := exists_taken_of_fractionOr h
  have hends : EndsDigits taken := .of_append (hbehind ▸ endsDigits_dropWhile (c :: more))
  have htake := takeWhile_isDigit_takeWhile (c :: more) hends
  have hdrop := dropWhile_isDigit_takeWhile (c :: more) hends
  have htext : c :: more = (c :: more).takeWhile isDigit ++ taken ++ rest := by
    rw [List.append_assoc, ← hbehind, List.takeWhile_append_dropWhile]
  refine ⟨_, htext, ?_⟩
  rw [List.takeWhile_cons_of_pos hc, List.cons_append] at htake hdrop htext ⊢
  have hzeroTaken : ¬ (c = '0' ∧ ((more.takeWhile isDigit ++ taken).head?.any isDigit) = true) := by
    obtain ⟨-, hmore⟩ := List.cons.inj htext
    cases hothers : more.takeWhile isDigit ++ taken with
    | nil => simp
    | cons d others =>
        rw [hothers] at hmore
        rwa [hmore] at hzero
  rw [readNumber_eq hc hzeroTaken, htake, hdrop]
  rw [List.takeWhile_cons_of_pos hc] at htaken
  exact htaken

/-! ### Between values -/

/-- Blanks with blanks behind them. -/
def Gap.append (gap other : Gap) : Gap :=
  ⟨gap.text ++ other.text, fun c hc => (List.mem_append.mp hc).elim (gap.blank c) (other.blank c)⟩

@[simp] theorem Gap.text_append (gap other : Gap) : (gap.append other).text = gap.text ++ other.text := rfl

/-- What is skipped are blanks. -/
theorem exists_gap_of_skipSpace (h : skipSpace text = rest) : ∃ gap : Gap, text = gap.text ++ rest :=
  ⟨⟨text.takeWhile isSpace, fun _ => List.mem_takeWhile_imp⟩, h ▸ List.takeWhile_append_dropWhile.symm⟩

/-- What is left of a text without leading blanks starts with none. -/
theorem isSpace_of_skipSpace (h : skipSpace text = c :: rest) : isSpace c = false := by
  have hne := List.head?_dropWhile_not isSpace text
  rw [← skipSpace, h] at hne
  simpa using hne

/-- What stands before a word of a list and its blanks: a comma behind blanks, but nothing before the first word. -/
def lead (first : Bool) (behind : Gap) : Text :=
  if first then [] else behind.text ++ [',']

/-- The end of an array was found. -/
theorem exists_gap_of_nextItem_close {first : Bool} (h : nextItem first text = .ok (false, rest)) :
    ∃ close : Gap, text = close.text ++ ']' :: rest := by
  unfold nextItem at h
  split at h
  · cases h
  rename_i c more hskip
  split at h
  · rename_i hc
    cases h
    exact exists_gap_of_skipSpace (hc ▸ hskip)
  split at h
  · cases h
  split at h
  · split at h
    · cases h
    · split at h <;> cases h
  · cases h

/-- The next item of an array was found. -/
theorem exists_gap_of_nextItem {first : Bool} (h : nextItem first text = .ok (true, rest)) :
    Starts rest ∧ ∃ behind before : Gap, text = lead first behind ++ (before.text ++ rest) := by
  unfold nextItem at h
  split at h
  · cases h
  rename_i c more hskip
  obtain ⟨gap, rfl⟩ := exists_gap_of_skipSpace hskip
  have hspace := isSpace_of_skipSpace hskip
  split at h
  · cases h
  rename_i hbracket
  cases first with
  | true =>
      cases h
      exact ⟨⟨c, more, rfl, hspace, hbracket⟩, .none, gap, rfl⟩
  | false =>
      rw [if_neg Bool.false_ne_true] at h
      split at h
      · rename_i hcomma
        subst hcomma
        split at h
        · cases h
        rename_i d _ hskip'
        obtain ⟨before, rfl⟩ := exists_gap_of_skipSpace hskip'
        have hspace' := isSpace_of_skipSpace hskip'
        split at h
        · cases h
        rename_i hbracket'
        cases h
        exact ⟨⟨d, _, rfl, hspace', hbracket'⟩, gap, before, by simp [lead]⟩
      · cases h

/-- The name behind a quote was found. -/
theorem exists_spelled_of_map_readString {name : String}
    (h : ((readString text).map fun r => (some (String.ofList r.1), r.2)) = .ok (some name, rest)) :
    ∃ nameText, text = nameText ++ '"' :: rest ∧ SpellsString name.toList nameText := by
  obtain ⟨⟨cs, after⟩, hread, heq⟩ := exists_of_map_eq_ok h
  cases heq
  rw [String.toList_ofList]
  exact exists_spellsString_of_readString hread

/-- The end of an object was found. -/
theorem exists_gap_of_nextName_close {first : Bool} (h : nextName [] first text = .ok (none, rest)) :
    ∃ close : Gap, text = close.text ++ '\x7d' :: rest := by
  have hname : ∀ text, ¬((readString text).map fun r => (some (String.ofList r.1), r.2)) = .ok (none, rest) := by
    intro text h
    obtain ⟨_, -, heq⟩ := exists_of_map_eq_ok h
    cases heq
  unfold nextName at h
  simp only [readCharacters_nil] at h
  split at h
  · cases h
  rename_i c more hskip
  split at h
  · rename_i hc
    cases h
    exact exists_gap_of_skipSpace (hc ▸ hskip)
  split at h
  · split at h
    · exact absurd h (hname _)
    · cases h
  split at h
  · split at h
    · cases h
    split at h
    · exact absurd h (hname _)
    split at h <;> cases h
  · cases h

/-- **The name of the next member** was found. -/
theorem exists_spelled_of_nextName {first : Bool} {name : String} (h : nextName [] first text = .ok (some name, rest)) :
    ∃ (behind before : Gap) (nameText : Text), SpellsString name.toList nameText ∧
      text = lead first behind ++ (before.text ++ '"' :: (nameText ++ '"' :: rest)) := by
  unfold nextName at h
  simp only [readCharacters_nil] at h
  split at h
  · cases h
  rename_i c more hskip
  obtain ⟨gap, rfl⟩ := exists_gap_of_skipSpace hskip
  split at h
  · cases h
  cases first with
  | true =>
      rw [if_pos rfl] at h
      split at h
      · rename_i hquote
        obtain ⟨nameText, rfl, hspells⟩ := exists_spelled_of_map_readString h
        exact ⟨.none, gap, nameText, hspells, by rw [hquote]; rfl⟩
      · cases h
  | false =>
      rw [if_neg Bool.false_ne_true] at h
      split at h
      · rename_i hcomma
        subst hcomma
        split at h
        · cases h
        rename_i hskip'
        obtain ⟨before, rfl⟩ := exists_gap_of_skipSpace hskip'
        split at h
        · rename_i hquote
          obtain ⟨nameText, rfl, hspells⟩ := exists_spelled_of_map_readString h
          exact ⟨gap, before, nameText, hspells, by rw [hquote]; simp [lead]⟩
        · split at h <;> cases h
      · cases h

/-- The colon after a name was found. -/
theorem exists_gap_of_colon (h : colon text = .ok rest) : ∃ gap : Gap, text = gap.text ++ ':' :: rest := by
  unfold colon at h
  split at h
  · cases h
  rename_i hskip
  split at h
  · rename_i hc
    cases h
    exact exists_gap_of_skipSpace (hc ▸ hskip)
  · cases h

/-- A name behind a comma, or behind nothing if it is the first, is found again with something else behind it. -/
theorem nextName_lead (first : Bool) (behind before : Gap) {name : String} {nameText : Text}
    (hname : SpellsString name.toList nameText) (rest : Text) :
    nextName [] first (lead first behind ++ (before.text ++ '"' :: (nameText ++ '"' :: rest))) =
      .ok (some name, rest) := by
  have hword := nextName_spelled first before.blank hname rest
  cases first with
  | true => exact hword
  | false => rwa [lead, if_neg Bool.false_ne_true, List.append_assoc, nextName_gap behind.blank]

/-- An item behind a comma, or behind nothing if it is the first, is found again with something else behind it. -/
theorem nextItem_lead (first : Bool) (behind before : Gap) (hspace : isSpace c = false) (hc : c ≠ ']') (rest : Text) :
    nextItem first (lead first behind ++ (before.text ++ c :: rest)) = .ok (true, c :: rest) := by
  have hword := nextItem_word first before.blank hspace hc rest
  cases first with
  | true => exact hword
  | false => rwa [lead, if_neg Bool.false_ne_true, List.append_assoc, nextItem_gap behind.blank]

/-- A text in front of a name, the name and its colon. -/
theorem exists_left_of_nextName {first : Bool} {name : String} {value : Text}
    (hname : nextName [] first text = .ok (some name, rest)) (hcolon : colon rest = .ok value) :
    ∃ left, left ≠ [] ∧ text = left ++ value ∧ ∀ other, ∃ behind,
      nextName [] first (left ++ other) = .ok (some name, behind) ∧ colon behind = .ok other := by
  obtain ⟨behind, before, nameText, hspells, rfl⟩ := exists_spelled_of_nextName hname
  obtain ⟨gap, rfl⟩ := exists_gap_of_colon hcolon
  refine ⟨lead first behind ++ (before.text ++ '"' :: (nameText ++ '"' :: (gap.text ++ [':']))), by simp, by simp,
    fun other => ⟨gap.text ++ ':' :: other, ?_, colon_append gap.blank other⟩⟩
  have hlead := nextName_lead first behind before hspells (gap.text ++ ':' :: other)
  simpa using hlead

/-- What an item starts with does not depend on what is behind it. -/
theorem Starts.append_of_ne_nil {taken : Text} (h : Starts (taken ++ rest)) (hne : taken ≠ []) (other : Text) :
    Starts (taken ++ other) := by
  obtain ⟨c, more, rfl⟩ := List.exists_cons_of_ne_nil hne
  obtain ⟨_, _, heq, hc⟩ := h
  obtain ⟨rfl, -⟩ := List.cons.inj heq
  exact ⟨_, _, rfl, hc⟩

/-- A text in front of an item, behind which another item can be put. -/
theorem exists_left_of_nextItem {first : Bool} (h : nextItem first text = .ok (true, rest)) :
    Starts rest ∧ ∃ left, (first = false → left ≠ []) ∧ text = left ++ rest ∧
      ∀ (gap : Gap) {other : Text}, Starts other →
        nextItem first (left ++ (gap.text ++ other)) = .ok (true, other) := by
  obtain ⟨hstarts, behind, before, rfl⟩ := exists_gap_of_nextItem h
  refine ⟨hstarts, lead first behind ++ before.text, ?_, by simp, ?_⟩
  · rintro rfl
    simp [lead]
  · rintro gap _ ⟨c, more, rfl, hspace, hbracket⟩
    have hlead := nextItem_lead first behind (before.append gap) hspace hbracket more
    simpa using hlead

/-- What goes on with an object does not go on with a number. -/
theorem endsInteger_of_nextName {name : Option String} (h : nextName [] false text = .ok (name, rest)) :
    EndsInteger text := by
  cases name with
  | none =>
      obtain ⟨close, rfl⟩ := exists_gap_of_nextName_close h
      refine .append close.blank ?_
      rintro _ ⟨⟩
      decide
  | some name =>
      obtain ⟨behind, before, nameText, -, rfl⟩ := exists_spelled_of_nextName h
      rw [lead, if_neg Bool.false_ne_true, List.append_assoc]
      refine .append behind.blank ?_
      rintro _ ⟨⟩
      decide

/-- What goes on with an array does not go on with a number. -/
theorem endsInteger_of_nextItem {more : Bool} (h : nextItem false text = .ok (more, rest)) : EndsInteger text := by
  cases more with
  | false =>
      obtain ⟨close, rfl⟩ := exists_gap_of_nextItem_close h
      refine .append close.blank ?_
      rintro _ ⟨⟩
      decide
  | true =>
      obtain ⟨-, behind, before, rfl⟩ := exists_gap_of_nextItem h
      rw [lead, if_neg Bool.false_ne_true, List.append_assoc]
      refine .append behind.blank ?_
      rintro _ ⟨⟩
      decide
end StubServer.Json
