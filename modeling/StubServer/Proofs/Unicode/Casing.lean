import StubServer.Proofs.Text.LetterCase
import StubServer.Proofs.Text.Split
import StubServer.Unicode.Casing
import Mathlib.Data.List.Forall2
import Mathlib.Data.List.TakeWhile

/-!
# The lower case of a part of a text

A text in lower case is the lower case of its parts, but for the capital sigmas: which form one takes depends on
the letters on both sides of it. So the lower case of a part (`lowerWithin`) is told with the characters around the
part, the nearest one before it first.

## Main statements

* `lowerWithin_of_not_exposed`: the lower case of a text is the same beside any others, if there is no capital sigma
  at its edge (`Exposed`).
* `exists_not_occursIn`: otherwise the text is not found in lower case where a letter stands beside it.
* `lowercase_map_toLower`: the case of the ASCII letters is lost.
-/

namespace StubServer.Unicode

variable {before after before' after' text left right : List Char} {c : Char}

/-! ### The ASCII letters -/

/-- No stretch lies before the point from which the runs are counted. -/
theorem le_of_has_ofLengths {start point : Nat} {lengths : List Nat}
    (h : (Ranges.ofLengths start lengths).has point = true) : start ≤ point := by
  induction start, lengths using Ranges.ofLengths.induct with
  | case1 start outside inside rest ih =>
      rw [Ranges.ofLengths, Ranges.has, List.any_cons, Bool.or_eq_true] at h
      rcases h with hfirst | hrest
      · rw [Bool.and_eq_true, decide_eq_true_eq] at hfirst
        omega
      · have hle := ih hrest
        omega
  | case2 start lengths hshort =>
      rw [Ranges.ofLengths.eq_def] at h
      split at h
      · exact absurd rfl (hshort _ _ _)
      · cases h

/-- The first runs of a set tell its first stretches. -/
theorem exists_ofRuns {text : String} {chars : List Char} {lengths : List Nat} (h : text = .ofList chars)
    (hlengths : (numbers chars).take lengths.length = lengths) :
    ∃ rest, Ranges.ofRuns text = Ranges.ofLengths 0 (lengths ++ rest) := by
  refine ⟨(numbers chars).drop lengths.length, ?_⟩
  have happend := List.take_append_drop lengths.length (numbers chars)
  rw [hlengths] at happend
  rw [happend, Ranges.ofRuns, h, String.toList_ofList]

set_option maxRecDepth 10000 in
/-- The first of the cased letters are those of ASCII. -/
theorem exists_casedLetters : ∃ rest, casedLetters = Ranges.ofLengths 0 ([65, 26, 6, 26] ++ rest) := by
  have hlookup : lookup? binaryProperties "cased" = some (Ranges.ofRuns binaryProperties[5].2) := rfl
  rw [casedLetters, hlookup, Option.getD_some]
  exact exists_ofRuns rfl (by decide +kernel)

set_option maxRecDepth 10000 in
/-- The first characters that do not end a word are six marks. -/
theorem exists_caseIgnorables :
    ∃ rest, caseIgnorables = Ranges.ofLengths 0 ([39, 1, 6, 1, 11, 1, 35, 1, 1, 1, 71, 1] ++ rest) := by
  have hlookup : lookup? binaryProperties "caseignorable" = some (Ranges.ofRuns binaryProperties[4].2) := rfl
  rw [caseIgnorables, hlookup, Option.getD_some]
  exact exists_ofRuns rfl (by decide +kernel)

/-- Whether a character is an ASCII letter. -/
def IsLetter (c : Char) : Prop :=
  65 ≤ c.toNat ∧ c.toNat ≤ 90 ∨ 97 ≤ c.toNat ∧ c.toNat ≤ 122

/-- The ASCII letters are cased. -/
theorem IsLetter.cased (h : IsLetter c) : casedLetters.contains c = true := by
  obtain ⟨rest, hrest⟩ := exists_casedLetters
  have hstretches : casedLetters = (65, 90) :: (97, 122) :: Ranges.ofLengths 123 rest := hrest
  rw [hstretches, Ranges.contains, Ranges.has, List.any_cons, List.any_cons]
  rcases h with ⟨hle, hge⟩ | ⟨hle, hge⟩ <;> simp [hle, hge]

/-- They end words. -/
theorem IsLetter.not_ignorable (h : IsLetter c) : caseIgnorables.contains c = false := by
  obtain ⟨rest, hrest⟩ := exists_caseIgnorables
  have hstretches : caseIgnorables = [(39, 39), (46, 46), (58, 58), (94, 94), (96, 96), (168, 168)] ++
    Ranges.ofLengths 169 rest := hrest
  have hlater : (Ranges.ofLengths 169 rest).has c.toNat = false :=
    Bool.eq_false_iff.mpr fun hhas => by
      have hle := le_of_has_ofLengths hhas
      unfold IsLetter at h
      omega
  have hfirst : Ranges.has [(39, 39), (46, 46), (58, 58), (94, 94), (96, 96), (168, 168)] c.toNat = false := by
    simp only [Ranges.has, List.any_cons, List.any_nil, Bool.or_false, Bool.or_eq_false_iff, Bool.and_eq_false_iff,
      decide_eq_false_iff_not]
    unfold IsLetter at h
    omega
  rw [hstretches, Ranges.contains, Ranges.has, List.any_append]
  exact Bool.or_eq_false_iff.mpr ⟨hfirst, hlater⟩

/-- A character that is no ASCII capital is in lower case. -/
theorem toLower_eq_or_isLetter (c : Char) : c.toLower = c ∨ IsLetter c ∧ IsLetter c.toLower := by
  by_cases hcapital : 65 ≤ c.toNat ∧ c.toNat ≤ 90
  · refine .inr ⟨.inl hcapital, .inr ?_⟩
    rw [toNat_toLower, if_pos hcapital]
    omega
  · refine .inl (Char.toNat_inj.mp ?_)
    rw [toNat_toLower, if_neg hcapital]

/-- A letter is met by itself. -/
theorem meetsCased_cons (h : IsLetter c) (text : List Char) : meetsCased (c :: text) = true := by
  rw [meetsCased, List.dropWhile_cons_of_neg (Bool.eq_false_iff.mp h.not_ignorable)]
  exact h.cased

/-! ### Around a sigma -/

/-- Behind characters that do not end a word all depends on what follows them. -/
theorem meetsCased_append_of_all (h : left.all caseIgnorables.contains = true) (right : List Char) :
    meetsCased (left ++ right) = meetsCased right := by
  rw [meetsCased, meetsCased, List.dropWhile_append_of_pos fun c hc => List.all_eq_true.mp h c hc]

/-- Otherwise nothing does. -/
theorem meetsCased_append_of_not_all (h : left.all caseIgnorables.contains = false) (right : List Char) :
    meetsCased (left ++ right) = meetsCased left := by
  have hne : left.dropWhile caseIgnorables.contains ≠ [] := fun hnil => by
    have hall : left.all caseIgnorables.contains = true := List.all_eq_true.mpr (List.dropWhile_eq_nil_iff.mp hnil)
    cases h.symm.trans hall
  obtain ⟨c, rest, hcons⟩ := List.exists_cons_of_ne_nil hne
  simp [meetsCased, List.dropWhile_append, hcons]

/-- Characters that do not end a word are no cased letters. -/
theorem meetsCased_of_all (h : text.all caseIgnorables.contains = true) : meetsCased text = false := by
  rw [← List.append_nil text, meetsCased_append_of_all h]
  rfl

/-- A cased letter that is met is met whatever follows. -/
theorem meetsCased_append (h : meetsCased left = true) (right : List Char) : meetsCased (left ++ right) = true := by
  cases hall : left.all caseIgnorables.contains with
  | true => cases h.symm.trans (meetsCased_of_all hall)
  | false => rw [meetsCased_append_of_not_all hall, h]

/-- Whether a sigma ends a word: there is a letter before it and none after it. -/
def endsWord (before after : List Char) : Bool :=
  meetsCased before && !meetsCased after

/-- What a character becomes between others. -/
def lowerAt (before : List Char) (c : Char) (after : List Char) : List Char :=
  if c = 'Σ' then [if endsWord before after then 'ς' else 'σ']
  else if c = 'İ' then ['i', Char.ofNat 0x307]
  else [lowerChar c]

/-- What a part of a text becomes. -/
def lowerWithin (before after : List Char) : List Char → List Char
  | [] => []
  | c :: rest => lowerAt before c (rest ++ after) ++ lowerWithin (c :: before) after rest

/-- Only a sigma depends on the others. -/
theorem lowerAt_of_ne (h : c ≠ 'Σ') : lowerAt before c after = lowerAt before' c after' := by
  rw [lowerAt, lowerAt, if_neg h, if_neg h]

/-- Beside the same characters a sigma takes the same form, and only then. -/
theorem lowerAt_sigma_eq_iff :
    lowerAt before 'Σ' after = lowerAt before' 'Σ' after' ↔ endsWord before after = endsWord before' after' := by
  rw [lowerAt, lowerAt, if_pos rfl, if_pos rfl]
  cases endsWord before after <;> cases endsWord before' after' <;> simp

/-- The lower case of the parts of a text. -/
theorem lowercaseAfter_append (before text after : List Char) :
    lowercaseAfter before (text ++ after) =
      lowerWithin before after text ++ lowercaseAfter (text.reverse ++ before) after := by
  induction text generalizing before with
  | nil => rfl
  | cons c rest ih =>
      have hcons : lowercaseAfter before (c :: rest ++ after) =
          lowerAt before c (rest ++ after) ++ lowercaseAfter (c :: before) (rest ++ after) := rfl
      rw [hcons, ih, lowerWithin, List.reverse_cons, List.append_assoc, List.append_assoc, List.singleton_append]

/-- A whole text is a part with nothing around it. -/
theorem lowerWithin_nil (text : List Char) : lowerWithin [] [] text = lowercase text := by
  have h := lowercaseAfter_append [] text []
  rw [List.append_nil] at h
  exact (h.trans (List.append_nil _)).symm

/-- The lower case of a part is found in that of the whole. -/
theorem lowerWithin_infix (left text right : List Char) :
    lowerWithin left.reverse right text <:+: lowercase (left ++ text ++ right) := by
  refine ⟨lowerWithin [] (text ++ right) left, lowercaseAfter (text.reverse ++ left.reverse) right, ?_⟩
  have h := lowercaseAfter_append [] left (text ++ right)
  rw [List.append_nil, lowercaseAfter_append left.reverse] at h
  rw [lowercase, List.append_assoc left, h, List.append_assoc]

/-! ### Beside other characters -/

/-- The lower case of a part is the same beside others exactly if its sigmas end words there as here. -/
theorem lowerWithin_eq_iff :
    lowerWithin before after text = lowerWithin before' after' text ↔
      ∀ left right, text = left ++ 'Σ' :: right →
        endsWord (left.reverse ++ before) (right ++ after) = endsWord (left.reverse ++ before') (right ++ after') := by
  induction text generalizing before before' with
  | nil =>
      refine iff_of_true rfl fun left right h => ?_
      exact absurd h.symm (List.append_ne_nil_of_right_ne_nil left (List.cons_ne_nil _ _))
  | cons c rest ih =>
      have hlength : (lowerAt before c (rest ++ after)).length = (lowerAt before' c (rest ++ after')).length := by
        by_cases hsigma : c = 'Σ'
        · simp [lowerAt, hsigma]
        · rw [lowerAt_of_ne hsigma]
      rw [lowerWithin, lowerWithin, List.append_eq_append_iff_of_size_eq_left hlength, ih]
      constructor
      · rintro ⟨hc, hrest⟩ left right h
        rcases List.append_eq_cons_iff.mp h.symm with ⟨rfl, hcons⟩ | ⟨left, rfl, hsplit⟩
        · obtain ⟨rfl, rfl⟩ := List.cons.inj hcons
          exact lowerAt_sigma_eq_iff.mp hc
        · have hends := hrest left right hsplit
          simpa only [List.reverse_cons, List.append_assoc, List.singleton_append] using hends
      · intro h
        refine ⟨?_, fun left right hsplit => ?_⟩
        · by_cases hc : c = 'Σ'
          · subst hc
            exact lowerAt_sigma_eq_iff.mpr (h [] rest rfl)
          · exact lowerAt_of_ne hc
        · have hends := h (c :: left) right (congrArg (c :: ·) hsplit)
          simpa only [List.reverse_cons, List.append_assoc, List.singleton_append] using hends

/-- A capital sigma at the edge of a text: whether it ends a word is for the characters beside the text to say. Either
no letter stands before it and none is met after it, or there is nothing of a word after it but a letter is met
before. -/
def Exposed (text : List Char) : Prop :=
  ∃ left right, text = left ++ 'Σ' :: right ∧
    (left.all caseIgnorables.contains = true ∧ meetsCased right = false ∨
      right.all caseIgnorables.contains = true ∧ meetsCased left.reverse = true)

/-- A sigma that is not at the edge of a text has its form from the text alone. -/
theorem endsWord_append_of_not_exposed (h : ¬ Exposed (left ++ 'Σ' :: right)) (before after : List Char) :
    endsWord (left.reverse ++ before) (right ++ after) = endsWord left.reverse right := by
  have hleft : left.all caseIgnorables.contains = true → meetsCased right = true := fun hall =>
    Bool.not_eq_false _ ▸ fun hmeets => h ⟨left, right, rfl, .inl ⟨hall, hmeets⟩⟩
  have hright : right.all caseIgnorables.contains = true → meetsCased left.reverse = false := fun hall =>
    Bool.not_eq_true _ ▸ fun hmeets => h ⟨left, right, rfl, .inr ⟨hall, hmeets⟩⟩
  cases hl : left.all caseIgnorables.contains with
  | true =>
      have hmeets := hleft hl
      rw [endsWord, endsWord, meetsCased_append hmeets, hmeets, Bool.not_true, Bool.and_false, Bool.and_false]
  | false =>
      rw [← List.all_reverse] at hl
      rw [endsWord, endsWord, meetsCased_append_of_not_all hl]
      cases hr : right.all caseIgnorables.contains with
      | true => rw [hright hr, Bool.false_and, Bool.false_and]
      | false => rw [meetsCased_append_of_not_all hr]

/-- **The lower case of a text** is the same beside any others, if it has no sigma at its edge. -/
theorem lowerWithin_of_not_exposed (h : ¬ Exposed text) (before after : List Char) :
    lowerWithin before after text = lowercase text := by
  rw [← lowerWithin_nil, lowerWithin_eq_iff]
  rintro left right rfl
  rw [endsWord_append_of_not_exposed h, List.append_nil, List.append_nil]

/-! ### Next to a letter -/

/-- Two texts that are the same but for sigmas that end words in the first one only. -/
def Finalized : List Char → List Char → Prop :=
  List.Forall₂ fun x y => x = y ∨ x = 'ς' ∧ y = 'σ'

/-- If they are not the same, the first one has fewer sigmas of the one form and more of the other. -/
theorem Finalized.count_lt {xs ys : List Char} (h : Finalized xs ys) (hne : xs ≠ ys) :
    xs.count 'σ' < ys.count 'σ' ∧ ys.count 'ς' < xs.count 'ς' := by
  suffices hcount : xs = ys ∨ xs.count 'σ' < ys.count 'σ' ∧ ys.count 'ς' < xs.count 'ς' from
    hcount.resolve_left hne
  clear hne
  induction h with
  | nil => exact .inl rfl
  | @cons x y xs ys hhead _ ih =>
      rcases hhead with rfl | ⟨rfl, rfl⟩
      · refine ih.imp (congrArg _) fun ⟨hsmall, hfinal⟩ => ?_
        rw [List.count_cons, List.count_cons, List.count_cons, List.count_cons]
        omega
      · have hle : xs.count 'σ' ≤ ys.count 'σ' ∧ ys.count 'ς' ≤ xs.count 'ς' := by
          rcases ih with rfl | ⟨hsmall, hfinal⟩
          · exact ⟨Nat.le_refl _, Nat.le_refl _⟩
          · exact ⟨hsmall.le, hfinal.le⟩
        refine .inr ⟨?_, ?_⟩
        · rw [List.count_cons_of_ne (by decide), List.count_cons_self]
          omega
        · rw [List.count_cons_of_ne (by decide), List.count_cons_self]
          omega

/-- Where more sigmas end words, the lower case is the same but for these. -/
theorem finalized_lowerWithin
    (h : ∀ left right, text = left ++ 'Σ' :: right →
      endsWord (left.reverse ++ before') (right ++ after') = true →
        endsWord (left.reverse ++ before) (right ++ after) = true) :
    Finalized (lowerWithin before after text) (lowerWithin before' after' text) := by
  induction text generalizing before before' with
  | nil => exact .nil
  | cons c rest ih =>
      have hrest : Finalized (lowerWithin (c :: before) after rest) (lowerWithin (c :: before') after' rest) := by
        refine ih fun left right hsplit => ?_
        have hends := h (c :: left) right (congrArg (c :: ·) hsplit)
        simpa only [List.reverse_cons, List.append_assoc, List.singleton_append] using hends
      have hhere : Finalized (lowerAt before c (rest ++ after)) (lowerAt before' c (rest ++ after')) := by
        by_cases hc : c = 'Σ'
        · subst hc
          have hends := h [] rest rfl
          rw [List.reverse_nil, List.nil_append, List.nil_append] at hends
          rw [lowerAt, lowerAt, if_pos rfl, if_pos rfl]
          refine .cons ?_ .nil
          cases hnew : endsWord before (rest ++ after) with
          | true => cases endsWord before' (rest ++ after') <;> decide
          | false =>
              rw [Bool.eq_false_iff.mpr fun hold => Bool.false_ne_true (hnew.symm.trans (hends hold))]
              exact .inl rfl
        · rw [lowerAt_of_ne hc]
          exact List.forall₂_same.mpr fun x _ => .inl rfl
      exact List.rel_append hhere hrest

/-- There it has fewer sigmas of the one form and more of the other. -/
theorem count_lowerWithin_lt
    (h : ∀ left right, text = left ++ 'Σ' :: right →
      endsWord (left.reverse ++ before') (right ++ after') = true →
        endsWord (left.reverse ++ before) (right ++ after) = true)
    (htext : text = left ++ 'Σ' :: right)
    (hends : endsWord (left.reverse ++ before) (right ++ after) ≠
      endsWord (left.reverse ++ before') (right ++ after')) :
    (lowerWithin before after text).count 'σ' < (lowerWithin before' after' text).count 'σ' ∧
      (lowerWithin before' after' text).count 'ς' < (lowerWithin before after text).count 'ς' :=
  (finalized_lowerWithin h).count_lt fun heq => hends (lowerWithin_eq_iff.mp heq left right htext)

/-- A letter that stands before a text. -/
theorem lowercase_cons_letter (text : List Char) : lowercase ('a' :: text) = 'a' :: lowerWithin ['a'] [] text := by
  have h := lowercaseAfter_append [] ['a'] text
  have htext := lowercaseAfter_append ['a'] text []
  rw [List.append_nil] at htext
  exact h.trans (congrArg ('a' :: ·) (htext.trans (List.append_nil _)))

/-- A letter that stands behind a text. -/
theorem lowercase_append_letter (text : List Char) : lowercase (text ++ ['a']) = lowerWithin [] ['a'] text ++ ['a'] :=
  lowercaseAfter_append [] text ['a']

/-- A text occurs in another only with all its characters. -/
theorem not_occursIn_of_count_lt {needle : List Char} (h : text.count c < needle.count c) :
    occursIn needle text = false :=
  Bool.eq_false_iff.mpr fun hoccurs =>
    absurd ((occursIn_iff.mp hoccurs).sublist.count_le c) (Nat.not_le_of_lt h)

/-- A sigma that does not end a word does so behind a letter, if none is met after it. -/
theorem not_occursIn_cons_letter (htext : text = left ++ 'Σ' :: right)
    (hleft : left.all caseIgnorables.contains = true) (hright : meetsCased right = false) :
    occursIn (lowercase text) (lowercase ('a' :: text)) = false := by
  have hletter : meetsCased ['a'] = true := meetsCased_cons (.inr (by decide)) []
  have hends : endsWord (left.reverse ++ ['a']) (right ++ []) ≠ endsWord (left.reverse ++ []) (right ++ []) := by
    rw [← List.all_reverse] at hleft
    rw [endsWord, endsWord, meetsCased_append_of_all hleft, meetsCased_append_of_all hleft, hletter, List.append_nil,
      hright]
    decide
  have hmore : ∀ left right, text = left ++ 'Σ' :: right → endsWord (left.reverse ++ []) (right ++ []) = true →
      endsWord (left.reverse ++ ['a']) (right ++ []) = true := by
    intro left right _ hends
    rw [List.append_nil, endsWord, Bool.and_eq_true] at hends
    rw [endsWord, meetsCased_append hends.1, hends.2]
    rfl
  obtain ⟨hfewer, -⟩ := count_lowerWithin_lt hmore htext hends
  refine not_occursIn_of_count_lt (c := 'σ') ?_
  rw [lowercase_cons_letter, List.count_cons_of_ne (by decide), ← lowerWithin_nil]
  exact hfewer

/-- A sigma that ends a word does not do so before a letter, if there is nothing of a word between them. -/
theorem not_occursIn_append_letter (htext : text = left ++ 'Σ' :: right)
    (hright : right.all caseIgnorables.contains = true) (hleft : meetsCased left.reverse = true) :
    occursIn (lowercase text) (lowercase (text ++ ['a'])) = false := by
  have hletter : meetsCased ['a'] = true := meetsCased_cons (.inr (by decide)) []
  have hends : endsWord (left.reverse ++ []) (right ++ []) ≠ endsWord (left.reverse ++ []) (right ++ ['a']) := by
    rw [endsWord, endsWord, meetsCased_append_of_all hright, meetsCased_append_of_all hright, hletter, List.append_nil,
      hleft]
    decide
  have hmore : ∀ left right, text = left ++ 'Σ' :: right → endsWord (left.reverse ++ []) (right ++ ['a']) = true →
      endsWord (left.reverse ++ []) (right ++ []) = true := by
    intro left right _ hends
    rw [endsWord, Bool.and_eq_true, Bool.not_eq_true'] at hends
    rw [List.append_nil right, endsWord, hends.1, Bool.true_and, Bool.not_eq_true']
    exact Bool.eq_false_iff.mpr fun hmeets => by
      cases hends.2.symm.trans (meetsCased_append hmeets ['a'])
  obtain ⟨-, hfewer⟩ := count_lowerWithin_lt hmore htext hends
  refine not_occursIn_of_count_lt (c := 'ς') ?_
  rw [lowercase_append_letter, List.count_append, List.count_singleton, ← lowerWithin_nil]
  exact hfewer

/-- **A text with a sigma at its edge** is not found in lower case, where a letter stands beside it. -/
theorem exists_not_occursIn (h : Exposed text) :
    ∃ name, text <:+: name ∧ occursIn (lowercase text) (lowercase name) = false := by
  obtain ⟨left, right, htext, ⟨hleft, hright⟩ | ⟨hright, hleft⟩⟩ := h
  · refine ⟨'a' :: text, ?_, not_occursIn_cons_letter htext hleft hright⟩
    exact (List.suffix_cons 'a' text).isInfix
  · refine ⟨text ++ ['a'], ?_, not_occursIn_append_letter htext hright hleft⟩
    exact (List.prefix_append text ['a']).isInfix

/-! ### The case of the ASCII letters -/

/-- Which set of cased or of ignorable characters a letter is in does not depend on its case. -/
theorem contains_toLower (c : Char) :
    casedLetters.contains c.toLower = casedLetters.contains c ∧
      caseIgnorables.contains c.toLower = caseIgnorables.contains c := by
  rcases toLower_eq_or_isLetter c with heq | ⟨hc, hlower⟩
  · rw [heq]
    exact ⟨rfl, rfl⟩
  · exact ⟨hlower.cased.trans hc.cased.symm, hlower.not_ignorable.trans hc.not_ignorable.symm⟩

/-- A text in ASCII lower case meets a cased letter where it met one before. -/
theorem meetsCased_map_toLower (text : List Char) : meetsCased (text.map Char.toLower) = meetsCased text := by
  have hignorable : caseIgnorables.contains ∘ Char.toLower = caseIgnorables.contains :=
    funext fun c => by rw [Function.comp_apply, (contains_toLower c).2]
  rw [meetsCased, meetsCased, List.dropWhile_map, hignorable]
  cases text.dropWhile caseIgnorables.contains with
  | nil => rfl
  | cons c rest => exact (contains_toLower c).1

/-- A character beyond ASCII has no other case in ASCII. -/
theorem toLower_eq_iff {d : Char} (hd : 128 ≤ d.toNat) : c.toLower = d ↔ c = d := by
  refine ⟨fun h => ?_, fun h => ?_⟩
  · rcases toLower_eq_or_isLetter c with heq | ⟨-, hlower⟩
    · exact heq.symm.trans h
    · rw [h, IsLetter] at hlower
      omega
  · subst h
    refine Char.toNat_inj.mp ?_
    rw [toNat_toLower, if_neg (by omega)]

/-- The lower case of a character in ASCII lower case. -/
theorem lowerChar_toLower (c : Char) : lowerChar c.toLower = lowerChar c := by
  by_cases hascii : c.toNat < 128
  · have hlower : c.toLower.toNat < 128 := by
      rw [toNat_toLower]
      split <;> omega
    rw [lowerChar, lowerChar, if_pos hascii, if_pos hlower, ← Char.toNat_inj, toNat_toLower (c.toLower), toNat_toLower]
    grind
  · rw [(toLower_eq_iff (Nat.le_of_not_lt hascii)).mpr rfl]

/-- **The lower case of a text in ASCII lower case** is that of the text. -/
theorem lowercase_map_toLower (text : List Char) : lowercase (text.map Char.toLower) = lowercase text := by
  suffices h : ∀ before,
      lowercaseAfter (before.map Char.toLower) (text.map Char.toLower) = lowercaseAfter before text from h []
  induction text with
  | nil => exact fun _ => rfl
  | cons c rest ih =>
      intro before
      have hsigma : c.toLower = 'Σ' ↔ c = 'Σ' := toLower_eq_iff (by decide)
      have hdotted : c.toLower = 'İ' ↔ c = 'İ' := toLower_eq_iff (by decide)
      have hrest := ih (c :: before)
      rw [List.map_cons] at hrest
      simp only [List.map_cons, lowercaseAfter, hsigma, hdotted, meetsCased_map_toLower, lowerChar_toLower, hrest]

end StubServer.Unicode
