import StubServer.Proofs.Regex.Locality.Bracket

/-!
# Reading is local

The mutual readers of alternatives, sequences and groups take a beginning of the text each. A sequence is read one part
after the other (`readSequence_part`), and its last part may look ahead no further than to see that the sequence ends.
So what follows may be replaced by anything that fits (`Fits`): nothing at all, what begins alike, or at the end of the
text a parenthesis that closes a group. Three units of fuel for each character that is taken are enough, and up to three
more.

## Main statements

* `readSequence_end`, `readSequence_part`: a sequence ends, or goes on with a part.
* `exists_taken_of_readPart`: a part is local.
* `takes`: alternatives, sequences and groups are local.
-/

namespace StubServer.Regex

variable {fuel : Nat} {flags : Flags} {scope after : Scope} {part : Part} {text rest more taken : List Char} {c : Char}

/-! ### Where sequences end -/

/-- Where a sequence ends: with the pattern, with the group around it or with the alternative. -/
def SequenceEnds (rest : List Char) : Prop :=
  ∀ c ∈ rest.head?, c = ')' ∨ c = '|'

/-- What fits where a sequence ends is a place where it may end. -/
theorem SequenceEnds.of_fits (h : SequenceEnds rest) (hfits : Fits flags rest more) : SequenceEnds more := by
  cases hfits with
  | nil => exact nofun
  | cons c rest more => exact h
  | close more hverbose =>
      rintro c ⟨⟩
      exact .inl rfl

/-- Where a sequence goes on, a part of it begins. -/
theorem exists_cons_of_not_sequenceEnds (h : ¬SequenceEnds rest) :
    ∃ c other, rest = c :: other ∧ ¬(c = ')' ∨ c = '|') := by
  cases rest with
  | nil => exact absurd nofun h
  | cons c other =>
      refine ⟨c, other, rfl, fun hc => h ?_⟩
      rintro d ⟨⟩
      exact hc

/-- No brace follows where a sequence ends. -/
theorem SequenceEnds.braceAhead (h : SequenceEnds rest) : braceAhead flags rest = none := by
  unfold Regex.braceAhead
  split
  · rcases h _ rfl with heq | heq <;> cases heq
  · rfl

/-! ### What is taken -/

/-- A sequence is read from a beginning of the text, whatever fits comes after it. -/
def TakesSequence (scope : Scope) (done : List (Option Part)) (text : List Char) (part : Part) (after : Scope)
    (rest : List Char) : Prop :=
  ∃ taken, text = taken ++ rest ∧ ∀ fuel more, Fits after.flags rest more → 3 * taken.length + 1 ≤ fuel →
    readSequence fuel scope done (taken ++ more) = some (part, after, more)

/-- Alternatives are read from a beginning of the text, whatever fits comes after them. -/
def TakesChoice (scope : Scope) (done : List Part) (text : List Char) (part : Part) (after : Scope)
    (rest : List Char) : Prop :=
  ∃ taken, text = taken ++ rest ∧ ∀ fuel more, Fits after.flags rest more → 3 * taken.length + 2 ≤ fuel →
    readChoice fuel scope done (taken ++ more) = some (part, after, more)

/-- A group is read from a beginning of the text, whatever comes after it. -/
def TakesGroup (scope : Scope) (text : List Char) (part : Option Part) (after : Scope) (rest : List Char) : Prop :=
  ∃ taken, text = taken ++ rest ∧ ∀ fuel more, 3 * taken.length + 3 ≤ fuel →
    readGroup fuel scope (taken ++ more) = some (part, after, more)

section Sequence

variable {done others : List (Option Part)}

/-- Reads one part of a sequence, or an operator that repeats the part before it, from its first character on. -/
def readPart (fuel : Nat) (scope : Scope) (done : List (Option Part)) (c : Char) (rest : List Char) :
    Option (List (Option Part) × Scope × List Char) :=
  if c = '(' then
    (readGroup fuel scope rest).map fun (part, scope, rest) => (part :: done, scope, rest)
  else if c = '[' then
    (readBracket scope.flags fuel rest).map fun (set, height, rest) =>
      (some (.chars set, height) :: done, scope, rest)
  else if repetitionOperators.contains c then
    match done with
    | some (e, height) :: done =>
      (readRepetition scope.flags c rest).map fun ((least, extra), rest) =>
        (some (.rep least extra e, height + 1) :: done, scope, rest)
    | _ => none
  else
    (readSingle scope.flags c rest).map fun (e, rest) => (some (e, 0) :: done, scope, rest)

/-- A sequence ends where one may end. -/
theorem readSequence_end (h : scope.flags.skip text = rest) (hends : SequenceEnds rest) :
    readSequence (fuel + 1) scope done text = some (sequenceOf done.reverse, scope, rest) := by
  rw [readSequence, h]
  cases rest with
  | nil => rfl
  | cons c rest => exact if_pos (hends c rfl)

/-- A sequence goes on with a part. -/
theorem readSequence_part (h : scope.flags.skip text = c :: rest) (hc : ¬(c = ')' ∨ c = '|')) :
    readSequence (fuel + 1) scope done text =
      (readPart fuel scope done c rest).bind fun (done, scope, rest) => readSequence fuel scope done rest := by
  rw [readSequence, h]
  simp only [if_neg hc, readPart]
  split
  · cases readGroup fuel scope rest <;> rfl
  split
  · cases readBracket scope.flags fuel rest <;> rfl
  split
  · rcases done with - | ⟨- | ⟨e, height⟩, done⟩
    · rfl
    · rfl
    · cases readRepetition scope.flags c rest <;> rfl
  · cases readSingle scope.flags c rest <;> rfl

/-- The result of a sequence says where it ended. -/
theorem sequenceEnds_of_readSequence (h : readSequence fuel scope done text = some (part, after, rest)) :
    SequenceEnds rest := by
  induction fuel generalizing scope done text with
  | zero => cases h
  | succ fuel ih =>
      by_cases hends : SequenceEnds (scope.flags.skip text)
      · rw [readSequence_end rfl hends] at h
        cases h
        exact hends
      · obtain ⟨c, other, hskip, hc⟩ := exists_cons_of_not_sequenceEnds hends
        rw [readSequence_part hskip hc] at h
        obtain ⟨result, -, hread⟩ := Option.bind_eq_some_iff.mp h
        exact ih hread

/-- Nothing but an operator with a number in braces begins with a brace. -/
theorem readPart_brace {result : List (Option Part) × Scope × List Char}
    (h : readPart fuel scope done '\x7b' text = some result) : scope.flags.skip text ≠ [] := by
  have hrep : repetitionOperators.contains '\x7b' = true := rfl
  simp only [readPart, Char.reduceEq, if_false, hrep, if_true] at h
  split at h
  · obtain ⟨⟨counts, other⟩, hread, -⟩ := Option.map_eq_some_iff.mp h
    obtain ⟨⟨inner, middle⟩, hbraced, -⟩ := Option.bind_eq_some_iff.mp hread
    exact Flags.skip_ne_nil_of_readBraced hbraced
  · cases h

/-- Whether a brace follows is seen in the part of a sequence that was read. -/
theorem braceAhead_append (h : readSequence fuel scope done taken = some (part, after, [])) (hrest : SequenceEnds rest)
    (hmore : SequenceEnds more) : braceAhead scope.flags (taken ++ more) = braceAhead scope.flags (taken ++ rest) := by
  cases taken with
  | nil => exact hmore.braceAhead.trans hrest.braceAhead.symm
  | cons c taken =>
      by_cases hc : c = '\x7b'
      · subst hc
        have hopen : scope.flags.skip ('\x7b' :: taken) = '\x7b' :: taken := by
          unfold Flags.skip
          split <;> rfl
        have hskip : scope.flags.skip taken ≠ [] := by
          cases fuel with
          | zero => cases h
          | succ fuel =>
              rw [readSequence_part hopen (by decide)] at h
              obtain ⟨result, hpart, -⟩ := Option.bind_eq_some_iff.mp h
              exact readPart_brace hpart
        rw [List.cons_append, List.cons_append, braceAhead, braceAhead, Flags.skip_append hskip,
          Flags.skip_append hskip, head?_append_of_ne_nil hskip, head?_append_of_ne_nil hskip]
      · have hnone : ∀ l, braceAhead scope.flags (c :: l) = none := by
          intro l
          unfold braceAhead
          split
          · rename_i heq
            exact absurd (List.head_eq_of_cons_eq heq) hc
          · rfl
        rw [List.cons_append, List.cons_append, hnone, hnone]

/-- **A part is local.** What follows has to begin alike, as far as an operator or an assertion looks ahead. -/
theorem exists_taken_of_readPart
    (hgroup : ∀ {scope text part after rest}, readGroup fuel scope text = some (part, after, rest) →
      TakesGroup scope text part after rest)
    (h : readPart fuel scope done c text = some (others, after, rest)) :
    ∃ taken, text = taken ++ rest ∧ ∀ fuel more, 3 * taken.length + 3 ≤ fuel → Fits after.flags rest more →
      braceAhead after.flags more = braceAhead after.flags rest →
        readPart fuel scope done c (taken ++ more) = some (others, after, more) := by
  unfold readPart at h
  split at h
  case isTrue hopen =>
    obtain ⟨⟨part, inside, middle⟩, hread, heq⟩ := Option.map_eq_some_iff.mp h
    cases heq
    obtain ⟨taken, rfl, htaken⟩ := hgroup hread
    refine ⟨taken, rfl, fun fuel' more hfuel _ _ => ?_⟩
    unfold readPart
    rw [if_pos hopen, htaken fuel' more hfuel]
    rfl
  case isFalse hopen =>
  split at h
  case isTrue hbracket =>
    obtain ⟨⟨set, height, middle⟩, hread, heq⟩ := Option.map_eq_some_iff.mp h
    cases heq
    obtain ⟨taken, rfl, -, htaken⟩ := (takes_bracket scope.flags fuel).1 hread
    refine ⟨taken, rfl, fun fuel' more hfuel _ _ => ?_⟩
    unfold readPart
    rw [if_neg hopen, if_pos hbracket, htaken fuel' more (by omega)]
    rfl
  case isFalse hbracket =>
  split at h
  case isTrue hoperator =>
    split at h
    case h_2 => cases h
    case h_1 done e height =>
    obtain ⟨⟨counts, middle⟩, hread, heq⟩ := Option.map_eq_some_iff.mp h
    cases heq
    obtain ⟨taken, rfl, htaken⟩ := exists_taken_of_readRepetition hread
    refine ⟨taken, rfl, fun fuel' more _ hmore _ => ?_⟩
    unfold readPart
    rw [if_neg hopen, if_neg hbracket, if_pos hoperator]
    simp only [htaken more hmore, Option.map_some]
  case isFalse hoperator =>
    obtain ⟨⟨e, middle⟩, hread, heq⟩ := Option.map_eq_some_iff.mp h
    cases heq
    obtain ⟨taken, rfl, htaken⟩ := exists_taken_of_readSingle hread
    refine ⟨taken, rfl, fun fuel' more _ _ hmore => ?_⟩
    unfold readPart
    rw [if_neg hopen, if_neg hbracket, if_neg hoperator, htaken more hmore]
    rfl

end Sequence

/-! ### Reading is local -/

/-- A sequence is local if groups are. -/
theorem takesSequence_succ
    (hsequence : ∀ {scope done text part after rest}, readSequence fuel scope done text = some (part, after, rest) →
      TakesSequence scope done text part after rest)
    (hgroup : ∀ {scope text part after rest}, readGroup fuel scope text = some (part, after, rest) →
      TakesGroup scope text part after rest)
    {done : List (Option Part)} (h : readSequence (fuel + 1) scope done text = some (part, after, rest)) :
    TakesSequence scope done text part after rest := by
  by_cases hends : SequenceEnds (scope.flags.skip text)
  · rw [readSequence_end rfl hends] at h
    cases h
    obtain ⟨skipped, htext, hskipped⟩ := scope.flags.exists_skipped text
    refine ⟨skipped, htext, fun fuel' more hmore hfuel => ?_⟩
    obtain ⟨fuel', rfl⟩ := Nat.exists_eq_add_of_le' (show 1 ≤ fuel' by omega)
    exact readSequence_end (hskipped more hmore) (hends.of_fits hmore)
  · obtain ⟨c, other, hskip, hc⟩ := exists_cons_of_not_sequenceEnds hends
    rw [readSequence_part hskip hc] at h
    obtain ⟨⟨others, inside, middle⟩, hpart, hread⟩ := Option.bind_eq_some_iff.mp h
    obtain ⟨first, rfl, hfirst⟩ := exists_taken_of_readPart hgroup hpart
    obtain ⟨taken, rfl, htaken⟩ := hsequence hread
    obtain ⟨skipped, rfl, hskips, hcons⟩ := Flags.exists_skipped_of_skip hskip
    refine ⟨skipped ++ c :: (first ++ taken), by simp, fun fuel' more hmore hfuel => ?_⟩
    simp only [List.length_append, List.length_cons] at hfuel
    obtain ⟨fuel', rfl⟩ := Nat.exists_eq_add_of_le' (show 1 ≤ fuel' by omega)
    have hnil := htaken (3 * taken.length + 1) [] (.nil rest) (Nat.le_refl _)
    rw [List.append_nil] at hnil
    have hmiddle : Fits inside.flags (taken ++ rest) (taken ++ more) := by
      cases taken with
      | nil =>
          -- Nothing is left of the sequence, so that the settings stay as they are.
          rw [readSequence_end Flags.skip_nil nofun] at hnil
          cases hnil
          exact hmore
      | cons d taken => exact .cons d _ _
    have hends := sequenceEnds_of_readSequence hread
    have hahead := braceAhead_append hnil hends (hends.of_fits hmore)
    have hskip' : scope.flags.skip (skipped ++ c :: (first ++ (taken ++ more))) = c :: (first ++ (taken ++ more)) :=
      (hskips _).trans (hcons _)
    rw [List.append_assoc, List.cons_append, List.append_assoc, readSequence_part hskip' hc,
      hfirst fuel' (taken ++ more) (by omega) hmiddle hahead]
    exact htaken fuel' more hmore (by omega)

/-- Alternatives are local if sequences are. -/
theorem takesChoice_succ
    (hchoice : ∀ {scope done text part after rest}, readChoice fuel scope done text = some (part, after, rest) →
      TakesChoice scope done text part after rest)
    (hsequence : ∀ {scope done text part after rest}, readSequence fuel scope done text = some (part, after, rest) →
      TakesSequence scope done text part after rest)
    {done : List Part} (h : readChoice (fuel + 1) scope done text = some (part, after, rest)) :
    TakesChoice scope done text part after rest := by
  rw [readChoice] at h
  split at h
  · cases h
  · rename_i first inside middle hread
    obtain ⟨sequence, rfl, hsequence⟩ := hsequence hread
    obtain ⟨taken, rfl, htaken⟩ := hchoice h
    refine ⟨sequence ++ '|' :: taken, by simp, fun fuel' more hmore hfuel => ?_⟩
    simp only [List.length_append, List.length_cons] at hfuel
    obtain ⟨fuel', rfl⟩ := Nat.exists_eq_add_of_le' (show 1 ≤ fuel' by omega)
    rw [List.append_assoc, List.cons_append, readChoice, hsequence fuel' _ (.cons _ _ _) (by omega)]
    exact htaken fuel' more hmore (by omega)
  · rename_i hbar hread
    cases h
    obtain ⟨taken, rfl, htaken⟩ := hsequence hread
    refine ⟨taken, rfl, fun fuel' more hmore hfuel => ?_⟩
    obtain ⟨fuel', rfl⟩ := Nat.exists_eq_add_of_le' (show 1 ≤ fuel' by omega)
    have hrest : rest.head? ≠ some '|' := by
      intro hhead
      obtain ⟨other, rfl⟩ := List.head?_eq_some_iff.mp hhead
      exact hbar _ rfl
    have hbar' := hmore.head?_ne (by decide) hrest
    rw [readChoice, htaken fuel' more hmore (by omega)]
    split
    · rename_i heq
      cases heq
    · rename_i heq
      cases heq
      exact absurd rfl hbar'
    · rename_i heq
      cases heq
      rfl

/-- A group is local if alternatives are. -/
theorem takesGroup_succ
    (hchoice : ∀ {scope done text part after rest}, readChoice fuel scope done text = some (part, after, rest) →
      TakesChoice scope done text part after rest)
    {part : Option Part} (h : readGroup (fuel + 1) scope text = some (part, after, rest)) :
    TakesGroup scope text part after rest := by
  rw [readGroup] at h
  split at h
  · cases h
  · rename_i flags middle hopening
    cases h
    obtain ⟨taken, rfl, htaken⟩ := exists_taken_of_readOpening hopening
    refine ⟨taken, rfl, fun fuel' more hfuel => ?_⟩
    obtain ⟨fuel', rfl⟩ := Nat.exists_eq_add_of_le' (show 1 ≤ fuel' by omega)
    have hopening' := htaken more (by rintro ⟨inside, ⟨⟩⟩)
    rw [readGroup, hopening']
  · rename_i inside middle hopening
    split at h
    · rename_i e height last other hread
      cases h
      obtain ⟨taken, rfl, htaken⟩ := hchoice hread
      obtain ⟨first, rfl, hfirst⟩ := exists_taken_of_readOpening hopening
      refine ⟨first ++ (taken ++ [')']), by simp, fun fuel' more hfuel => ?_⟩
      simp only [List.length_append, List.length_cons, List.length_nil] at hfuel
      obtain ⟨fuel', rfl⟩ := Nat.exists_eq_add_of_le' (show 1 ≤ fuel' by omega)
      have hopening' := hfirst (taken ++ ')' :: more) fun _ => by
        cases taken <;> exact ⟨List.cons_ne_nil _ _, rfl⟩
      have hread' := htaken fuel' (')' :: more) (.cons _ _ _) (by omega)
      rw [List.append_assoc, List.append_assoc, List.singleton_append, readGroup, hopening']
      simp only [hread']
    · cases h

/-- **Reading is local.** What the readers take from a text does not depend on what follows, as long as that fits, and
three units of fuel for each of the characters taken and up to three more are enough. -/
theorem takes (fuel : Nat) :
    (∀ {scope done text part after rest}, readChoice fuel scope done text = some (part, after, rest) →
      TakesChoice scope done text part after rest) ∧
    (∀ {scope done text part after rest}, readSequence fuel scope done text = some (part, after, rest) →
      TakesSequence scope done text part after rest) ∧
    ∀ {scope text part after rest}, readGroup fuel scope text = some (part, after, rest) →
      TakesGroup scope text part after rest := by
  induction fuel with
  | zero => exact ⟨nofun, nofun, nofun⟩
  | succ fuel ih =>
      obtain ⟨hchoice, hsequence, hgroup⟩ := ih
      exact ⟨takesChoice_succ hchoice hsequence, takesSequence_succ hsequence hgroup, takesGroup_succ hchoice⟩

end StubServer.Regex
