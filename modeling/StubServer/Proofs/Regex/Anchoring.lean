import StubServer.Proofs.Regex.Cache
import StubServer.Proofs.Regex.Locality.Sequence
import StubServer.Proofs.Regex.Reading

/-!
# Patterns between the two ends of the text

A pattern that has to match a whole text is put into a group between the two ends, and the result is read anew. Since
reading is local, the pattern is read in the group as it is read alone, as long as its end is not verbose: there the
parenthesis after it could be part of a comment. The other way around, if the group can be read, its inside is a
pattern; it may be a beginning of what was put there, if a parenthesis in it closes the group early.

So the expression between the two ends is that of the pattern, whatever alternatives and settings are in it, and it
matches the texts that the pattern leads through from their beginning to their end (`Cache.getFull_isMatch_iff`).

## Main statements

* `reading?_of_readChoice`: what a pattern is read as does not depend on fuel.
* `readChoice_append`, `reading?_anchored`: how a pattern is read between the two ends.
* `exists_reading?_of_anchored`: what is read between the two ends is a pattern.
* `EndsVerbose.usesVerbose`: where the end of a pattern is verbose, the verbose flag is used in it.
* `Cache.getFull_isMatch_iff`: the texts that a pattern matches as a whole.
-/

namespace StubServer.Regex

variable {fuel : Nat} {scope after : Scope} {part : Part} {pattern rest text : List Char} {e : Expr} {height : Nat}

/-! ### Readings -/

/-- What a pattern is read as, whatever the limits are: its part, and what is known at its end. -/
def reading? (pattern : List Char) : Option (Part × Scope) :=
  match readChoice (3 * (pattern.length + 1)) {} [] pattern with
  | some (part, scope, []) => some (part, scope)
  | _ => none

/-- A reading takes the whole pattern. -/
theorem reading?_eq_some_iff :
    reading? pattern = some (part, after) ↔
      readChoice (3 * (pattern.length + 1)) {} [] pattern = some (part, after, []) := by
  unfold reading?
  split
  · rename_i heq
    rw [heq]
    simp
  · rename_i hnone
    constructor
    · rintro ⟨⟩
    · intro heq
      exact absurd heq (hnone _ _)

/-- A reading within the limits is what a pattern stands for. -/
theorem parse?_eq [SizeLimit] (pattern : List Char) :
    parse? pattern = (reading? pattern).bind fun (part, _) =>
      if part.2 ≤ heightLimit ∧ SizeLimit.allows pattern part.1 then some part.1 else none := by
  unfold parse? reading?
  split
  · rename_i heq
    simp only [heq, Option.bind_some]
  · rename_i hnone
    split
    · rename_i heq
      exact absurd heq (hnone _ _ _)
    · rfl

/-- **More fuel makes no difference.** A pattern that is read with some fuel has that reading. -/
theorem reading?_of_readChoice (h : readChoice fuel {} [] pattern = some (part, after, [])) :
    reading? pattern = some (part, after) := by
  obtain ⟨taken, htext, htaken⟩ := (takes fuel).1 h
  rw [List.append_nil] at htext
  subst htext
  have hread := htaken (3 * (pattern.length + 1)) [] (.nil []) (by omega)
  rw [List.append_nil] at hread
  exact reading?_eq_some_iff.mpr hread

/-- **A beginning of a text is a pattern** if the text is read up to its end. -/
theorem exists_reading?_of_readChoice (h : readChoice fuel {} [] text = some (part, after, rest)) :
    ∃ taken, text = taken ++ rest ∧ reading? taken = some (part, after) := by
  obtain ⟨taken, htext, htaken⟩ := (takes fuel).1 h
  have hread := htaken _ [] (.nil rest) (Nat.le_refl _)
  rw [List.append_nil] at hread
  exact ⟨taken, htext, reading?_of_readChoice hread⟩

/-- **A pattern inside a group** is read as without it, unless its end is verbose. -/
theorem readChoice_append (h : reading? pattern = some (part, after)) (hverbose : after.flags.verbose = false)
    (rest : List Char) (hfuel : 3 * pattern.length + 2 ≤ fuel) :
    readChoice fuel {} [] (pattern ++ ')' :: rest) = some (part, after, ')' :: rest) := by
  obtain ⟨taken, htext, htaken⟩ := (takes _).1 (reading?_eq_some_iff.mp h)
  rw [List.append_nil] at htext
  subst htext
  exact htaken fuel _ (.close _ hverbose) hfuel

/-! ### Between the two ends -/

/-- The text of an anchored pattern. -/
theorem toList_anchored (pattern : String) :
    (anchored pattern).toList = '^' :: '(' :: '?' :: ':' :: (pattern.toList ++ [')', '$']) := by
  simp [anchored]

/-- A group that captures nothing is what is inside it. -/
theorem readGroup_plain (fuel : Nat) (scope : Scope) (hflags : scope.flags = {}) (text : List Char) :
    readGroup (fuel + 1) scope ('?' :: ':' :: text) =
      match readChoice fuel scope [] text with
      | some ((e, height), inside, ')' :: rest) => some (some (e, height + 1), { inside with flags := {} }, rest)
      | _ => none := by
  obtain ⟨flags, names⟩ := scope
  cases hflags
  rfl

/-- **A pattern between the two ends** is read as its expression between them, if the parenthesis after it closes the
group around it. -/
theorem reading?_anchored {pattern : String}
    (h : readChoice fuel {} [] (pattern.toList ++ [')', '$']) = some (part, after, [')', '$'])) :
    reading? (anchored pattern).toList = some ((part.1.whole, part.2 + 2), { after with flags := {} }) := by
  obtain ⟨fuel, rfl⟩ : ∃ more, fuel = more + 1 := by
    cases fuel with
    | zero => cases h
    | succ fuel => exact ⟨fuel, rfl⟩
  have hgroup := readGroup_plain (fuel + 1) {} rfl (pattern.toList ++ [')', '$'])
  rw [h] at hgroup
  have hstart : readSingle {} '^' = fun rest => some (.look .textStart, rest) := rfl
  have hend : readSingle {} '$' = fun rest => some (.look .textEnd, rest) := rfl
  have hread : readChoice (fuel + 5) {} [] (anchored pattern).toList =
      some ((part.1.whole, part.2 + 2), { after with flags := {} }, []) := by
    refine readChoice_single nofun ?_
    rw [toList_anchored, readSequence_single rfl (by decide) (congrFun hstart _), readSequence_group rfl hgroup,
      readSequence_single rfl (by decide) (congrFun hend _), readSequence_nil rfl]
    simp [sequenceOf, Expr.whole]
  exact reading?_of_readChoice hread

/-- A parenthesis in a text that ends with one is that at the end, or one before it. -/
theorem eq_or_exists_of_append {taken : List Char} (h : text ++ [')', '$'] = taken ++ ')' :: rest) :
    taken = text ∧ rest = ['$'] ∨ ∃ more, text = taken ++ ')' :: more := by
  rcases List.append_eq_append_iff.mp h with ⟨between, rfl, hend⟩ | ⟨between, rfl, hend⟩
  · left
    rcases between with - | ⟨c, - | ⟨d, between⟩⟩
    · cases hend
      exact ⟨List.append_nil text, rfl⟩
    · cases hend
    · cases between <;> cases hend
  · cases between with
    | nil =>
        cases hend
        exact .inl ⟨(List.append_nil taken).symm, rfl⟩
    | cons c between =>
        cases hend
        exact .inr ⟨between, rfl⟩

/-- **A pattern that is read between the two ends** is a pattern, or a beginning of it is one that is followed by a
closing parenthesis. -/
theorem exists_reading?_of_anchored {pattern : String}
    (h : reading? (anchored pattern).toList = some (part, after)) :
    (∃ fuel part after, reading? pattern.toList = some (part, after) ∧
      readChoice fuel {} [] (pattern.toList ++ [')', '$']) = some (part, after, [')', '$'])) ∨
    ∃ inside rest, pattern.toList = inside ++ ')' :: rest ∧ (reading? inside).isSome := by
  obtain ⟨fuel, hfuel⟩ : ∃ fuel, 3 * ((anchored pattern).toList.length + 1) = fuel + 4 :=
    ⟨3 * ((anchored pattern).toList.length + 1) - 4, by rw [toList_anchored, List.length_cons]; omega⟩
  rw [reading?_eq_some_iff, hfuel, toList_anchored] at h
  obtain ⟨result, hsequence⟩ : ∃ result, readSequence (fuel + 3) {} []
      ('^' :: '(' :: '?' :: ':' :: (pattern.toList ++ [')', '$'])) = some result := by
    rw [readChoice] at h
    split at h
    · cases h
    · exact ⟨_, ‹_›⟩
    · exact ⟨_, ‹_›⟩
  have hstart : readSingle {} '^' = fun rest => some (.look .textStart, rest) := rfl
  have hopen : ({} : Flags).skip ('(' :: '?' :: ':' :: (pattern.toList ++ [')', '$'])) =
      '(' :: '?' :: ':' :: (pattern.toList ++ [')', '$']) := rfl
  rw [readSequence_single rfl (by decide) (congrFun hstart _), readSequence_part hopen (by decide)] at hsequence
  obtain ⟨others, hpart, -⟩ := Option.bind_eq_some_iff.mp hsequence
  rw [readPart, if_pos rfl] at hpart
  obtain ⟨⟨group, inside, other⟩, hgroup, -⟩ := Option.map_eq_some_iff.mp hpart
  rw [readGroup_plain _ _ rfl] at hgroup
  split at hgroup
  · rename_i e height inside rest hchoice
    obtain ⟨taken, htext, htaken⟩ := exists_reading?_of_readChoice hchoice
    obtain ⟨rfl, rfl⟩ | ⟨more, hmore⟩ := eq_or_exists_of_append htext
    · exact .inl ⟨fuel, (e, height), inside, htaken, hchoice⟩
    · exact .inr ⟨taken, more, hmore, htaken ▸ rfl⟩
  · cases hgroup

/-! ### Limits -/

/-- A pattern keeps the limits of height and of room, if it is one. -/
def WithinLimits [SizeLimit] (pattern : String) : Prop :=
  ∀ part after, reading? pattern.toList = some (part, after) →
    part.2 ≤ heightLimit ∧ SizeLimit.allows pattern.toList part.1 = true

/-- A pattern that stands for an expression is small enough between the two ends. -/
def FitsAnchored [SizeLimit] (pattern : String) (e : Expr) : Prop :=
  SizeLimit.allows (anchored pattern).toList e.whole = true

/-- A pattern that is small enough between the two ends is so alone. -/
def NoLargerAlone [SizeLimit] (pattern : String) : Prop :=
  ∀ part after, reading? pattern.toList = some (part, after) →
    FitsAnchored pattern part.1 → SizeLimit.allows pattern.toList part.1 = true

/-- By the estimate, no pattern is larger alone. -/
theorem noLargerAlone_estimate (pattern : String) : @NoLargerAlone .estimate pattern := by
  intro part after _ hfits
  have hwhole : part.1.whole.weight ≤ Expr.weightLimit := of_decide_eq_true hfits
  have hle : part.1.weight ≤ part.1.whole.weight := by
    simp only [Expr.whole, Expr.seqAll, Expr.weight]
    omega
  exact decide_eq_true (hle.trans hwhole)

/-- A pattern ends where blanks mean nothing. -/
def EndsVerbose (pattern : String) : Prop :=
  ∃ part after, reading? pattern.toList = some (part, after) ∧ after.flags.verbose = true

instance [SizeLimit] (pattern : String) : Decidable (WithinLimits pattern) :=
  decidable_of_iff (∀ reading ∈ reading? pattern.toList,
      reading.1.2 ≤ heightLimit ∧ SizeLimit.allows pattern.toList reading.1.1 = true) <| by
    simp only [WithinLimits, Prod.forall, Option.mem_def]

instance [SizeLimit] (pattern : String) (e : Expr) : Decidable (FitsAnchored pattern e) :=
  inferInstanceAs (Decidable (_ = _))

instance (pattern : String) : Decidable (EndsVerbose pattern) :=
  decidable_of_iff (∃ reading ∈ reading? pattern.toList, reading.2.flags.verbose = true) <| by
    simp only [EndsVerbose, Prod.exists, Option.mem_def]

/-- What a pattern compiles to comes from its reading. -/
theorem compile?_eq_some_iff [SizeLimit] {pattern : String} {regex : Regex} :
    compile? pattern = some regex ↔ ∃ part after, reading? pattern.toList = some (part, after) ∧
      (part.2 ≤ heightLimit ∧ SizeLimit.allows pattern.toList part.1 = true) ∧
        regex = { source := pattern, expr := part.1 } := by
  rw [compile?, parse?_eq, Option.map_eq_some_iff]
  simp only [Option.bind_eq_some_iff, Option.ite_none_right_eq_some, Option.some.injEq, Prod.exists]
  constructor
  · rintro ⟨_, ⟨e, height, after, hread, hlimits, rfl⟩, rfl⟩
    exact ⟨e, height, after, hread, hlimits, rfl⟩
  · rintro ⟨e, height, after, hread, hlimits, rfl⟩
    exact ⟨e, ⟨e, height, after, hread, hlimits, rfl⟩, rfl⟩

/-- **A pattern whose parts are known** is a regular expression that has to match the whole text, if the limits allow
it. -/
theorem compile?_anchored [SizeLimit] {steps : Nat} {parts : List Part} (h : ReadsAs pattern steps parts)
    (hheight : ∀ part ∈ parts, part.2 ≤ height) (hlimit : height + 3 ≤ heightLimit)
    (hfits : FitsAnchored (.ofList pattern) (.seqAll (parts.map (·.1)))) :
    compile? (anchored (.ofList pattern)) =
      some { source := anchored (.ofList pattern), expr := .whole (.seqAll (parts.map (·.1))) } := by
  have hparts := h.reads 0 {} [] [] rfl nofun
  rw [List.append_nil, List.append_nil, readSequence_nil rfl, List.reverse_reverse] at hparts
  have hread := reading?_of_readChoice (readChoice_single nofun hparts)
  have hclosed := readChoice_append hread rfl ['$'] (Nat.le_refl _)
  rw [← String.toList_ofList (l := pattern)] at hclosed
  have hwhole := reading?_anchored hclosed
  rw [sequenceOf_fst] at hwhole
  have hseq := sequenceOf_snd_le hheight
  exact compile?_eq_some_iff.mpr ⟨_, _, hwhole, ⟨by omega, hfits⟩, rfl⟩

/-! ### Verbose patterns -/

/-- Letters of flags with an x among them, at the beginning of a text. -/
def BeginsWithX (text : List Char) : Prop :=
  ∃ letters rest, text = letters ++ rest ∧ (∀ c ∈ letters, c ∈ '-' :: flagLetters) ∧ 'x' ∈ letters

/-- A pattern uses the verbose flag: an x is among the letters of flags after a parenthesis and a question mark. -/
def UsesVerbose (pattern : List Char) : Prop :=
  ∃ before rest, pattern = before ++ '(' :: '?' :: rest ∧ BeginsWithX rest

/-- Another letter may come first. -/
theorem BeginsWithX.cons {c : Char} (h : BeginsWithX text) (hc : c ∈ '-' :: flagLetters) : BeginsWithX (c :: text) := by
  obtain ⟨letters, rest, rfl, hletters, hx⟩ := h
  exact ⟨c :: letters, rest, rfl, List.forall_mem_cons.mpr ⟨hc, hletters⟩, List.mem_cons_of_mem c hx⟩

/-- Any text may come first. -/
theorem UsesVerbose.append (h : UsesVerbose text) (before : List Char) : UsesVerbose (before ++ text) := by
  obtain ⟨other, rest, rfl, hx⟩ := h
  exact ⟨before ++ other, rest, (List.append_assoc ..).symm, hx⟩

/-- A flag other than the x changes another setting. -/
theorem Flags.set_verbose {flags : Flags} {letter : Char} (h : letter ≠ 'x') (value : Bool) :
    (flags.set letter value).verbose = flags.verbose := by
  unfold Flags.set
  split
  case h_6 => exact absurd rfl h
  all_goals rfl

/-- Only an x among the letters makes patterns verbose. -/
theorem verbose_of_readFlags {flags changed : Flags} {seen : List Char} {c : Char}
    (h : readFlags flags seen text = some (changed, c, rest)) (hverbose : changed.verbose = true) :
    flags.verbose = true ∨ BeginsWithX text := by
  induction text generalizing flags seen with
  | nil => cases h
  | cons d text ih =>
      rw [readFlags] at h
      split at h
      · split at h
        · cases h
        · cases h
          exact .inl hverbose
      split at h
      · cases h
      split at h
      · rename_i hhyphen
        exact (ih h).imp_right fun hx => hx.cons (by simp [hhyphen])
      split at h
      · rename_i hletter
        have hd : d ∈ '-' :: flagLetters := List.mem_cons_of_mem _ (List.contains_iff_mem.mp hletter)
        by_cases hx : d = 'x'
        · exact .inr ⟨[d], text, rfl, by simpa using hd, by simp [hx]⟩
        · rcases ih h with hset | htext
          · exact .inl (by rwa [Flags.set_verbose hx] at hset)
          · exact .inr (htext.cons hd)
      · cases h

/-- Only a directive makes the rest of a pattern verbose, since the settings of a group end with it. -/
theorem verbose_of_readGroup {result : Option Part} (h : readGroup fuel scope text = some (result, after, rest))
    (hverbose : after.flags.verbose = true) :
    scope.flags.verbose = true ∨ ∃ other, text = '?' :: other ∧ BeginsWithX other := by
  by_cases hscope : scope.flags.verbose = true
  · exact .inl hscope
  have hskip : ∀ text, scope.flags.skip text = text := fun text => by simp [Flags.skip, hscope]
  cases fuel with
  | zero => cases h
  | succ fuel =>
  rw [readGroup] at h
  split at h
  · cases h
  · rename_i hopening
    cases h
    unfold readOpening at hopening
    rw [hskip] at hopening
    split at hopening
    case h_7 other _ _ _ _ _ _ =>
      split at hopening
      · cases hopening
      · rename_i hflags
        cases hopening
        exact (verbose_of_readFlags hflags hverbose).imp_right fun hx => ⟨_, rfl, hx⟩
      · cases hopening
    case h_5 | h_6 =>
      obtain ⟨named, -, heq⟩ := Option.map_eq_some_iff.mp hopening
      cases heq
    all_goals cases hopening
  · split at h
    · cases h
      exact .inl hverbose
    · cases h

/-- Only a directive makes the rest of a sequence verbose. -/
theorem verbose_of_readPart {done others : List (Option Part)} {c : Char}
    (h : readPart fuel scope done c text = some (others, after, rest)) (hverbose : after.flags.verbose = true) :
    scope.flags.verbose = true ∨ ∃ other, c :: text = '(' :: '?' :: other ∧ BeginsWithX other := by
  unfold readPart at h
  split at h
  · rename_i hopen
    obtain ⟨⟨part, inside, middle⟩, hread, heq⟩ := Option.map_eq_some_iff.mp h
    cases heq
    refine (verbose_of_readGroup hread hverbose).imp_right ?_
    rintro ⟨other, rfl, hx⟩
    exact ⟨other, by rw [hopen], hx⟩
  split at h
  · obtain ⟨result, -, heq⟩ := Option.map_eq_some_iff.mp h
    cases heq
    exact .inl hverbose
  split at h
  · split at h
    · obtain ⟨result, -, heq⟩ := Option.map_eq_some_iff.mp h
      cases heq
      exact .inl hverbose
    · cases h
  · obtain ⟨result, -, heq⟩ := Option.map_eq_some_iff.mp h
    cases heq
    exact .inl hverbose

/-- Only a directive makes the end of a sequence verbose. -/
theorem verbose_of_readSequence {done : List (Option Part)}
    (h : readSequence fuel scope done text = some (part, after, rest)) (hverbose : after.flags.verbose = true) :
    scope.flags.verbose = true ∨ UsesVerbose text := by
  induction fuel generalizing scope done text with
  | zero => cases h
  | succ fuel ih =>
      by_cases hends : SequenceEnds (scope.flags.skip text)
      · rw [readSequence_end rfl hends] at h
        cases h
        exact .inl hverbose
      · obtain ⟨c, other, hskip, hc⟩ := exists_cons_of_not_sequenceEnds hends
        rw [readSequence_part hskip hc] at h
        obtain ⟨⟨others, inside, middle⟩, hpart, hread⟩ := Option.bind_eq_some_iff.mp h
        obtain ⟨first, rfl, -⟩ := exists_taken_of_readPart (takes fuel).2.2 hpart
        obtain ⟨skipped, rfl, -⟩ := Flags.exists_skipped_of_skip hskip
        rcases ih hread with hinside | hmiddle
        · refine (verbose_of_readPart hpart hinside).imp_right ?_
          rintro ⟨other, heq, hx⟩
          exact ⟨skipped, other, by rw [heq], hx⟩
        · have hafter := hmiddle.append (skipped ++ c :: first)
          exact .inr (by simpa using hafter)

/-- Only a directive makes the end of alternatives verbose. -/
theorem verbose_of_readChoice {done : List Part} (h : readChoice fuel scope done text = some (part, after, rest))
    (hverbose : after.flags.verbose = true) : scope.flags.verbose = true ∨ UsesVerbose text := by
  induction fuel generalizing scope done text with
  | zero => cases h
  | succ fuel ih =>
      rw [readChoice] at h
      split at h
      · cases h
      · rename_i first inside middle hread
        obtain ⟨taken, rfl, -⟩ := (takes fuel).2.1 hread
        rcases ih h with hinside | hmiddle
        · exact verbose_of_readSequence hread hinside
        · have hafter := hmiddle.append (taken ++ ['|'])
          exact .inr (by simpa using hafter)
      · rename_i hread
        cases h
        exact verbose_of_readSequence hread hverbose

/-- **Only patterns that use the verbose flag** end where blanks mean nothing. -/
theorem EndsVerbose.usesVerbose {pattern : String} (h : EndsVerbose pattern) : UsesVerbose pattern.toList := by
  obtain ⟨part, after, hread, hverbose⟩ := h
  exact (verbose_of_readChoice (reading?_eq_some_iff.mp hread) hverbose).resolve_left nofun

/-! ### Matching the whole text -/

/-- A pattern that is a regular expression is one between the two ends, too, unless it ends where blanks mean nothing,
and matches what its expression leads through from the beginning to the end. -/
theorem exists_compile?_anchored [SizeLimit] {pattern : String} {regex : Regex} (h : compile? pattern = some regex)
    (hverbose : ¬EndsVerbose pattern) (hlimits : WithinLimits (anchored pattern)) :
    ∃ full, compile? (anchored pattern) = some full ∧
      ∀ text : String, full.isMatch text = true ↔ regex.expr.Spans text.toList.toArray 0 text.toList.length := by
  obtain ⟨⟨e, height⟩, after, hread, -, rfl⟩ := compile?_eq_some_iff.mp h
  have hplain : after.flags.verbose = false := by
    rw [← Bool.not_eq_true]
    exact fun h => hverbose ⟨_, _, hread, h⟩
  have hwhole := reading?_anchored (readChoice_append hread hplain ['$'] (Nat.le_refl _))
  have hfull : compile? (anchored pattern) = some { source := anchored pattern, expr := e.whole } :=
    compile?_eq_some_iff.mpr ⟨_, _, hwhole, hlimits _ _ hwhole, rfl⟩
  exact ⟨_, hfull, fun text => Expr.isMatch_whole_iff e text.toList⟩

end StubServer.Regex
