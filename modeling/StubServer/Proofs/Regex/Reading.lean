import StubServer.Proofs.Regex.Matching
import StubServer.Regex.Cache

/-!
# How patterns are read

A pattern that is read as a part of a sequence adds parts to it and uses up fuel, whatever stands before and after it:
`ReadsAs`. A text that is written literally adds a part for each of its characters (`readsAs_literal`).
-/

namespace StubServer.Regex

variable {fuel steps more : Nat} {scope : Scope} {done : List (Option Part)} {parts others : List Part}
  {pattern other rest : List Char} {c : Char}

/-! ### Steps of reading a sequence -/

/-- The characters that do not stand for parts of their own in a sequence. -/
def sequenceMarks : List Char :=
  [')', '|', '(', '['] ++ repetitionOperators

section Steps

variable (hflags : scope.flags = {})

include hflags

/-- A sequence ends with the pattern. -/
theorem readSequence_nil : readSequence (fuel + 1) scope done [] = some (sequenceOf done.reverse, scope, []) := by
  rw [readSequence, hflags]
  rfl

/-- A sequence ends with the group around it, or with the alternative. -/
theorem readSequence_mark (hc : c = ')' ∨ c = '|') :
    readSequence (fuel + 1) scope done (c :: rest) = some (sequenceOf done.reverse, scope, c :: rest) := by
  rw [readSequence, hflags]
  exact if_pos hc

/-- A character, an escape, a dot or an assertion is a part. -/
theorem readSequence_single {e : Expr} (hc : c ∉ sequenceMarks) (h : readSingle {} c rest = some (e, other)) :
    readSequence (fuel + 1) scope done (c :: rest) = readSequence fuel scope (some (e, 0) :: done) other := by
  simp only [sequenceMarks, List.mem_append, List.mem_cons, List.not_mem_nil, or_false, not_or] at hc
  obtain ⟨⟨hclose, hbar, hopen, hbracket⟩, hrep⟩ := hc
  have hrep' : repetitionOperators.contains c = false := by simpa using hrep
  rw [readSequence, hflags]
  simp only [Flags.skip, Bool.false_eq_true, if_false, hclose, hbar, hopen, hbracket, or_self, hrep', h]

/-- A class in brackets is a part. -/
theorem readSequence_bracket {set : CharSet} {height : Nat} (h : readBracket {} fuel rest = some (set, height, other)) :
    readSequence (fuel + 1) scope done ('[' :: rest) =
      readSequence fuel scope (some (.chars set, height) :: done) other := by
  rw [readSequence, hflags]
  simp only [Flags.skip, Bool.false_eq_true, if_false, Char.reduceEq, or_self, if_true, h]

/-- A repetition takes the place of the part before it. -/
theorem readSequence_repetition {e : Expr} {height least : Nat} {extra : Option Nat}
    (hc : c ∈ repetitionOperators) (h : readRepetition {} c rest = some ((least, extra), other)) :
    readSequence (fuel + 1) scope (some (e, height) :: done) (c :: rest) =
      readSequence fuel scope (some (.rep least extra e, height + 1) :: done) other := by
  have hrep : repetitionOperators.contains c = true := List.contains_iff_mem.mpr hc
  have hother : c ≠ ')' ∧ c ≠ '|' ∧ c ≠ '(' ∧ c ≠ '[' := by
    simp only [repetitionOperators, List.mem_cons, List.not_mem_nil, or_false] at hc
    rcases hc with rfl | rfl | rfl | rfl <;> decide
  rw [readSequence, hflags]
  simp only [Flags.skip, Bool.false_eq_true, if_false, hother, or_self, hrep, if_true, h]

/-- A group is a part. -/
theorem readSequence_group {part : Option Part} {after : Scope}
    (h : readGroup fuel scope rest = some (part, after, other)) :
    readSequence (fuel + 1) scope done ('(' :: rest) = readSequence fuel after (part :: done) other := by
  rw [readSequence, hflags]
  simp only [Flags.skip, Bool.false_eq_true, if_false, Char.reduceEq, or_self, if_true, h]

end Steps

/-- Alternatives end with the pattern, if there is one of them. -/
theorem readChoice_single {part : Part} {after : Scope} (hrest : rest.head? ≠ some '|')
    (h : readSequence fuel scope [] pattern = some (part, after, rest)) :
    readChoice (fuel + 1) scope [] pattern = some (part, after, rest) := by
  rw [readChoice, h]
  split
  · rename_i heq
    cases heq
  · rename_i heq
    cases heq
    exact absurd rfl hrest
  · rename_i heq
    exact heq.symm

/-! ### Parts of a sequence -/

/-- Reading a pattern as a part of a sequence takes some steps and adds parts. The fuel that is left to what follows
is enough for what is nested in a part. A question mark may not follow, as it would belong to the pattern. -/
structure ReadsAs (pattern : List Char) (steps : Nat) (parts : List Part) : Prop where
  head : pattern.head? ≠ some '?'
  reads : ∀ (fuel : Nat) (scope : Scope) (done : List (Option Part)) (rest : List Char), scope.flags = {} →
    rest.head? ≠ some '?' →
      readSequence (fuel + 3 + steps) scope done (pattern ++ rest) =
        readSequence (fuel + 3) scope ((parts.map some).reverse ++ done) rest

/-- Nothing adds nothing. -/
theorem readsAs_nil : ReadsAs [] 0 [] where
  head := nofun
  reads := fun _ _ _ _ _ _ => rfl

/-- A text begins as its first part does. -/
theorem head?_append_ne (h : pattern.head? ≠ some c) (h' : other.head? ≠ some c) :
    (pattern ++ other).head? ≠ some c := by
  cases pattern with
  | nil => exact h'
  | cons first pattern => exact h

/-- One pattern after another adds the parts of both. -/
theorem ReadsAs.append (h : ReadsAs pattern steps parts) (h' : ReadsAs other more others) :
    ReadsAs (pattern ++ other) (more + steps) (parts ++ others) where
  head := head?_append_ne h.head h'.head
  reads := by
    intro fuel scope done rest hflags hrest
    have hfuel : fuel + 3 + (more + steps) = fuel + more + 3 + steps := by omega
    have hfuel' : fuel + more + 3 = fuel + 3 + more := by omega
    rw [hfuel, List.append_assoc, h.reads _ scope done _ hflags (head?_append_ne h'.head hrest),
      hfuel', h'.reads fuel scope _ rest hflags hrest,
      List.map_append, List.reverse_append, List.append_assoc]

/-- A character that means something can be escaped. -/
theorem readEscape_of_mem : ∀ c ∈ metaCharacters, ∀ rest, readEscape {} (c :: rest) = some (.char c false, rest) := by
  simp only [metaCharacters, List.forall_mem_cons]
  and_intros
  all_goals first | exact fun _ => rfl | exact fun _ h => absurd h List.not_mem_nil

/-- A character that means nothing stands for itself. -/
theorem readSingle_of_notMem (hc : c ∉ metaCharacters) (rest : List Char) :
    readSingle {} c rest = some (charExpr {} c, rest) := by
  simp only [metaCharacters, List.mem_cons, List.not_mem_nil, or_false, not_or] at hc
  unfold readSingle
  split <;> simp_all

/-- **A character that is written literally** adds the set of that character. -/
theorem readsAs_literal_singleton (c : Char) : ReadsAs (literal [c]) 1 [(.chars (.of c), 0)] := by
  by_cases hc : c ∈ metaCharacters
  · have hliteral : literal [c] = ['\\', c] := by simp [literal, hc]
    have hsingle : ∀ rest, readSingle {} '\\' (c :: rest) = some (charExpr {} c, rest) := fun rest => by
      simp [readSingle, readEscape_of_mem c hc, Atom.expr?]
    rw [hliteral]
    refine ⟨by simp, fun fuel scope done rest hflags _ => ?_⟩
    exact readSequence_single hflags (by decide) (hsingle rest)
  · have hliteral : literal [c] = [c] := by simp [literal, hc]
    have hmarks : c ∉ sequenceMarks := fun hmem => hc ((by decide : sequenceMarks ⊆ metaCharacters) hmem)
    have hquestion : c ≠ '?' := fun heq => hc (heq ▸ by decide)
    rw [hliteral]
    refine ⟨by simpa using hquestion, fun fuel scope done rest hflags _ => ?_⟩
    exact readSequence_single hflags hmarks (readSingle_of_notMem hc rest)

/-- Literal text is written literally, one character after the other. -/
theorem literal_cons (c : Char) (text : List Char) : literal (c :: text) = literal [c] ++ literal text := by
  simp [literal]

/-- **A text that is written literally** adds the sets of its characters. -/
theorem readsAs_literal (text : List Char) :
    ReadsAs (literal text) text.length (text.map fun c => (.chars (.of c), 0)) := by
  induction text with
  | nil => exact readsAs_nil
  | cons c text ih =>
      rw [literal_cons]
      exact (readsAs_literal_singleton c).append ih

/-- All characters but a slash, in brackets. -/
theorem readBracket_exceptSlash (fuel : Nat) (rest : List Char) :
    readBracket {} (fuel + 3) ('^' :: '/' :: ']' :: rest) = some (.compl (.of '/'), 1, rest) :=
  rfl

/-- **One or more characters other than a slash.** -/
theorem readsAs_exceptSlash : ReadsAs "[^/]+".toList 2 [(.rep 1 none (.chars (.compl (.of '/'))), 2)] where
  head := by simp
  reads := by
    intro fuel scope done rest hflags hrest
    have hplus : readRepetition {} '+' rest = some ((1, none), rest) := by simp [readRepetition, hrest]
    have hbracket := readBracket_exceptSlash (fuel + 1) ('+' :: rest)
    have hpattern : "[^/]+".toList ++ rest = '[' :: '^' :: '/' :: ']' :: '+' :: rest := rfl
    rw [hpattern, readSequence_bracket hflags hbracket]
    exact readSequence_repetition hflags (by decide) hplus

/-- **Any number of characters other than a line feed.** -/
theorem readsAs_anything : ReadsAs ".*".toList 2 [(.rep 0 none (.chars (.compl (.of '\n'))), 1)] where
  head := by simp
  reads := by
    intro fuel scope done rest hflags hrest
    have hdot : readSingle {} '.' ('*' :: rest) = some (.chars (.compl (.of '\n')), '*' :: rest) := rfl
    have hstar : readRepetition {} '*' rest = some ((0, none), rest) := by simp [readRepetition, hrest]
    have hpattern : ".*".toList ++ rest = '.' :: '*' :: rest := rfl
    rw [hpattern, readSequence_single hflags (by decide) hdot]
    exact readSequence_repetition hflags (by decide) hstar

/-! ### Sequences of parts -/

/-- All parts are there. -/
theorem map_getD_map_some (parts : List Part) :
    (parts.map some).map (fun part => part.getD (.empty, 0)) = parts := by
  simp [Function.comp_def]

/-- The expression of a sequence. -/
theorem sequenceOf_fst (parts : List Part) : (sequenceOf (parts.map some)).1 = .seqAll (parts.map (·.1)) := by
  rcases parts with - | ⟨first, - | ⟨second, rest⟩⟩
  · rfl
  · rfl
  · have hparts := map_getD_map_some (first :: second :: rest)
    exact congrArg (fun parts : List Part => Expr.seqAll (parts.map (·.1))) hparts

/-- The greatest of some heights. -/
theorem foldl_max_le {heights : List Nat} {start height : Nat} (hstart : start ≤ height)
    (h : ∀ other ∈ heights, other ≤ height) : heights.foldl max start ≤ height := by
  induction heights generalizing start with
  | nil => exact hstart
  | cons first rest ih =>
      obtain ⟨hfirst, hrest⟩ := List.forall_mem_cons.mp h
      exact ih (Nat.max_le.mpr ⟨hstart, hfirst⟩) hrest

/-- A sequence is not much higher than its parts. -/
theorem sequenceOf_snd_le {height : Nat} (h : ∀ part ∈ parts, part.2 ≤ height) :
    (sequenceOf (parts.map some)).2 ≤ height + 1 := by
  rcases parts with - | ⟨first, - | ⟨second, rest⟩⟩
  · exact Nat.zero_le _
  · exact Nat.le_succ_of_le (h first List.mem_cons_self)
  · have hheights : ∀ other ∈ (first :: second :: rest).map (·.2), other ≤ height := by
      intro other hother
      obtain ⟨part, hpart, rfl⟩ := List.mem_map.mp hother
      exact h part hpart
    have hparts := map_getD_map_some (first :: second :: rest)
    exact Nat.succ_le_succ (hparts.symm ▸ foldl_max_le (Nat.zero_le _) hheights)

end StubServer.Regex
