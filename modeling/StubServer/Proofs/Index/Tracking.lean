import StubServer.Proofs.Index.Snapshot

/-!
# The index tracks a register

An index *tracks* a register if its snapshot holds the records, its counter counts the insertions and
its cache is sound. Whatever is then done to the index is done to the register: `Tracks.apply` for one
change, `Tracks.foldl_apply` for several, `tracks_fresh` for the start.
-/

namespace StubServer.Index

/-- An index with no entries, whose limited cache had some uses before. -/
def fresh (limit : Option Nat) (uses : List Regex.Cache.Use) : Index :=
  { cache := Regex.Cache.after limit uses }

/-- What the index holds are the records of a register. -/
structure Tracks (index : Index) (register : Register) : Prop where
  holds : index.snapshot.Holds register.records
  sequence : index.sequence = register.inserted
  sound : index.cache.Sound

variable {index : Index} {register : Register}

/-- A fresh index tracks the empty register. -/
theorem tracks_fresh (limit : Option Nat) (uses : List Regex.Cache.Use) :
    (fresh limit uses).Tracks {} where
  holds := Snapshot.holds_nil 0
  sequence := rfl
  sound := Regex.Cache.sound_after limit uses

/-! ### One change -/

/-- Adding a rule enters it into the register. -/
theorem Tracks.add (h : index.Tracks register) (hordered : register.Ordered) (rule : Rule) :
    (index.add rule).Tracks (register.enter rule) := by
  unfold Index.add adding Register.enter
  cases rule.enabled with
  | false => exact h
  | true =>
      obtain ⟨hmatcher, hsound⟩ := Matcher.compile_of_sound rule h.sound
      have hentry : (Entry.mk (Matcher.compile rule index.cache).1 (index.sequence + 1)) =
          (Record.mk rule (register.inserted + 1)).entry := by
        rw [hmatcher, h.sequence]
        rfl
      have hholds := h.holds.insert hordered.distinct (Record.mk rule (register.inserted + 1))
      rw [← hentry] at hholds
      exact ⟨hholds.withGeneration _, congrArg (· + 1) h.sequence, hsound⟩

/-- Removing a key takes its record away. -/
theorem Tracks.remove (h : index.Tracks register) (hordered : register.Ordered) (key : String) :
    (index.remove key).Tracks { register with records := without key register.records } := by
  have hholds := h.holds.remove hordered.distinct key
  unfold Index.remove removing
  split
  · exact ⟨hholds.withGeneration _, h.sequence, h.sound⟩
  · rename_i hcontains
    have hnone : index.snapshot.byKey.find? key = none := by
      simpa [Index.contains] using hcontains
    have hnot := (h.holds.find?_eq_none_iff hordered.distinct).mp hnone
    rw [without_eq_self hnot]
    exact h

/-- Compiling rules one after the other gives what each compiles to. -/
theorem compileAll_of_sound (rules : List Rule) {cache : Regex.Cache} (h : cache.Sound) :
    (compileAll rules cache).1 = rules.map Matcher.ofRule ∧ (compileAll rules cache).2.Sound := by
  induction rules generalizing cache with
  | nil => exact ⟨rfl, h⟩
  | cons rule rest ih =>
      obtain ⟨hmatcher, hsound⟩ := Matcher.compile_of_sound rule h
      obtain ⟨hmatchers, hsounds⟩ := ih hsound
      exact ⟨List.cons_eq_cons.mpr ⟨hmatcher, hmatchers⟩, hsounds⟩

/-- Inserting compiled rules into a snapshot enters the enabled rules into the register. -/
theorem insertAll_holds (rules : List Rule) {snapshot : Snapshot} (hordered : register.Ordered)
    (hholds : snapshot.Holds register.records) :
    let inserted := insertAll ((rules.filter Rule.enabled).map Matcher.ofRule) register.inserted snapshot
    inserted.1 = (rules.foldl Register.enter register).inserted ∧
      inserted.2.Holds (rules.foldl Register.enter register).records := by
  induction rules generalizing register snapshot with
  | nil => exact ⟨rfl, hholds⟩
  | cons rule rest ih =>
      have hnext := hordered.enter rule
      cases henabled : rule.enabled with
      | false =>
          have henter : register.enter rule = register := by simp [Register.enter, henabled]
          simpa [henabled, henter] using ih hordered hholds
      | true =>
          have henter : register.enter rule =
              { records := without rule.key register.records ++
                  [{ rule, position := register.inserted + 1 }]
                inserted := register.inserted + 1 } := by simp [Register.enter, henabled]
          rw [henter] at hnext
          have hinsert := hholds.insert hordered.distinct (Record.mk rule (register.inserted + 1))
          simpa [henabled, henter, insertAll, Record.entry] using ih hnext hinsert

/-- Reloading enters the enabled rules into an empty register. -/
theorem Tracks.reload (h : index.Tracks register) (rules : List Rule) :
    (index.reload rules).Tracks (rules.foldl Register.enter { inserted := register.inserted }) := by
  obtain ⟨hmatchers, hsound⟩ := compileAll_of_sound (rules.filter Rule.enabled) h.sound
  obtain ⟨hinserted, hholds⟩ := insertAll_holds rules (Register.ordered_empty register.inserted)
    (Snapshot.holds_nil index.snapshot.generation)
  unfold Index.reload reloading
  simp only [hmatchers, h.sequence]
  exact ⟨hholds.withGeneration _, hinserted, hsound⟩

/-! ### Any changes -/

/-- **What is done to the index is done to the register.** -/
theorem Tracks.apply (h : index.Tracks register) (hordered : register.Ordered) (edit : Edit) :
    (index.apply edit).Tracks (register.apply edit) := by
  cases edit with
  | add rule => exact h.add hordered rule
  | remove key => exact h.remove hordered key
  | reload rules => exact h.reload rules

/-- What is done to the index in several steps is done to the register, which stays in order. -/
theorem Tracks.foldl_apply (h : index.Tracks register) (hordered : register.Ordered)
    (edits : List Edit) :
    (edits.foldl Index.apply index).Tracks (edits.foldl Register.apply register) ∧
      (edits.foldl Register.apply register).Ordered := by
  induction edits generalizing index register with
  | nil => exact ⟨h, hordered⟩
  | cons edit rest ih => exact ih (h.apply hordered edit) (hordered.apply edit)

end StubServer.Index
