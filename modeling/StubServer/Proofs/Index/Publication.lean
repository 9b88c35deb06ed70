import StubServer.Index

/-!
# Published snapshots

A change of the index publishes one snapshot or leaves the index as it is. While several changes are made,
whoever looks something up sees the snapshot that was published last, or the one from before if none was
published yet.

## Main statements

* `generation_foldl_apply`: the count of snapshots grows with each one that is published.
* `snapshot_of_length_published_le_one`: if at most one is published, everybody sees the index as it was
  before all changes or as it is after them.
-/

namespace StubServer.Index

variable {index : Index} {edit : Edit} {edits done : List Edit}

/-! ### One change -/

/-- Whether a change publishes a snapshot. -/
def publishes (index : Index) : Edit → Bool
  | .add rule => rule.enabled
  | .remove key => index.contains key
  | .reload _ => true

/-- A change that publishes nothing leaves the index as it is, and reports nothing. -/
theorem change_of_not_publishes (h : index.publishes edit = false) : index.change edit = (index, []) := by
  cases edit with
  | add rule =>
      have henabled : rule.enabled = false := h
      rw [change, adding, henabled]
      rfl
  | remove key =>
      have hcontains : index.contains key = false := h
      rw [change, removing, hcontains]
      rfl
  | reload rules => cases h

/-- A change that publishes nothing leaves the index as it is. -/
theorem apply_of_not_publishes (h : index.publishes edit = false) : index.apply edit = index :=
  congrArg Prod.fst (change_of_not_publishes h)

namespace Snapshot

/-- Removing a key does not count as publishing. -/
theorem generation_remove (key : String) (snapshot : Snapshot) :
    (snapshot.remove key).generation = snapshot.generation := by
  unfold remove
  split <;> rfl

/-- Inserting an entry does not count as publishing. -/
theorem generation_insert (entry : Entry) (snapshot : Snapshot) :
    (snapshot.insert entry).generation = snapshot.generation :=
  generation_remove _ snapshot

end Snapshot

/-- Inserting several entries does not count as publishing. -/
theorem generation_insertAll (matchers : List Matcher) (sequence : Nat) (snapshot : Snapshot) :
    (insertAll matchers sequence snapshot).2.generation = snapshot.generation := by
  induction matchers generalizing sequence snapshot with
  | nil => rfl
  | cons matcher rest ih => exact (ih _ _).trans (Snapshot.generation_insert _ snapshot)

/-- A change that publishes is counted once. -/
theorem generation_apply_of_publishes (h : index.publishes edit = true) :
    (index.apply edit).snapshot.generation = index.snapshot.generation + 1 := by
  cases edit with
  | add rule =>
      have henabled : rule.enabled = true := h
      simp [apply, change, adding, henabled, publish, Snapshot.generation_insert]
  | remove key =>
      have hcontains : index.contains key = true := h
      simp [apply, change, removing, hcontains, publish, Snapshot.generation_remove]
  | reload rules => simp [apply, change, reloading, publish, generation_insertAll]

/-! ### Several changes -/

/-- The snapshots that are published while changes are made, one after the other. -/
def published (index : Index) : List Edit → List Snapshot
  | [] => []
  | edit :: rest =>
    (if index.publishes edit then [(index.apply edit).snapshot] else []) ++
      published (index.apply edit) rest

/-- Changes publish at most one snapshot each. -/
theorem length_published_le (index : Index) (edits : List Edit) :
    (index.published edits).length ≤ edits.length := by
  induction edits generalizing index with
  | nil => exact Nat.le_refl 0
  | cons edit rest ih =>
      have hrest := ih (index.apply edit)
      rw [published]
      split <;> simp <;> omega

/-- **The count of snapshots** grows with each one that is published. -/
theorem generation_foldl_apply (index : Index) (edits : List Edit) :
    (edits.foldl apply index).snapshot.generation =
      index.snapshot.generation + (index.published edits).length := by
  induction edits generalizing index with
  | nil => rfl
  | cons edit rest ih =>
      rw [List.foldl_cons, ih, published]
      cases hpublishes : index.publishes edit with
      | false => simp [apply_of_not_publishes hpublishes]
      | true => simp [generation_apply_of_publishes hpublishes]; omega

/-- What is published by some changes and then by others. -/
theorem published_append (index : Index) (edits more : List Edit) :
    index.published (edits ++ more) =
      index.published edits ++ (edits.foldl apply index).published more := by
  induction edits generalizing index with
  | nil => rfl
  | cons edit rest ih => simp [published, ih]

/-- As long as nothing is published, nothing has changed. -/
theorem foldl_apply_of_published_eq_nil (h : index.published edits = []) :
    edits.foldl apply index = index := by
  induction edits generalizing index with
  | nil => rfl
  | cons edit rest ih =>
      obtain ⟨hedit, hrest⟩ := List.append_eq_nil_iff.mp h
      have hpublishes : index.publishes edit = false := by
        cases hpublishes : index.publishes edit with
        | false => rfl
        | true => simp [hpublishes] at hedit
      rw [apply_of_not_publishes hpublishes] at hrest
      rw [List.foldl_cons, apply_of_not_publishes hpublishes, ih hrest]

/-- **If at most one snapshot is published**, the index is seen as it is before all changes or as it is
after them. -/
theorem snapshot_of_length_published_le_one (h : (index.published edits).length ≤ 1)
    (hdone : done <+: edits) :
    (done.foldl apply index).snapshot = index.snapshot ∨
      (done.foldl apply index).snapshot = (edits.foldl apply index).snapshot := by
  obtain ⟨more, rfl⟩ := hdone
  rw [published_append, List.length_append] at h
  rw [List.foldl_append]
  -- Either nothing was published yet, or nothing is left to be published.
  cases hpublished : index.published done with
  | nil => exact .inl (congrArg Index.snapshot (foldl_apply_of_published_eq_nil hpublished))
  | cons snapshot others =>
      rw [hpublished, List.length_cons] at h
      have hmore : (done.foldl apply index).published more = [] :=
        List.eq_nil_of_length_eq_zero (by omega)
      exact .inr (congrArg Index.snapshot (foldl_apply_of_published_eq_nil hmore).symm)

end StubServer.Index
