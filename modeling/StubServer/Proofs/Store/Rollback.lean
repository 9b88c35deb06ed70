import Mathlib.Tactic.IntervalCases
import StubServer.Proofs.Store.Call

/-!
# Writes that fail

A write that fails is taken back. The table is the one before the call, with the number that was given
last, and the file has the text it had. What was written until then stands in the file beside it, which
nothing reads.

## Main statements

* `Disk.settled_replace`: replacing a file leaves it alone if it fails.
* `Store.untouched_of_save`, `Store.untouched_of_delete`: so do the writing calls of a store.
-/

namespace StubServer

/-! ### Files -/

namespace Disk

variable {steps : List Step} {cut : Option Cut} {disk after : Disk} {reason : String}

/-- The file without the one beside it. -/
def settled (disk : Disk) : Disk :=
  { disk with draft := none }

/-- The file beside the file is not in its place yet when the writing is cut off. A cut after that is no
failure of a step. -/
def Cut.BeforeRename (cut : Cut) : Prop :=
  cut.completed < 5

/-- Only renaming touches the file. -/
theorem settled_run (h : Step.rename ∉ steps) (disk : Disk) :
    (disk.run steps).settled = disk.settled := by
  induction steps generalizing disk with
  | nil => rfl
  | cons step rest ih =>
      obtain ⟨hstep, hrest⟩ := not_or.mp (List.mem_cons.not.mp h)
      have hkeeps : (step.run disk).settled = disk.settled := by
        cases step with
        | rename => exact absurd rfl hstep
        | makeDirectories | createDraft | writeDraft text | sync => rfl
      exact (ih hrest _).trans hkeeps

/-- A cut that falls before the renaming leaves it undone. -/
theorem Cut.BeforeRename.rename_notMem_done {cut : Cut} (h : cut.BeforeRename) (text : String) :
    Step.rename ∉ cut.done text := by
  obtain ⟨completed, written⟩ := cut
  unfold Cut.BeforeRename at h
  dsimp only at h
  interval_cases completed <;> simp [Cut.done, Disk.steps, Step.partially]

/-- **Replacing a file** leaves it alone if it fails. -/
theorem settled_replace (hcut : ∀ c ∈ cut, c.BeforeRename) {text : String}
    (h : disk.replace cut text = (some reason, after)) : after.settled = disk.settled := by
  unfold replace at h
  split at h
  · exact congrArg settled (Prod.mk.inj h).2.symm
  · cases cut with
    | none => simp at h
    | some cut =>
        rw [← (Prod.mk.inj h).2]
        exact settled_run ((hcut cut rfl).rename_notMem_done text) disk

end Disk

/-! ### Stores -/

namespace Store

/-- Writing is cut off, if at all, before the file beside the file is in its place. -/
def Condition.BeforeRename (condition : Condition) : Prop :=
  ∀ cut ∈ condition.cut, cut.BeforeRename

/-- Two stores have the same table and the same file. -/
structure Untouched (before after : Store) : Prop where
  table : after.table = before.table
  disk : after.disk.map Disk.settled = before.disk.map Disk.settled

variable {condition : Condition} {store after : Store} {error : StoreError}

/-- A store is untouched as long as nothing is done to it. -/
theorem Untouched.refl (store : Store) : store.Untouched store :=
  ⟨rfl, rfl⟩

/-- A changed table that cannot be written is given up. -/
theorem untouched_of_commit {α : Type} {result : α} {table : Table} (hcut : condition.BeforeRename)
    (h : store.commit condition result table = (.error error, after)) : store.Untouched after := by
  unfold commit at h
  cases hdisk : store.disk with
  | none => simp [hdisk] at h
  | some disk =>
      simp only [hdisk] at h
      split at h
      · simp at h
      · rename_i reason disk' hreplace
        rw [← (Prod.mk.inj h).2]
        refine ⟨rfl, ?_⟩
        rw [hdisk]
        exact congrArg some (Disk.settled_replace hcut hreplace)

/-- **Saving a rule** leaves the store alone if it fails. -/
theorem untouched_of_save {rule : Rule} (hcut : condition.BeforeRename)
    (h : store.save condition rule = (.error error, after)) : store.Untouched after := by
  unfold save at h
  split at h
  · exact (Prod.mk.inj h).2 ▸ .refl store
  · split at h
    · exact untouched_of_commit hcut h
    · exact (Prod.mk.inj h).2 ▸ .refl store

/-- **Deleting a rule** leaves the store alone if it fails. -/
theorem untouched_of_delete {id : Int} (hcut : condition.BeforeRename)
    (h : store.delete condition id = (.error error, after)) : store.Untouched after := by
  unfold delete at h
  split at h
  · exact (Prod.mk.inj h).2 ▸ .refl store
  · exact untouched_of_commit hcut h

end Store

end StubServer
