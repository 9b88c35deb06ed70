import StubServer.Proofs.Engine.Call
import StubServer.Proofs.Store.Rollback

/-!
# Calls that fail

A call that fails leaves everything as it was: the rules and the number that was given last, the file,
the index with the count of its snapshots and insertions, and whether the engine is running. This holds
of every engine, also of one whose index has nothing to do with its store.

Creating several rules is the one call that it does not hold of: what was created before the failure
stays.

## Main statements

* `Plan.Atomic`: an operation that changes nothing if it fails; the operations are `Plan.atomic_create`,
  `Plan.atomic_update`, `Plan.atomic_delete`, `Plan.atomic_toggle` and `Plan.atomic_reload`.
* `Engine.unchanged_of_failed`: a call that fails changes nothing.
-/

namespace StubServer

/-- Every writing that is cut off is so before the file beside the file is in its place. -/
def Surroundings.BeforeRename (env : Surroundings) : Prop :=
  ∀ i, (env.condition i).BeforeRename

/-! ### Operations -/

namespace Plan

variable {α β : Type} {env : Surroundings} {store : Store}

/-- If the operation fails, the store is untouched and the index is not to be changed. -/
def Atomic (store : Store) (plan : Plan α) : Prop :=
  plan.result.isOk = false → plan.edits = [] ∧ store.Untouched plan.store

/-- A failure changes nothing. -/
theorem atomic_fail (error : EngineError) (store : Store) : Atomic store (fail error store : Plan α) :=
  fun _ => ⟨rfl, .refl store⟩

/-- The index is changed only after the last write, which leaves the store alone if it fails. -/
theorem atomic_endingWith {write : Except StoreError β × Store} (finish : β → α)
    (edits : β → List Index.Edit)
    (h : ∀ error after, write = (.error error, after) → store.Untouched after) :
    Atomic store (endingWith write finish edits) := by
  obtain ⟨result, after⟩ := write
  cases result with
  | ok v => exact fun hfailed => Bool.noConfusion hfailed
  | error e => exact fun _ => ⟨rfl, h e after rfl⟩

/-- Creating one rule writes once, at its end. -/
theorem atomic_createOne (hcut : env.BeforeRename) (i : Nat) (known : List Rule) (rule : Rule) :
    Atomic store (createOne env i known rule store) := by
  rcases createOne_ends env i known rule store with ⟨error, heq⟩ | ⟨-, -, heq⟩
  · exact heq ▸ atomic_fail error store
  · exact heq ▸ atomic_endingWith _ _ fun _ _ => Store.untouched_of_save (hcut (i + 1))

/-- Creating a rule changes nothing if it fails. -/
theorem atomic_create (hcut : env.BeforeRename) (rule : Rule) :
    Atomic store (create env rule store) := by
  unfold create
  rcases withAll_cases (env.condition 0) store fun known => createOne env 0 known rule store with
    ⟨error, heq⟩ | heq
  · exact heq ▸ atomic_fail error store
  · exact heq ▸ atomic_createOne hcut 0 store.table.all rule

/-- Updating changes nothing if it fails. -/
theorem atomic_update (hcut : env.BeforeRename) (id : Int) (changes : Rule) :
    Atomic store (update env id changes store) := by
  rcases update_ends env id changes store with ⟨error, heq⟩ | ⟨existing, -, -, heq⟩
  · exact heq ▸ atomic_fail error store
  · exact heq ▸ atomic_endingWith _ _ fun _ _ => Store.untouched_of_save (hcut 1)

/-- Deleting changes nothing if it fails. -/
theorem atomic_delete (hcut : env.BeforeRename) (id : Int) : Atomic store (delete env id store) := by
  rcases delete_ends env id store with ⟨error, heq⟩ | ⟨existing, -, heq⟩
  · exact heq ▸ atomic_fail error store
  · exact heq ▸ atomic_endingWith _ _ fun _ _ => Store.untouched_of_delete (hcut 1)

/-- Toggling changes nothing if it fails. -/
theorem atomic_toggle (hcut : env.BeforeRename) (id : Int) : Atomic store (toggle env id store) := by
  rcases toggle_ends env id store with ⟨error, heq⟩ | ⟨existing, -, heq⟩
  · exact heq ▸ atomic_fail error store
  · exact heq ▸ atomic_endingWith _ _ fun _ _ => Store.untouched_of_save (hcut 1)

/-- Reloading writes nothing at all. -/
theorem atomic_reload (env : Surroundings) (store : Store) : Atomic store (reload env store) := by
  rcases reload_cases env store with ⟨error, heq⟩ | heq
  · exact heq ▸ atomic_fail error store
  · exact heq ▸ fun hfailed => Bool.noConfusion hfailed

end Plan

/-! ### Calls -/

namespace Engine

variable {α : Type} {env : Surroundings} {engine after : Engine}

/-- Two engines have the same table and the same file, the same index with all its counts, and are running
or not alike. -/
structure Unchanged (before after : Engine) : Prop where
  store : before.store.Untouched after.store
  index : after.index = before.index
  running : after.running = before.running

/-- What fails and would change nothing then has changed nothing. -/
theorem unchanged_of_perform {plan : Plan α} (h : Plan.Atomic engine.store plan)
    (hfailed : plan.result.isOk = false) (hstore : after.store = (engine.perform plan).2.store)
    (hindex : after.index = (engine.perform plan).2.index)
    (hrunning : after.running = (engine.perform plan).2.running) : engine.Unchanged after := by
  obtain ⟨hedits, huntouched⟩ := h hfailed
  have hperformed : (engine.perform plan).2 = { engine with store := plan.store } := by
    simp [perform, hedits]
  rw [hperformed] at hstore hindex hrunning
  exact ⟨hstore ▸ huntouched, hindex, hrunning⟩

/-- What needs a running engine changes nothing if it is refused. -/
theorem atomic_ifRunning {plan : Store → Plan α} (h : Plan.Atomic engine.store (plan engine.store)) :
    Plan.Atomic engine.store (engine.ifRunning plan) := by
  rcases engine.ifRunning_cases plan with heq | heq
  · exact heq ▸ Plan.atomic_fail _ engine.store
  · exact heq ▸ h

/-- **A call that fails changes nothing**, in whatever state the engine is and whatever goes wrong. -/
theorem unchanged_of_failed (env : Surroundings) (engine : Engine) (call : Call)
    (hcut : env.BeforeRename) (hcall : ∀ rules, call ≠ .createBatch rules)
    (hfailed : (engine.call env call).1 = false) : engine.Unchanged (engine.call env call).2 := by
  cases call with
  | start =>
      have hresult : (withSize (engine.perform (Plan.reload env engine.store))).1.isOk = false := hfailed
      have hstart : (engine.start env).2 = (engine.perform (Plan.reload env engine.store)).2 :=
        if_neg (by simp [hresult])
      have hreload := Plan.atomic_reload env engine.store
      exact unchanged_of_perform hreload ((isOk_withSize _).symm.trans hresult)
        (congrArg Engine.store hstart) (congrArg Engine.index hstart) (congrArg Engine.running hstart)
  | stop => exact Bool.noConfusion hfailed
  | create rule =>
      exact unchanged_of_perform (atomic_ifRunning (Plan.atomic_create hcut rule)) hfailed rfl rfl rfl
  | createBatch rules => exact absurd rfl (hcall rules)
  | update id changes =>
      exact unchanged_of_perform (atomic_ifRunning (Plan.atomic_update hcut id changes)) hfailed rfl rfl rfl
  | delete id =>
      exact unchanged_of_perform (atomic_ifRunning (Plan.atomic_delete hcut id)) hfailed rfl rfl rfl
  | toggle id =>
      exact unchanged_of_perform (atomic_ifRunning (Plan.atomic_toggle hcut id)) hfailed rfl rfl rfl
  | reload =>
      have hreload : Plan.Atomic engine.store (engine.ifRunning (Plan.reload env)) :=
        atomic_ifRunning (Plan.atomic_reload env engine.store)
      exact unchanged_of_perform hreload ((isOk_withSize _).symm.trans hfailed) rfl rfl rfl

/-- Surroundings in which each text is cut off after three characters. -/
def cutting : Surroundings where
  condition := fun _ => { cut := some { completed := 2, written := 3 } }
  clock := fun _ => default
  freshKey := fun _ => "key"

/-- A running engine that serves a rule which its store, with a file, does not hold. -/
def detached : Engine where
  store := { disk := some { target := some "[]" } }
  index := Index.add (Rule.new "served" "GET" "/served") {}
  running := true

/-- A rule that cannot be written to the file of this engine. -/
theorem unchanged_of_failed_cutting :
    cutting.BeforeRename ∧ (detached.call cutting (.create (Rule.new "new" "GET" "/new"))).1 = false ∧
      detached.Unchanged (detached.call cutting (.create (Rule.new "new" "GET" "/new"))).2 := by
  have hcut : cutting.BeforeRename := by
    rintro i _ ⟨⟩
    exact show 2 < 5 by decide
  exact ⟨hcut, rfl, unchanged_of_failed cutting detached _ hcut nofun rfl⟩

end Engine

end StubServer
