import StubServer.Proofs.Engine.Identity
import StubServer.Proofs.Engine.Takeover

/-!
# What the errors promise

The error of a call says what became of it. If a rule was rejected, nothing was changed, and if the store
failed, the index was not touched. Creating several rules is the one call that may break this promise: its
error comes from one of the rules, and what was created before that rule stays.

## Main statements

* `Plan.Honest`: an operation that does what its error says; the operations are `Plan.honest_create`,
  `Plan.honest_update`, `Plan.honest_delete`, `Plan.honest_toggle` and `Plan.honest_reload`.
* `Engine.keepsPromise_of_ne_createBatch`: the calls that always keep the promise.
* `Engine.keepsPromise_iff`: exactly when creating several rules keeps it.
-/

namespace StubServer

/-- Whether an error says that a rule was rejected. -/
def EngineError.isRejection : EngineError → Bool
  | invalid _ | keyTaken _ => true
  | notFound _ | store _ | notRunning => false

/-! ### Operations -/

namespace Plan

variable {α β : Type}

/-- An operation that fails does not want the index changed, and if a rule was rejected it has not written
anything. -/
def Honest (store : Store) (plan : Plan α) : Prop :=
  ∀ error, plan.result = .error error →
    plan.edits = [] ∧ (error.isRejection = true → plan.store = store)

/-- A failure changes nothing. -/
theorem honest_fail (error : EngineError) (store : Store) : Honest store (fail error store : Plan α) :=
  fun _ _ => ⟨rfl, fun _ => rfl⟩

/-- What ends with a write is rejected by nobody after it. -/
theorem honest_endingWith (write : Except StoreError β × Store) (finish : β → α)
    (edits : β → List Index.Edit) (store : Store) : Honest store (endingWith write finish edits) := by
  obtain ⟨result, after⟩ := write
  cases result with
  | ok v => rintro error ⟨⟩
  | error e =>
      rintro error ⟨⟩
      exact ⟨rfl, nofun⟩

/-- Creating a rule is honest. -/
theorem honest_create (env : Surroundings) (rule : Rule) (store : Store) :
    Honest store (create env rule store) := by
  rw [create]
  rcases withAll_cases (env.condition 0) store fun known => createOne env 0 known rule store with
    ⟨error, heq⟩ | heq
  · exact heq ▸ honest_fail error store
  · rw [heq]
    rcases createOne_ends env 0 store.table.all rule store with ⟨error, heq⟩ | ⟨-, -, heq⟩
    · exact heq ▸ honest_fail error store
    · exact heq ▸ honest_endingWith _ _ _ store

/-- Updating is honest. -/
theorem honest_update (env : Surroundings) (id : Int) (changes : Rule) (store : Store) :
    Honest store (update env id changes store) := by
  rcases update_ends env id changes store with ⟨error, heq⟩ | ⟨existing, -, -, heq⟩
  · exact heq ▸ honest_fail error store
  · exact heq ▸ honest_endingWith _ _ _ store

/-- Deleting is honest. -/
theorem honest_delete (env : Surroundings) (id : Int) (store : Store) :
    Honest store (delete env id store) := by
  rcases delete_ends env id store with ⟨error, heq⟩ | ⟨existing, -, heq⟩
  · exact heq ▸ honest_fail error store
  · exact heq ▸ honest_endingWith _ _ _ store

/-- Toggling is honest. -/
theorem honest_toggle (env : Surroundings) (id : Int) (store : Store) :
    Honest store (toggle env id store) := by
  rcases toggle_ends env id store with ⟨error, heq⟩ | ⟨existing, -, heq⟩
  · exact heq ▸ honest_fail error store
  · exact heq ▸ honest_endingWith _ _ _ store

/-- Reloading is honest. -/
theorem honest_reload (env : Surroundings) (store : Store) : Honest store (reload env store) := by
  rcases reload_cases env store with ⟨error, heq⟩ | heq
  · exact heq ▸ honest_fail error store
  · rw [heq]
    rintro error ⟨⟩

/-! #### Creating several rules -/

/-- Nothing is drawn for rules that bring keys. -/
theorem drawsFreshEach_of_keyed (env : Surroundings) (i : Nat) (known : List Rule) {rules : List Rule}
    (h : ∀ rule ∈ rules, rule.externalKey ≠ none) : DrawsFreshEach env i known rules := by
  induction rules generalizing i known with
  | nil => trivial
  | cons rule rest ih =>
      obtain ⟨hrule, hrest⟩ := List.forall_mem_cons.mp h
      rw [DrawsFreshEach]
      split
      · exact ih (i + 1) known hrest
      · exact ⟨fun hnone => absurd hnone hrule, fun id => ih (i + 1) _ hrest⟩

variable {known brought created : List Rule} {table after : Table} {rule : Rule}

/-- If nothing is created, the table is the one from before. -/
theorem Creates.table_eq (h : Creates known brought table created after) (hcreated : created = []) :
    after = table := by
  induction h with
  | stop => rfl
  | skip _ ih => exact ih hcreated
  | create => cases hcreated

/-- What is created was not known before, since its key is new. -/
theorem Creates.notMem (h : Creates known brought table created after) :
    ∀ rule ∈ created, rule ∉ known := by
  induction h with
  | stop => simp
  | skip _ ih => exact ih
  | create hvalid hnew hsave _ ih =>
      obtain ⟨id, rfl, -⟩ := Table.rows_of_save hsave
      refine List.forall_mem_cons.mpr ⟨fun hknown => ?_, fun rule hrule hknown => ?_⟩
      · exact Bool.false_ne_true (hnew.symm.trans (List.any_eq_true.mpr ⟨_, hknown, by simp [prepared]⟩))
      · exact ih rule hrule (List.mem_append_left _ hknown)

end Plan

namespace Index

/-- Adding rules publishes nothing exactly if none of them is enabled. -/
theorem published_map_add_eq_nil_iff (index : Index) (rules : List Rule) :
    index.published (rules.map .add) = [] ↔ ∀ rule ∈ rules, rule.enabled = false := by
  induction rules generalizing index with
  | nil => simp [published]
  | cons rule rest ih =>
      rw [List.map_cons, published, List.append_eq_nil_iff, ih, List.forall_mem_cons]
      refine and_congr_left fun _ => ?_
      cases henabled : rule.enabled <;> simp [publishes, henabled]

/-- Changes that leave the index as it is publish nothing. -/
theorem published_eq_nil_iff {index : Index} {edits : List Edit} :
    index.published edits = [] ↔ edits.foldl apply index = index := by
  refine ⟨foldl_apply_of_published_eq_nil, fun heq => ?_⟩
  have hgeneration := index.generation_foldl_apply edits
  rw [heq] at hgeneration
  exact List.eq_nil_of_length_eq_zero (by omega)

end Index

/-! ### Calls -/

namespace Engine

variable {α : Type} {engine : Engine} {env : Surroundings} {call : Call}

/-- The error that a result holds. -/
def errorOf? : Except EngineError α → Option EngineError
  | .error e => some e
  | .ok _ => none

/-- The error with which a call fails. -/
def failure? (env : Surroundings) (engine : Engine) : Call → Option EngineError
  | .start => errorOf? (engine.start env).1
  | .stop => none
  | .create rule => errorOf? (engine.create env rule).1
  | .createBatch rules => errorOf? (engine.createBatch env rules).1
  | .update id changes => errorOf? (engine.update env id changes).1
  | .delete id => errorOf? (engine.delete env id).1
  | .toggle id => errorOf? (engine.toggle env id).1
  | .reload => errorOf? (engine.reload env).1

/-- What the error of a call says is so. -/
structure KeepsPromise (engine : Engine) (env : Surroundings) (call : Call) : Prop where
  /-- If a rule was rejected, the stored rules and the snapshot of the index are as before. -/
  rejected : ∀ error, engine.failure? env call = some error → error.isRejection = true →
    (engine.call env call).2.store.table.all = engine.store.table.all ∧
      (engine.call env call).2.index.snapshot = engine.index.snapshot
  /-- If the store failed, the index was not touched. -/
  unstored : ∀ cause, engine.failure? env call = some (.store cause) →
    (engine.call env call).2.index = engine.index

/-- The error in a result is what it fails with. -/
theorem eq_of_errorOf? {result : Except EngineError α} {error : EngineError}
    (h : errorOf? result = some error) : result = .error error := by
  cases result with
  | ok v => cases h
  | error e => exact congrArg Except.error (Option.some.inj h)

/-- Giving the number of served rules does not change the error. -/
theorem errorOf?_withSize (done : Except EngineError Unit × Engine) :
    errorOf? (withSize done).1 = errorOf? done.1 := by
  obtain ⟨result, engine⟩ := done
  cases result <;> rfl

/-- A call that comes to something honest keeps the promise. -/
theorem keepsPromise_of_honest {plan : Plan α} (h : Plan.Honest engine.store plan)
    (hfailure : engine.failure? env call = errorOf? plan.result)
    (hstore : (engine.call env call).2.store = (engine.perform plan).2.store)
    (hedits : engine.edits env call = plan.edits) : engine.KeepsPromise env call := by
  rw [store_perform] at hstore
  have hindex := engine.index_call env call
  rw [hedits] at hindex
  refine ⟨fun error herror hrejection => ?_, fun cause herror => ?_⟩
  · obtain ⟨hnone, hkept⟩ := h error (eq_of_errorOf? (hfailure.symm.trans herror))
    rw [hstore, hkept hrejection, hindex, hnone]
    exact ⟨rfl, rfl⟩
  · obtain ⟨hnone, -⟩ := h _ (eq_of_errorOf? (hfailure.symm.trans herror))
    rw [hindex, hnone]
    rfl

/-- What needs a running engine is honest if it is so once it is gone on with. -/
theorem honest_ifRunning {plan : Store → Plan α} (h : Plan.Honest engine.store (plan engine.store)) :
    Plan.Honest engine.store (engine.ifRunning plan) := by
  rcases engine.ifRunning_cases plan with heq | heq
  · exact heq ▸ Plan.honest_fail _ engine.store
  · exact heq ▸ h

/-- **Every call but that which creates several rules** keeps the promise. -/
theorem keepsPromise_of_ne_createBatch (engine : Engine) (env : Surroundings) (call : Call)
    (hcall : ∀ rules, call ≠ .createBatch rules) : engine.KeepsPromise env call := by
  cases call with
  | start =>
      have hstore : (engine.start env).2.store = (engine.perform (Plan.reload env engine.store)).2.store :=
        (apply_ite Engine.store _ _ _).trans (ite_self _)
      exact keepsPromise_of_honest (Plan.honest_reload env engine.store) (errorOf?_withSize _) hstore rfl
  | stop =>
      constructor
      · rintro error ⟨⟩
      · rintro cause ⟨⟩
  | create rule =>
      exact keepsPromise_of_honest (honest_ifRunning (Plan.honest_create env rule engine.store)) rfl rfl rfl
  | createBatch rules => exact absurd rfl (hcall rules)
  | update id changes =>
      exact keepsPromise_of_honest (honest_ifRunning (Plan.honest_update env id changes engine.store))
        rfl rfl rfl
  | delete id =>
      exact keepsPromise_of_honest (honest_ifRunning (Plan.honest_delete env id engine.store)) rfl rfl rfl
  | toggle id =>
      exact keepsPromise_of_honest (honest_ifRunning (Plan.honest_toggle env id engine.store)) rfl rfl rfl
  | reload =>
      have hreload : Plan.Honest engine.store (engine.ifRunning (Plan.reload env)) :=
        honest_ifRunning (Plan.honest_reload env engine.store)
      exact keepsPromise_of_honest hreload (errorOf?_withSize _) rfl rfl

/-! ### Creating several rules -/

/-- What is created when several rules are to be created. -/
theorem createBatch_creates (env : Surroundings) (rules : List Rule)
    (hfresh : Plan.DrawsFreshEach env 0 engine.store.table.all rules) :
    Plan.Creates engine.store.table.all rules engine.store.table (engine.created env (.createBatch rules))
      (engine.createBatch env rules).2.store.table := by
  have hcall : ∃ created, Plan.Creates engine.store.table.all rules engine.store.table created
        (engine.createBatch env rules).2.store.table ∧
      engine.edits env (.createBatch rules) = created.map .add := by
    refine engine.call_induction (P := fun store edits =>
      ∃ created, Plan.Creates engine.store.table.all rules engine.store.table created store.table ∧
        edits = created.map Index.Edit.add) env (.createBatch rules) ⟨[], .stop, rfl⟩ ?_ ?_ ?_ ?_ ?_ ?_
    · rintro ⟨⟩
    · rintro _ ⟨⟩
    · rintro _ ⟨⟩
      exact Plan.createBatch_creates env rules engine.store hfresh
    · rintro _ _ ⟨⟩
    · rintro _ ⟨⟩
    · rintro _ ⟨⟩
  obtain ⟨created, hcreates, hedits⟩ := hcall
  rw [created_eq rfl hedits]
  exact hcreates

/-- **The promise is kept** by every call that creates a single rule or none. One that creates several rules
keeps it exactly if nothing was created before a rule was rejected, and nothing enabled before the store
failed. -/
theorem keepsPromise_iff (env : Surroundings) (call : Call) (hwf : engine.store.table.WellFormed)
    (hfresh : call.DrawsFresh env engine.store.table)
    (hlength : call.brought.length ≤ 18446744073709551616) :
    engine.KeepsPromise env call ↔ ∀ rules, call = .createBatch rules →
      (∀ error, engine.failure? env call = some error → error.isRejection = true →
        engine.created env call = []) ∧
      ∀ cause, engine.failure? env call = some (.store cause) →
        ∀ rule ∈ engine.created env call, rule.enabled = false := by
  by_cases hcall : ∀ rules, call ≠ .createBatch rules
  · exact iff_of_true (engine.keepsPromise_of_ne_createBatch env call hcall)
      fun rules heq => absurd heq (hcall rules)
  obtain ⟨rules, hcall⟩ := not_forall.mp hcall
  obtain rfl := not_not.mp hcall
  have hcreates := createBatch_creates env rules hfresh
  have hindex : (engine.call env (.createBatch rules)).2.index = _ := index_of_creates engine env rfl
  constructor
  · rintro h _ ⟨⟩
    refine ⟨fun error herror hrejection => ?_, fun cause herror => ?_⟩
    · -- What was created is stored now, but was not known before.
      obtain ⟨hkept, -⟩ := h.rejected error herror hrejection
      refine List.eq_nil_iff_forall_not_mem.mpr fun rule hrule => ?_
      exact hcreates.notMem rule hrule (hkept ▸ hcreates.created_subset hwf hlength hrule)
    · rw [← Index.published_map_add_eq_nil_iff engine.index, Index.published_eq_nil_iff, ← hindex]
      exact h.unstored cause herror
  · intro h
    obtain ⟨hrejected, hunstored⟩ := h rules rfl
    refine ⟨fun error herror hrejection => ?_, fun cause herror => ?_⟩
    · have hnone := hrejected error herror hrejection
      have htable : (engine.call env (.createBatch rules)).2.store.table = engine.store.table :=
        hcreates.table_eq hnone
      rw [htable, hindex, hnone]
      exact ⟨rfl, rfl⟩
    · rw [hindex, ← Index.published_eq_nil_iff, Index.published_map_add_eq_nil_iff]
      exact hunstored cause herror

/-- The empty engine, started. -/
def startedEmpty : Engine :=
  ((fresh {} none []).start calm).2

/-- Two rules for different requests that bring the same key. -/
def sharing : List Rule :=
  [greeting none "shared", bringing "shared"]

/-- For these rules nothing is drawn. -/
theorem drawsFresh_sharing (env : Surroundings) (table : Table) :
    (Call.createBatch sharing).DrawsFresh env table :=
  Plan.drawsFreshEach_of_keyed env 0 table.all (by decide)

/-- The second of these rules is rejected where the first is stored already, and nothing else was done. -/
theorem keepsPromise_iff_stored :
    let engine := (startedEmpty.create calm (greeting none "shared")).2
    let call := Call.createBatch sharing
    (engine.store.table.WellFormed ∧ call.DrawsFresh calm engine.store.table ∧
      call.brought.length ≤ 18446744073709551616) ∧
      engine.failure? calm call = some (.keyTaken "shared") ∧ engine.KeepsPromise calm call := by
  intro engine call
  have hwf : engine.store.table.WellFormed := wellFormed_after Table.wellFormed_empty
    [⟨calm, .start⟩, ⟨calm, .create (greeting none "shared")⟩]
  have hlength : call.brought.length ≤ 18446744073709551616 := Nat.le_of_ble_eq_true rfl
  have hfailure : engine.failure? calm call = some (.keyTaken "shared") := rfl
  have hcreated : engine.created calm call = [] := rfl
  refine ⟨⟨hwf, drawsFresh_sharing calm _, hlength⟩, hfailure,
    (keepsPromise_iff calm call hwf (drawsFresh_sharing calm _) hlength).mpr fun _ _ => ?_⟩
  rw [hcreated]
  exact ⟨fun _ _ _ => rfl, fun _ _ => by simp⟩

/-- **Not every call keeps the promise.** When the second rule is rejected because the first has its key, the
first is stored and served. -/
theorem not_forall_keepsPromise :
    ¬ ∀ (engine : Engine) (env : Surroundings) (call : Call), engine.store.table.WellFormed →
      call.DrawsFresh env engine.store.table → engine.KeepsPromise env call := by
  intro hall
  have h := hall startedEmpty calm (.createBatch sharing) Table.wellFormed_empty (drawsFresh_sharing calm _)
  have hfailure : startedEmpty.failure? calm (.createBatch sharing) = some (.keyTaken "shared") := rfl
  obtain ⟨hkept, -⟩ := h.rejected _ hfailure rfl
  have hlength := congrArg List.length hkept
  have hstored : (startedEmpty.call calm (.createBatch sharing)).2.store.table.all.length = 1 := rfl
  exact absurd (hstored.symm.trans hlength) Nat.one_ne_zero

end Engine

end StubServer
