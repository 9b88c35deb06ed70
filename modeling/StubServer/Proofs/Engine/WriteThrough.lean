import StubServer.Proofs.Engine.Failure
import StubServer.Proofs.Engine.Publication
import StubServer.Proofs.Store.WriteThrough

/-!
# The engine writes through

The calls of an engine change its store by the writing calls of the store alone, and what they give to these can
be written. So a store that has its rules in its file has them there after every run of calls, whatever fails of
it.

## Main statements

* `Engine.Step.Recordable`: what is assumed of a call.
* `Engine.call_writes`: the writes that a call comes to.
* `Engine.writtenThrough_after`: after every run of such calls the rules are in the file.
-/

namespace StubServer

/-- The priority of a rule fits into 32 bits. -/
def Rule.InPriorities (rule : Rule) : Prop :=
  -2147483648 ≤ rule.priority ∧ rule.priority ≤ 2147483647

/-- The clock shows times of the calendar only. -/
def Surroundings.OnTime (env : Surroundings) : Prop :=
  ∀ i, (env.clock i).Valid

/-- The clock of calm surroundings stands still at a time of the calendar. -/
theorem Engine.onTime_calm : Engine.calm.OnTime := by
  intro i
  have hclock : Engine.calm.clock i = ⟨0, 0, 0⟩ := rfl
  rw [hclock]
  exact ⟨rfl, by decide, by decide, by decide⟩

/-- A write meets what an operation meets, and a rule that it saves can be written. -/
def Store.Write.Within (env : Surroundings) : Store.Write → Prop
  | .save condition rule => (∃ i, env.condition i = condition) ∧ rule.Expressible
  | .delete condition _ => ∃ i, env.condition i = condition

/-- What may go wrong with the writes of an operation is what may go wrong with the operation. -/
theorem Store.Write.Within.allowed {env : Surroundings} {write : Store.Write} (h : write.Within env)
    (hcut : env.BeforeRename) : write.Allowed := by
  cases write with
  | save condition rule =>
      obtain ⟨⟨i, rfl⟩, hrule⟩ := h
      exact ⟨hcut i, hrule⟩
  | delete condition id =>
      obtain ⟨i, rfl⟩ := h
      exact hcut i

/-! ### Operations -/

namespace Plan

variable {α β : Type} {env : Surroundings} {store : Store} {rule existing : Rule} {rules known : List Rule}
  {now : Timestamp}

/-- A rule can be written as it is created. -/
theorem expressible_prepared (h : rule.InPriorities) (hnow : now.Valid) (freshKey : String) :
    (prepared rule freshKey now).Expressible := by
  have hreads : ∀ t ∈ some now, t.ReadsBack := by
    rintro _ ⟨⟩
    exact hnow.readsBack
  exact ⟨nofun, h, hreads, hreads⟩

/-- A rule can be written as it is changed. -/
theorem expressible_revised {changes : Rule} (h : existing.Expressible) (hchanges : changes.InPriorities)
    (hnow : now.Valid) : (revised existing changes now).Expressible := by
  refine ⟨h.id, hchanges, h.createdAt, ?_⟩
  rintro _ ⟨⟩
  exact hnow.readsBack

/-- A rule can be written as it is toggled. -/
theorem expressible_toggled (h : existing.Expressible) (hnow : now.Valid) :
    (toggled existing now).Expressible := by
  refine ⟨h.id, h.priority, h.createdAt, ?_⟩
  rintro _ ⟨⟩
  exact hnow.readsBack

/-- The last call of an operation decides about its store. -/
theorem store_endingWith (write : Except StoreError β × Store) (finish : β → α)
    (edits : β → List Index.Edit) : (endingWith write finish edits).store = write.2 := by
  obtain ⟨result, after⟩ := write
  cases result <;> rfl

/-- An operation changes the store by writes alone, and these can be written. -/
def Writes (env : Surroundings) (store : Store) (plan : Plan α) : Prop :=
  ∃ writes : List Store.Write, plan.store = store.run writes ∧ ∀ write ∈ writes, write.Within env

/-- An operation that leaves the store alone needs no writes. -/
theorem writes_of_store_eq {plan : Plan α} (h : plan.store = store) : Writes env store plan :=
  ⟨[], h, List.forall_mem_nil _⟩

/-- An operation that ends with saving a rule. -/
theorem writes_endingWith_save (i : Nat) (hrule : rule.Expressible) (finish : Rule → α)
    (edits : Rule → List Index.Edit) :
    Writes env store (endingWith (store.save (env.condition i) rule) finish edits) := by
  refine ⟨[.save (env.condition i) rule], store_endingWith _ finish edits, ?_⟩
  exact List.forall_mem_singleton.mpr ⟨⟨i, rfl⟩, hrule⟩

/-- Deleting is one write. -/
theorem writes_delete (env : Surroundings) (store : Store) (id : Int) :
    Writes env store (delete env id store) := by
  rcases delete_ends env id store with ⟨error, heq⟩ | ⟨existing, -, heq⟩
  · exact heq ▸ writes_of_store_eq rfl
  · refine heq ▸ ⟨[.delete (env.condition 1) id], store_endingWith _ _ _, ?_⟩
    exact List.forall_mem_singleton.mpr ⟨1, rfl⟩

section Saving

variable (htime : env.OnTime)

include htime

/-- Updating is one write. -/
theorem writes_update (h : store.table.Expressible) (id : Int) {changes : Rule} (hchanges : changes.InPriorities) :
    Writes env store (update env id changes store) := by
  rcases update_ends env id changes store with ⟨error, heq⟩ | ⟨existing, hfind, -, heq⟩
  · exact heq ▸ writes_of_store_eq rfl
  · exact heq ▸ writes_endingWith_save 1 (expressible_revised (h.of_find? hfind) hchanges (htime 0)) _ _

/-- Toggling is one write. -/
theorem writes_toggle (h : store.table.Expressible) (id : Int) : Writes env store (toggle env id store) := by
  rcases toggle_ends env id store with ⟨error, heq⟩ | ⟨existing, hfind, heq⟩
  · exact heq ▸ writes_of_store_eq rfl
  · exact heq ▸ writes_endingWith_save 1 (expressible_toggled (h.of_find? hfind) (htime 0)) _ _

/-- Creating one rule is one write. -/
theorem writes_createOne (i : Nat) (known : List Rule) (hrule : rule.InPriorities) :
    Writes env store (createOne env i known rule store) := by
  rcases createOne_ends env i known rule store with ⟨error, heq⟩ | ⟨-, -, heq⟩
  · exact heq ▸ writes_of_store_eq rfl
  · exact heq ▸ writes_endingWith_save (i + 1) (expressible_prepared hrule (htime i) (env.freshKey i)) _ _

/-- Creating a rule is one write. -/
theorem writes_create (hrule : rule.InPriorities) : Writes env store (create env rule store) := by
  unfold create
  rcases withAll_cases (env.condition 0) store fun known => createOne env 0 known rule store with
    ⟨error, heq⟩ | heq
  · exact heq ▸ writes_of_store_eq rfl
  · exact heq ▸ writes_createOne htime 0 store.table.all hrule

/-- Creating rules one after the other is one write for each that is saved. -/
theorem writes_createEach (i : Nat) (known : List Rule) (hrules : ∀ rule ∈ rules, rule.InPriorities) :
    Writes env store (createEach env i known rules store) := by
  induction rules generalizing i known store with
  | nil => exact writes_of_store_eq rfl
  | cons rule rest ih =>
      obtain ⟨hrule, hrest⟩ := List.forall_mem_cons.mp hrules
      rw [createEach]
      split
      · exact ih (i + 1) known hrest
      · obtain ⟨writes, hstore, hwrites⟩ : Writes env store (createOne env i known rule store) :=
          writes_createOne htime i known hrule
        dsimp only
        split
        · exact ⟨writes, hstore, hwrites⟩
        · rename_i saved _
          obtain ⟨others, hafter, hothers⟩ : Writes env (createOne env i known rule store).store
              (createEach env (i + 1) (known ++ [saved]) rest (createOne env i known rule store).store) :=
            ih (i + 1) (known ++ [saved]) hrest
          refine ⟨writes ++ others, ?_, List.forall_mem_append.mpr ⟨hwrites, hothers⟩⟩
          rw [Store.run_append, ← hstore]
          exact hafter

/-- Creating several rules is one write for each that is saved. -/
theorem writes_createBatch (hrules : ∀ rule ∈ rules, rule.InPriorities) :
    Writes env store (createBatch env rules store) := by
  unfold createBatch
  rcases withAll_cases (env.condition 0) store fun known => createEach env 0 known rules store with
    ⟨error, heq⟩ | heq
  · exact heq ▸ writes_of_store_eq rfl
  · exact heq ▸ writes_createEach htime 0 store.table.all hrules

end Saving

end Plan

/-! ### Calls -/

namespace Engine

variable {engine : Engine} {env : Surroundings} {call : Call} {run : List Step}

/-- The rules that are given to a call. -/
def Call.given : Call → List Rule
  | .create rule => [rule]
  | .createBatch rules => rules
  | .update _ changes => [changes]
  | _ => []

/-- What is written in a call can be read back, and a writing that is cut off is so before the file beside the
file is in its place. -/
structure Step.Recordable (step : Step) : Prop where
  cut : step.env.BeforeRename
  time : step.env.OnTime
  given : ∀ rule ∈ step.call.given, rule.InPriorities

/-- **A call changes the store by writes alone**, and these can be written. -/
theorem call_writes (h : engine.store.table.Expressible) (htime : env.OnTime)
    (hgiven : ∀ rule ∈ call.given, rule.InPriorities) :
    ∃ writes : List Store.Write, (engine.call env call).2.store = engine.store.run writes ∧
      ∀ write ∈ writes, write.Within env := by
  have hkept : ∃ writes : List Store.Write, engine.store = engine.store.run writes ∧
      ∀ write ∈ writes, write.Within env := ⟨[], rfl, List.forall_mem_nil _⟩
  refine call_induction (P := fun store _ => ∃ writes : List Store.Write, store = engine.store.run writes ∧
    ∀ write ∈ writes, write.Within env) engine env call hkept (fun _ => hkept) ?_ ?_ ?_ ?_ ?_
  · rintro rule rfl
    exact Plan.writes_create htime (hgiven rule (List.mem_singleton_self rule))
  · rintro rules rfl
    exact Plan.writes_createBatch htime hgiven
  · rintro id changes rfl
    exact Plan.writes_update htime h id (hgiven changes (List.mem_singleton_self changes))
  · exact fun id _ => Plan.writes_delete env engine.store id
  · exact fun id _ => Plan.writes_toggle htime h id

/-- **Every call** keeps the rules of the store in its file. -/
theorem writtenThrough_call (h : engine.store.WrittenThrough) (hstep : (Step.mk env call).Recordable) :
    (engine.call env call).2.store.WrittenThrough := by
  obtain ⟨hcut, htime, hgiven⟩ := hstep
  obtain ⟨writes, hstore, hwrites⟩ := call_writes h.expressible htime hgiven
  exact hstore ▸ h.run fun write hwrite => (hwrites write hwrite).allowed hcut

/-- **Every run of calls**, whatever fails of it, keeps the rules of the store in its file. -/
theorem writtenThrough_after (h : engine.store.WrittenThrough) (hrun : ∀ step ∈ run, step.Recordable) :
    (engine.after run).store.WrittenThrough := by
  induction run generalizing engine with
  | nil => exact h
  | cons step rest ih =>
      obtain ⟨hstep, hrest⟩ := List.forall_mem_cons.mp hrun
      exact ih (writtenThrough_call h hstep) hrest

end Engine

end StubServer
