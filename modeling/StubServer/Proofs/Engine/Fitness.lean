import StubServer.Proofs.Engine.Identity

/-!
# Stored and served rules are fit

From an empty store on, all rules that are stored or served are valid and have keys of their own, whatever a run
does and whatever fails. Nothing is assumed of the keys that are drawn, nor of the numbers, so this also holds
where store and index no longer agree.

## Main statements

* `FitChange`: what an operation keeps; the operations are `Plan.has_fitChange_create`,
  `Plan.has_fitChange_createBatch`, `Plan.has_fitChange_update`, `Plan.has_fitChange_toggle` and
  `Plan.has_fitChange_delete`.
* `Engine.Fit.call`, `Engine.Fit.after`: every call and every run keeps an engine fit.
-/

namespace StubServer

/-! ### Fit rules -/

/-- A rule is fit if it is valid and has a key of its own. -/
structure Rule.Fit (rule : Rule) : Prop where
  valid : rule.validate = .ok ()
  keyed : rule.externalKey ≠ none

namespace Index

/-- The rules that a change brings. -/
def Edit.rules : Edit → List Rule
  | .add rule => [rule]
  | .remove _ => []
  | .reload rules => rules

variable {P : Rule → Prop} {served rules : List Rule} {edits : List Edit}

/-- What holds of served rules and of others holds after these are enlisted. -/
theorem forall_foldl_enlist (hserved : ∀ rule ∈ served, P rule) (hrules : ∀ rule ∈ rules, P rule) :
    ∀ rule ∈ rules.foldl enlist served, P rule := by
  induction rules generalizing served with
  | nil => exact hserved
  | cons rule rest ih =>
      obtain ⟨hrule, hrest⟩ := List.forall_mem_cons.mp hrules
      refine ih (fun other hother => ?_) hrest
      rw [enlist] at hother
      split at hother
      · rcases List.mem_append.mp hother with hother | hother
        · exact hserved other (List.mem_filter.mp hother).1
        · exact List.mem_singleton.mp hother ▸ hrule
      · exact hserved other hother

/-- **What holds of served rules** and of those that changes bring holds of the served rules after these. -/
theorem forall_foldl_serving (hserved : ∀ rule ∈ served, P rule)
    (hedits : ∀ edit ∈ edits, ∀ rule ∈ edit.rules, P rule) :
    ∀ rule ∈ edits.foldl serving served, P rule := by
  induction edits generalizing served with
  | nil => exact hserved
  | cons edit rest ih =>
      obtain ⟨hedit, hrest⟩ := List.forall_mem_cons.mp hedits
      refine ih ?_ hrest
      cases edit with
      | add rule => exact forall_foldl_enlist hserved hedit
      | remove key => exact fun other hother => hserved other (List.mem_filter.mp hother).1
      | reload rules => exact forall_foldl_enlist (by simp) hedit

end Index

/-! ### Operations -/

open Index (Edit)

/-- The stored rules are fit, and so are those that are brought to the index. -/
structure FitChange (store : Store) (edits : List Edit) : Prop where
  stored : ∀ rule ∈ store.table.all, rule.Fit
  brought : ∀ edit ∈ edits, ∀ rule ∈ edit.rules, rule.Fit

namespace Plan

variable {store : Store} {rule saved : Rule}

/-- What fails and leaves the table alone leaves the rules fit. -/
theorem has_fitChange_fail {α : Type} {error : EngineError} {after : Store}
    (h : ∀ rule ∈ store.table.all, rule.Fit) (htable : after.table = store.table) :
    (fail error after : Plan α).Has FitChange :=
  ⟨htable ▸ h, by simp [fail]⟩

/-- Saving a fit rule leaves the rules fit. -/
theorem fit_of_save {table after : Table} (h : ∀ rule ∈ table.all, rule.Fit) (hwf : table.WellFormed)
    (hrule : rule.Fit) (hsave : table.save rule = .ok (saved, after)) :
    saved.Fit ∧ ∀ other ∈ after.all, other.Fit := by
  obtain ⟨id, rfl, hperm⟩ := hwf.all_save_perm hsave
  have hsaved : { rule with id := some id }.Fit := ⟨hrule.valid, hrule.keyed⟩
  refine ⟨hsaved, fun other hother => ?_⟩
  rcases List.mem_cons.mp (hperm.mem_iff.mp hother) with rfl | hother
  · exact hsaved
  · exact h other (List.mem_filter.mp hother).1

/-- A rule that is created is fit if it is valid. -/
theorem fit_prepared (hvalid : rule.validate = .ok ()) (freshKey : String) (now : Timestamp) :
    (prepared rule freshKey now).Fit :=
  ⟨hvalid, Option.some_ne_none _⟩

/-- Creating a rule leaves the rules fit. -/
theorem has_fitChange_create (h : ∀ rule ∈ store.table.all, rule.Fit) (hwf : store.table.WellFormed)
    (env : Surroundings) (rule : Rule) : (create env rule store).Has FitChange := by
  rcases create_cases env rule store with ⟨error, after, heq, htable⟩ | ⟨saved, after, hvalid, -, hsave, heq⟩
  · exact heq ▸ has_fitChange_fail h htable
  · rw [heq]
    obtain ⟨hsaved, hafter⟩ := fit_of_save h hwf (fit_prepared hvalid _ _) hsave
    exact ⟨hafter, by simpa [Edit.rules] using hsaved⟩

/-- Creating rules one after the other leaves the rules fit. -/
theorem has_fitChange_createEach (h : ∀ rule ∈ store.table.all, rule.Fit) (hwf : store.table.WellFormed)
    (env : Surroundings) (i : Nat) (known rules : List Rule) :
    (createEach env i known rules store).Has FitChange := by
  induction rules generalizing i known store with
  | nil => exact ⟨h, by simp [createEach]⟩
  | cons rule rest ih =>
      rw [createEach]
      split
      · exact ih h hwf (i + 1) known
      · rcases createOne_cases env i known rule store with
          ⟨error, after, heq, htable⟩ | ⟨saved, after, hvalid, -, hsave, heq⟩
        · simp only [heq, fail]
          exact has_fitChange_fail h htable
        · obtain ⟨hsaved, hafter⟩ := fit_of_save h hwf (fit_prepared hvalid _ _) hsave
          obtain ⟨hstored, hbrought⟩ := ih hafter (hwf.save hsave) (i + 1) (known ++ [saved])
          simp only [heq]
          refine ⟨hstored, List.forall_mem_append.mpr ⟨?_, hbrought⟩⟩
          simpa [Edit.rules] using hsaved

/-- Creating several rules leaves the rules fit. -/
theorem has_fitChange_createBatch (h : ∀ rule ∈ store.table.all, rule.Fit) (hwf : store.table.WellFormed)
    (env : Surroundings) (rules : List Rule) : (createBatch env rules store).Has FitChange := by
  rw [createBatch]
  rcases withAll_cases (env.condition 0) store fun known => createEach env 0 known rules store with
    ⟨error, heq⟩ | heq
  · exact heq ▸ has_fitChange_fail h rfl
  · exact heq ▸ has_fitChange_createEach h hwf env 0 store.table.all rules

/-- Updating leaves the rules fit. -/
theorem has_fitChange_update (h : ∀ rule ∈ store.table.all, rule.Fit) (hwf : store.table.WellFormed)
    (env : Surroundings) (id : Int) (changes : Rule) : (update env id changes store).Has FitChange := by
  rcases update_cases env id changes store with
    ⟨error, after, heq, htable⟩ | ⟨existing, saved, after, hfind, hvalid, hsave, heq⟩
  · exact heq ▸ has_fitChange_fail h htable
  · rw [heq]
    have hexisting := h existing (hwf.find?_eq_some_iff.mp hfind).1
    have hrevised : (revised existing changes (env.clock 0)).Fit := ⟨hvalid, hexisting.keyed⟩
    obtain ⟨hsaved, hafter⟩ := fit_of_save h hwf hrevised hsave
    refine ⟨hafter, List.forall_mem_append.mpr ⟨?_, by simpa [Edit.rules] using hsaved⟩⟩
    split <;> simp [Edit.rules]

/-- Toggling leaves the rules fit. -/
theorem has_fitChange_toggle (h : ∀ rule ∈ store.table.all, rule.Fit) (hwf : store.table.WellFormed)
    (env : Surroundings) (id : Int) : (toggle env id store).Has FitChange := by
  rcases toggle_cases env id store with
    ⟨error, after, heq, htable⟩ | ⟨existing, saved, after, hfind, hsave, heq⟩
  · exact heq ▸ has_fitChange_fail h htable
  · rw [heq]
    have hexisting := h existing (hwf.find?_eq_some_iff.mp hfind).1
    have htoggled : (toggled existing (env.clock 0)).Fit := ⟨hexisting.valid, hexisting.keyed⟩
    obtain ⟨hsaved, hafter⟩ := fit_of_save h hwf htoggled hsave
    refine ⟨hafter, List.forall_mem_singleton.mpr ?_⟩
    split
    · exact List.forall_mem_singleton.mpr hsaved
    · exact List.forall_mem_nil _

/-- Deleting leaves the rules fit. -/
theorem has_fitChange_delete (h : ∀ rule ∈ store.table.all, rule.Fit) (hwf : store.table.WellFormed)
    (env : Surroundings) (id : Int) : (delete env id store).Has FitChange := by
  rcases delete_cases env id store with
    ⟨error, after, heq, htable⟩ | ⟨existing, after, -, htable, heq⟩
  · exact heq ▸ has_fitChange_fail h htable
  · rw [heq]
    refine ⟨fun other hother => ?_, by simp [Edit.rules]⟩
    rw [htable, hwf.all_delete] at hother
    exact h other (List.mem_filter.mp hother).1

end Plan

/-! ### Calls -/

namespace Engine

variable {engine : Engine}

/-- Stored and served rules are fit. -/
structure Fit (engine : Engine) : Prop where
  wellFormed : engine.store.table.WellFormed
  stored : ∀ rule ∈ engine.store.table.all, rule.Fit
  served : ∃ served, engine.index.Serves served ∧ ∀ rule ∈ served, rule.Fit

/-- The empty engine is fit. -/
theorem fit_fresh (disk : Option Disk) (limit : Option Nat) (uses : List Regex.Cache.Use) :
    (fresh { disk } limit uses).Fit where
  wellFormed := Table.wellFormed_empty
  stored := by simp [fresh, Table.all]
  served := ⟨[], Index.serves_fresh limit uses, by simp⟩

/-- **Every call** keeps the rules fit. -/
theorem Fit.call (h : engine.Fit) (env : Surroundings) (call : Call) : (engine.call env call).2.Fit := by
  have hchange : FitChange (engine.call env call).2.store (engine.edits env call) := by
    refine engine.call_induction env call ⟨h.stored, by simp⟩ (fun _ => ⟨h.stored, ?_⟩) ?_ ?_ ?_ ?_ ?_
    · simpa [Edit.rules] using h.stored
    · exact fun rule _ => Plan.has_fitChange_create h.stored h.wellFormed env rule
    · exact fun rules _ => Plan.has_fitChange_createBatch h.stored h.wellFormed env rules
    · exact fun id changes _ => Plan.has_fitChange_update h.stored h.wellFormed env id changes
    · exact fun id _ => Plan.has_fitChange_delete h.stored h.wellFormed env id
    · exact fun id _ => Plan.has_fitChange_toggle h.stored h.wellFormed env id
  obtain ⟨served, hserves, hserved⟩ := h.served
  have hafter := hserves.foldl_apply (engine.edits env call)
  rw [← index_call] at hafter
  exact ⟨wellFormed_call env call h.wellFormed, hchange.stored, _, hafter,
    Index.forall_foldl_serving hserved hchange.brought⟩

/-- **Every run** keeps the rules fit. -/
theorem Fit.after (h : engine.Fit) (run : List Step) : (engine.after run).Fit := by
  induction run generalizing engine with
  | nil => exact h
  | cons step rest ih => exact ih (h.call step.env step.call)

end Engine

end StubServer
