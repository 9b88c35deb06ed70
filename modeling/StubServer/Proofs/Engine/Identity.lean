import StubServer.Proofs.Engine.Activation
import StubServer.Proofs.Engine.Publication
import StubServer.Proofs.Except
import StubServer.Proofs.Store.Numbering

/-!
# What identifies a rule stays

As long as a rule stays stored, its number, its own key and the time of its creation stay, and so the key that
it is served under, whatever is done to it and whatever the payloads of these calls bring. What is created gets
a number that no stored rule has, and both its times from the clock.

This holds until the numbers, which begin again after the greatest one, reach a number that is in use
(`Engine.Recycles`): the rule there is gone, and another one is stored under its number.

## Main statements

* `Table.Receives`: new rules that enter a table, with what becomes of the other rules.
* `Engine.call_receives`, `Engine.call_keepsIdentities`: what calls that create rules do to the table, and what
  the others do.
* `Engine.call_anonymous`: numbers and times that are brought do not matter, nor does the key of an update.
* `Engine.exists_version_after`: what is stored under a number that stays in use are versions of one rule.
* `Engine.keepsIdentities_iff`: identities stay in a run exactly if no call of it recycles a number.
-/

namespace StubServer

open Index (Edit)

/-- Two versions of one rule: number, own key, time of creation and key agree. -/
structure Rule.SameIdentity (a b : Rule) : Prop where
  id : a.id = b.id
  externalKey : a.externalKey = b.externalKey
  createdAt : a.createdAt = b.createdAt
  key : a.key = b.key

/-- A rule is a version of itself. -/
theorem Rule.SameIdentity.refl (rule : Rule) : rule.SameIdentity rule :=
  ⟨rfl, rfl, rfl, rfl⟩

/-- Versions of versions are versions. -/
theorem Rule.SameIdentity.trans {a b c : Rule} (hab : a.SameIdentity b) (hbc : b.SameIdentity c) :
    a.SameIdentity c :=
  ⟨hab.id.trans hbc.id, hab.externalKey.trans hbc.externalKey, hab.createdAt.trans hbc.createdAt,
    hab.key.trans hbc.key⟩

/-- A rule without what is given to it anew when it is created. -/
def Rule.anonymous (rule : Rule) : Rule :=
  { rule with id := none, createdAt := none, updatedAt := none }

/-! ### Tables -/

namespace Table

/-- What is stored under a number before and after is one rule in two versions. -/
def KeepsIdentities (table after : Table) : Prop :=
  ∀ id a b, table.find? id = some a → after.find? id = some b → b.SameIdentity a

/-- Rules without numbers enter a table one after the other, each with one reading of the clock for both of its
times: which rules get stored, and the table in the end. -/
inductive Receives (clock : Nat → Timestamp) : Table → (created : List Rule) → Table → Prop
  | nil {table : Table} : Receives clock table [] table
  | cons {table next after : Table} {rule saved : Rule} {created : List Rule} {k : Nat} :
      rule.id = none → rule.createdAt = some (clock k) → rule.updatedAt = some (clock k) →
      table.save rule = .ok (saved, next) → Receives clock next created after →
      Receives clock table (saved :: created) after

variable {clock : Nat → Timestamp} {table next after : Table} {rule saved existing : Rule}
  {created : List Rule} {id i : Int}

/-! #### Changing rules -/

/-- A table keeps its own identities. -/
theorem keepsIdentities_refl (table : Table) : table.KeepsIdentities table := by
  intro id a b ha hb
  obtain rfl := Option.some.inj (ha.symm.trans hb)
  exact .refl a

/-- Saving another version of a stored rule keeps identities. -/
theorem WellFormed.keepsIdentities_save (h : table.WellFormed) (hfind : table.find? id = some existing)
    (hsave : table.save rule = .ok (saved, after)) (hid : rule.id = existing.id)
    (hkey : rule.externalKey = existing.externalKey) (hcreated : rule.createdAt = existing.createdAt) :
    table.KeepsIdentities after := by
  obtain ⟨-, hexisting⟩ := h.find?_eq_some_iff.mp hfind
  have hnumber : rule.id = some id := hid.trans hexisting
  rw [save_stored hnumber (h.contains_iff_find?.mpr ⟨existing, hfind⟩)] at hsave
  obtain ⟨rfl, rfl⟩ := Prod.mk.inj (Except.ok.inj hsave)
  intro i a b ha hb
  by_cases hne : i = id
  · subst hne
    obtain rfl := Option.some.inj (ha.symm.trans hfind)
    rw [h.find?_insertRow hnumber rfl] at hb
    obtain rfl := Option.some.inj hb
    exact ⟨hid, hkey, hcreated, Rule.key_congr hexisting hid hkey⟩
  · rw [h.find?_insertRow_of_ne hnumber hne] at hb
    exact keepsIdentities_refl table i a b ha hb

/-- Deleting keeps the identities of the rules that are left. -/
theorem WellFormed.keepsIdentities_delete (h : table.WellFormed) (id : Int) :
    table.KeepsIdentities (table.delete id).2 := by
  intro i a b ha hb
  obtain ⟨hmem, hid⟩ := (h.delete id).find?_eq_some_iff.mp hb
  rw [h.all_delete] at hmem
  have hstored := h.find?_eq_some_iff.mpr ⟨(List.mem_filter.mp hmem).1, hid⟩
  exact keepsIdentities_refl table i a b ha hstored

/-! #### New rules -/

namespace Receives

/-- A table stays well-formed when it receives new rules. -/
theorem wellFormed (h : Receives clock table created after) (hwf : table.WellFormed) :
    after.WellFormed := by
  induction h with
  | nil => exact hwf
  | cons _ _ _ hsave _ ih => exact ih (hwf.save hsave)

/-- New rules get the numbers that come next. -/
theorem map_id (h : Receives clock table created after) :
    created.map Rule.id =
      (List.range created.length).map fun k => some (numberAfter table.lastId (k + 1)) := by
  induction h with
  | nil => rfl
  | cons hid _ _ hsave _ ih =>
      rw [save_draft hid] at hsave
      obtain ⟨rfl, rfl⟩ := Prod.mk.inj (Except.ok.inj hsave)
      rw [List.map_cons, ih, List.length_cons, List.range_succ_eq_map, List.map_cons, List.map_map]
      exact congrArg (List.cons _) (List.map_congr_left fun k _ =>
        congrArg some (numberAfter_following _ (k + 1)))

/-- The numbers of new rules are the next ones, as many as there are rules. -/
theorem exists_id_iff (h : Receives clock table created after) :
    (∃ rule ∈ created, rule.id = some i) ↔
      ∃ k, 0 < k ∧ k ≤ created.length ∧ i = numberAfter table.lastId k := by
  rw [← List.mem_map, h.map_id, List.mem_map]
  constructor
  · rintro ⟨k, hk, heq⟩
    exact ⟨k + 1, Nat.succ_pos k, List.mem_range.mp hk, (Option.some.inj heq).symm⟩
  · rintro ⟨k, hpos, hle, rfl⟩
    refine ⟨k - 1, List.mem_range.mpr (by omega), ?_⟩
    rw [Nat.sub_add_cancel hpos]

/-- New rules have their times from the clock. -/
theorem times (h : Receives clock table created after) :
    ∀ rule ∈ created, ∃ k, rule.createdAt = some (clock k) ∧ rule.updatedAt = some (clock k) := by
  induction h with
  | nil => simp
  | cons hid hcreated hupdated hsave _ ih =>
      obtain ⟨id, rfl, -⟩ := rows_of_save hsave
      exact List.forall_mem_cons.mpr ⟨⟨_, hcreated, hupdated⟩, ih⟩

/-- **Under numbers that are not given anew** nothing changes. -/
theorem find?_eq (h : Receives clock table created after) (hwf : table.WellFormed)
    (hother : ∀ k, 0 < k → k ≤ created.length → i ≠ numberAfter table.lastId k) :
    after.find? i = table.find? i := by
  induction h with
  | nil => rfl
  | @cons table next after rule saved rest k hid _ _ hsave _ ih =>
      have hnext := hwf.save hsave
      rw [save_draft hid] at hsave
      obtain ⟨rfl, rfl⟩ := Prod.mk.inj (Except.ok.inj hsave)
      have hfirst : i ≠ following table.lastId := hother 1 Nat.one_pos (by simp)
      refine (ih hnext fun k hpos hle => ?_).trans (hwf.find?_insertRow_of_ne rfl hfirst _)
      rw [numberAfter_following]
      exact hother (k + 1) (Nat.succ_pos k) (by simpa using hle)

/-- **New rules are all stored**, each under a number of its own, unless there are more than there are
numbers. -/
theorem stored (h : Receives clock table created after) (hwf : table.WellFormed)
    (hlength : created.length ≤ 18446744073709551616) :
    created ⊆ after.all ∧ (created.map Rule.id).Nodup := by
  induction h with
  | nil => simp
  | @cons table next after rule saved rest k hid _ _ hsave hrest ih =>
      have hnext := hwf.save hsave
      rw [save_draft hid] at hsave
      obtain ⟨rfl, rfl⟩ := Prod.mk.inj (Except.ok.inj hsave)
      rw [List.length_cons] at hlength
      obtain ⟨hsubset, hnodup⟩ := ih hnext (by omega)
      -- The number of the first rule does not come again.
      have hapart : ∀ k, 0 < k → k ≤ rest.length →
          following table.lastId ≠ numberAfter (following table.lastId) k := fun k hpos hle =>
        (numberAfter_following_ne table.lastId hpos (by omega)).symm
      refine ⟨List.cons_subset.mpr ⟨?_, hsubset⟩, List.nodup_cons.mpr ⟨fun hmem => ?_, hnodup⟩⟩
      · have hfind := (hrest.find?_eq hnext hapart).trans (hwf.find?_insertRow rfl rfl)
        exact ((hrest.wellFormed hnext).find?_eq_some_iff.mp hfind).1
      · obtain ⟨k, hpos, hle, heq⟩ := hrest.exists_id_iff.mp (List.mem_map.mp hmem)
        exact hapart k hpos hle heq

/-- Identities are kept if no number in use is given anew. -/
theorem keepsIdentities (h : Receives clock table created after) (hwf : table.WellFormed)
    (hnew : ∀ k, 0 < k → k ≤ created.length → table.contains (numberAfter table.lastId k) = false) :
    table.KeepsIdentities after := by
  intro id a b ha hb
  have hused := hwf.contains_iff_find?.mpr ⟨a, ha⟩
  rw [h.find?_eq hwf fun k hpos hle heq => ?_] at hb
  · exact keepsIdentities_refl table id a b ha hb
  · exact Bool.false_ne_true ((hnew k hpos hle).symm.trans (heq ▸ hused))

end Receives

end Table

/-! ### Operations -/

namespace Plan

variable {env : Surroundings} {store : Store}

/-- New rules are added to the table and to the index, no more than were brought, and they are the result of what
succeeds. -/
structure Enters (env : Surroundings) (store : Store) (brought created : List Rule) (plan : Plan (List Rule)) :
    Prop where
  receives : store.table.Receives env.clock created plan.store.table
  edits : plan.edits = created.map .add
  length_le : created.length ≤ brought.length
  result : ∀ saved, plan.result = .ok saved → saved = created

/-- Creating several rules adds some of them to the table and to the index. -/
theorem createEach_enters (env : Surroundings) (i : Nat) (known rules : List Rule) (store : Store) :
    ∃ created, Enters env store rules created (createEach env i known rules store) := by
  induction rules generalizing i known store with
  | nil => exact ⟨[], .nil, rfl, Nat.le_refl 0, fun saved hsaved => (Except.ok.inj hsaved).symm⟩
  | cons rule rest ih =>
      rw [createEach]
      split
      · obtain ⟨created, h⟩ := ih (i + 1) known store
        exact ⟨created, h.receives, h.edits, Nat.le_succ_of_le h.length_le, h.result⟩
      · rcases createOne_cases env i known rule store with
          ⟨error, after, heq, htable⟩ | ⟨saved, after, -, -, hsave, heq⟩
        · refine ⟨[], ?_, by simp [heq, fail], Nat.zero_le _, by simp [heq, fail]⟩
          simp only [heq, fail, htable]
          exact .nil
        · obtain ⟨created, h⟩ := ih (i + 1) (known ++ [saved]) after
          refine ⟨saved :: created, ?_, by simp [heq, h.edits], Nat.succ_le_succ h.length_le, ?_⟩
          · simp only [heq]
            exact .cons rfl rfl rfl hsave h.receives
          · simp only [heq]
            intro all hall
            obtain ⟨others, hothers, rfl⟩ := exists_of_map_eq_ok hall
            rw [h.result others hothers]

/-- Creating several rules adds some of them to the table and to the index. -/
theorem createBatch_enters (env : Surroundings) (rules : List Rule) (store : Store) :
    ∃ created, Enters env store rules created (createBatch env rules store) := by
  unfold createBatch
  rcases withAll_cases (env.condition 0) store fun known => createEach env 0 known rules store with
    ⟨error, heq⟩ | heq
  · rw [heq]
    exact ⟨[], .nil, rfl, Nat.zero_le _, nofun⟩
  · rw [heq]
    exact createEach_enters env 0 store.table.all rules store

/-- Whether rules are valid does not depend on their numbers and times. -/
theorem withAllValid_anonymous {α : Type} (rules : List Rule) (store : Store) (next : Plan α) :
    withAllValid (rules.map Rule.anonymous) store next = withAllValid rules store next := by
  induction rules with
  | nil => rfl
  | cons rule rest ih => exact congrArg (withValid rule store) ih

/-- What is created does not depend on the numbers and times that are brought. -/
theorem createEach_anonymous (env : Surroundings) (i : Nat) (known rules : List Rule) (store : Store) :
    createEach env i known (rules.map Rule.anonymous) store = createEach env i known rules store := by
  induction rules generalizing i known store with
  | nil => rfl
  | cons rule rest ih =>
      have hroute : ∀ other : Rule, other.sameRoute rule.anonymous = other.sameRoute rule := fun _ => rfl
      have hcreate : createOne env i known rule.anonymous store = createOne env i known rule store := rfl
      simp only [List.map_cons, createEach, hroute, hcreate, ih]

end Plan

/-! ### Calls -/

namespace Engine

variable {engine : Engine} {env : Surroundings} {call : Call} {step : Step} {run : List Step}

/-- The rules that a call creates, which are those that it adds to the index. A call that fails at one of several
rules has created those before it. -/
def created (engine : Engine) (env : Surroundings) (call : Call) : List Rule :=
  if call.creates then
    (engine.edits env call).filterMap fun
      | .add rule => some rule
      | _ => none
  else []

/-- What is added to the index by a call that creates rules is created. -/
theorem created_eq {rules : List Rule} (hcreates : call.creates = true)
    (hedits : engine.edits env call = rules.map .add) : engine.created env call = rules := by
  rw [created, if_pos hcreates, hedits, List.filterMap_map]
  exact List.filterMap_some

/-- A rule that is returned when it was created is the one that was created. -/
theorem created_create {rule saved : Rule} (hok : (engine.create env rule).1 = .ok saved) :
    engine.created env (.create rule) = [saved] := by
  have hresult : (engine.ifRunning (Plan.create env rule)).result = .ok saved := hok
  obtain ⟨hplan, hresult⟩ := ifRunning_eq_of_ok hresult
  have hedits : engine.edits env (.create rule) = (Plan.create env rule engine.store).edits :=
    congrArg Plan.edits hplan
  rcases Plan.create_cases env rule engine.store with
    ⟨error, after, heq, -⟩ | ⟨other, after, -, -, -, heq⟩
  · rw [heq] at hresult
    cases hresult
  · rw [heq] at hresult hedits
    obtain rfl := Except.ok.inj hresult
    exact created_eq rfl hedits

/-- If several rules are created, the engine was running and none of them was refused before. -/
theorem plan_createBatch_of_ok {rules saved : List Rule} (hok : (engine.createBatch env rules).1 = .ok saved) :
    engine.running = true ∧
      Plan.withAllValid rules engine.store (engine.ifRunning (Plan.createBatch env rules)) =
        Plan.createBatch env rules engine.store ∧
      (Plan.createBatch env rules engine.store).result = .ok saved := by
  have hresult : (Plan.withAllValid rules engine.store
      (engine.ifRunning (Plan.createBatch env rules))).result = .ok saved := hok
  rcases Plan.withAllValid_cases rules engine.store (engine.ifRunning (Plan.createBatch env rules)) with
    ⟨problems, hplan⟩ | hplan
  · rw [hplan] at hresult
    cases hresult
  · rw [hplan] at hresult
    have hrunning := running_of_ok hresult
    obtain ⟨hbatch, hresult⟩ := ifRunning_eq_of_ok hresult
    exact ⟨hrunning, hplan.trans hbatch, hresult⟩

/-- Several rules that are returned when they were created are all that were created. -/
theorem created_createBatch {rules saved : List Rule} (hok : (engine.createBatch env rules).1 = .ok saved) :
    engine.created env (.createBatch rules) = saved := by
  obtain ⟨-, hplan, hresult⟩ := plan_createBatch_of_ok hok
  obtain ⟨created, h⟩ := Plan.createBatch_enters env rules engine.store
  have hedits : engine.edits env (.createBatch rules) = created.map .add := (congrArg Plan.edits hplan).trans h.edits
  rw [created_eq rfl hedits]
  exact (h.result saved hresult).symm

/-- A call that creates rules adds them to the table and to the index, no more than it brings. -/
theorem call_enters (engine : Engine) (env : Surroundings) (hcreates : call.creates = true) :
    ∃ created, engine.store.table.Receives env.clock created (engine.call env call).2.store.table ∧
      created.length ≤ call.brought.length ∧ engine.edits env call = created.map .add := by
  refine call_induction (P := fun store edits => ∃ created,
    engine.store.table.Receives env.clock created store.table ∧ created.length ≤ call.brought.length ∧
      edits = created.map .add) engine env call ⟨[], .nil, Nat.zero_le _, rfl⟩ ?_ ?_ ?_ ?_ ?_ ?_
  · intro hfills
    cases call <;> simp [Call.fills, Call.creates] at hfills hcreates
  · rintro rule rfl
    rcases Plan.create_cases env rule engine.store with
      ⟨error, after, heq, htable⟩ | ⟨saved, after, -, -, hsave, heq⟩
    · rw [heq]
      exact ⟨[], htable ▸ .nil, Nat.zero_le _, rfl⟩
    · rw [heq]
      exact ⟨[saved], .cons rfl rfl rfl hsave .nil, Nat.le_refl 1, rfl⟩
  · rintro rules rfl
    obtain ⟨created, h⟩ := Plan.createBatch_enters env rules engine.store
    exact ⟨created, h.receives, h.length_le, h.edits⟩
  all_goals
    intros
    subst call
    cases hcreates

/-- **A call that creates rules** adds them to the table, no more than it brings. -/
theorem call_receives (engine : Engine) (env : Surroundings) (hcreates : call.creates = true) :
    engine.store.table.Receives env.clock (engine.created env call) (engine.call env call).2.store.table ∧
      (engine.created env call).length ≤ call.brought.length := by
  obtain ⟨created, hreceives, hlength, hedits⟩ := call_enters engine env hcreates
  rw [created_eq hcreates hedits]
  exact ⟨hreceives, hlength⟩

/-- What a call creates is what it adds to the index. -/
theorem index_of_creates (engine : Engine) (env : Surroundings) (hcreates : call.creates = true) :
    (engine.call env call).2.index =
      ((engine.created env call).map .add).foldl Index.apply engine.index := by
  obtain ⟨created, -, -, hedits⟩ := call_enters engine env hcreates
  rw [created_eq hcreates hedits, ← hedits]
  exact engine.index_call env call

/-- **Every other call** keeps the identities of stored rules. -/
theorem call_keepsIdentities (env : Surroundings) (hwf : engine.store.table.WellFormed)
    (hcreates : call.creates = false) :
    engine.store.table.KeepsIdentities (engine.call env call).2.store.table := by
  have hkept := engine.store.table.keepsIdentities_refl
  refine call_induction (P := fun store _ => engine.store.table.KeepsIdentities store.table) engine env call
    hkept (fun _ => hkept) ?_ ?_ ?_ ?_ ?_
  · rintro rule rfl
    cases hcreates
  · rintro rules rfl
    cases hcreates
  · rintro id changes -
    rcases Plan.update_cases env id changes engine.store with
      ⟨error, after, heq, htable⟩ | ⟨existing, saved, after, hfind, -, hsave, heq⟩
    · rw [heq]
      exact htable ▸ hkept
    · rw [heq]
      exact hwf.keepsIdentities_save hfind hsave rfl rfl rfl
  · rintro id -
    rcases Plan.delete_cases env id engine.store with
      ⟨error, after, heq, htable⟩ | ⟨existing, after, -, htable, heq⟩
    · rw [heq]
      exact htable ▸ hkept
    · rw [heq]
      have hdelete := hwf.keepsIdentities_delete id
      rw [← htable] at hdelete
      exact hdelete
  · rintro id -
    rcases Plan.toggle_cases env id engine.store with
      ⟨error, after, heq, htable⟩ | ⟨existing, saved, after, hfind, hsave, heq⟩
    · rw [heq]
      exact htable ▸ hkept
    · rw [heq]
      exact hwf.keepsIdentities_save hfind hsave rfl rfl rfl

/-- Calls keep tables well-formed, also if keys that are drawn are not new. -/
theorem wellFormed_call (env : Surroundings) (call : Call) (hwf : engine.store.table.WellFormed) :
    (engine.call env call).2.store.table.WellFormed := by
  cases hcreates : call.creates with
  | true => exact (call_receives engine env hcreates).1.wellFormed hwf
  | false =>
      have hfresh : call.DrawsFresh env engine.store.table := by
        cases call <;> trivial
      obtain ⟨edits, heffect, -⟩ := engine.call_effect env call hwf hfresh
      exact heffect.wellFormed hwf

/-- Runs keep tables well-formed. -/
theorem wellFormed_after (hwf : engine.store.table.WellFormed) (run : List Step) :
    (engine.after run).store.table.WellFormed := by
  induction run generalizing engine with
  | nil => exact hwf
  | cons step rest ih => exact ih (wellFormed_call step.env step.call hwf)

/-! ### What payloads bring -/

/-- A call without what its payload cannot decide: numbers and times, and the key of a rule to be changed. -/
def Call.anonymous : Call → Call
  | .create rule => .create rule.anonymous
  | .createBatch rules => .createBatch (rules.map Rule.anonymous)
  | .update id changes => .update id { changes.anonymous with externalKey := none }
  | call => call

/-- **Numbers and times that are brought** do not matter, nor does the key that an update brings. -/
theorem call_anonymous (engine : Engine) (env : Surroundings) (call : Call) :
    engine.call env call.anonymous = engine.call env call := by
  cases call with
  | createBatch rules =>
      have hbatch : Plan.createBatch env (rules.map Rule.anonymous) = Plan.createBatch env rules := by
        funext store
        exact congrArg (Plan.withRead _ store) (funext fun known => Plan.createEach_anonymous env 0 known rules store)
      have hplan : Plan.withAllValid (rules.map Rule.anonymous) engine.store
            (engine.ifRunning (Plan.createBatch env (rules.map Rule.anonymous))) =
          Plan.withAllValid rules engine.store (engine.ifRunning (Plan.createBatch env rules)) := by
        rw [hbatch, Plan.withAllValid_anonymous]
      exact congrArg (fun plan => reported (counted .createBatch (engine.perform plan))) hplan
  | _ => rfl

/-! ### What calls create -/

/-- What a call creates is new. -/
structure CreatesAnew (engine : Engine) (env : Surroundings) (call : Call) : Prop where
  /-- A rule that is returned was created, -/
  returned : ∀ rule saved, call = .create rule → (engine.create env rule).1 = .ok saved →
    engine.created env call = [saved]
  /-- and several rules that are returned are all that were. -/
  returnedEach : ∀ rules saved, call = .createBatch rules → (engine.createBatch env rules).1 = .ok saved →
    engine.created env call = saved
  /-- Created rules are stored, -/
  stored : engine.created env call ⊆ (engine.call env call).2.store.table.all
  /-- under numbers that no rule had before, -/
  number : ∀ rule ∈ engine.created env call, ∃ id, rule.id = some id ∧
    engine.store.table.contains id = false
  /-- each under one of its own. -/
  distinct : ((engine.created env call).map Rule.id).Nodup
  /-- Both times of a created rule are one reading of the clock. -/
  times : ∀ rule ∈ engine.created env call, ∃ k, rule.createdAt = some (env.clock k) ∧
    rule.updatedAt = some (env.clock k)
  /-- Numbers and times that are brought do not matter. -/
  unread : engine.call env call.anonymous = engine.call env call

/-- Whether one of the numbers that a call gives to new rules is in use. -/
def Recycles (engine : Engine) (step : Step) : Prop :=
  ∃ k, 0 < k ∧ k ≤ (engine.created step.env step.call).length ∧
    engine.store.table.contains (Table.numberAfter engine.store.table.lastId k) = true

/-- Only calls that create rules recycle numbers. -/
theorem Recycles.creates (h : engine.Recycles step) : step.call.creates = true := by
  obtain ⟨k, hpos, hle, -⟩ := h
  by_contra hcreates
  rw [created, if_neg hcreates] at hle
  exact absurd hpos (Nat.not_lt.mpr hle)

/-- As long as there are numbers left after the greatest one, none is recycled. -/
theorem not_recycles_of_numbered {left : Nat} (h : engine.store.table.Numbered left)
    (hwf : engine.store.table.WellFormed) (hleft : step.call.brought.length ≤ left) :
    ¬ engine.Recycles step := by
  intro hrecycles
  obtain ⟨-, hlength⟩ := call_receives engine step.env hrecycles.creates
  obtain ⟨k, hpos, hle, hused⟩ := hrecycles
  have hbounded := h.bounded
  rw [Table.numberAfter_eq h.nonneg (by omega)] at hused
  obtain ⟨rule, hmem, hid⟩ := hwf.contains_iff.mp hused
  have hupTo := h.upTo rule hmem _ hid
  omega

/-- **What a call creates is new** exactly if it recycles no number. -/
theorem createsAnew_iff (hwf : engine.store.table.WellFormed)
    (hlength : step.call.brought.length ≤ 18446744073709551616) :
    engine.CreatesAnew step.env step.call ↔ ¬ engine.Recycles step := by
  constructor
  · rintro h hrecycles
    obtain ⟨hreceives, -⟩ := call_receives engine step.env hrecycles.creates
    obtain ⟨k, hpos, hle, hused⟩ := hrecycles
    obtain ⟨rule, hmem, hid⟩ := hreceives.exists_id_iff.mpr ⟨k, hpos, hle, rfl⟩
    obtain ⟨id, hnumber, hunused⟩ := h.number rule hmem
    obtain rfl := Option.some.inj (hnumber.symm.trans hid)
    exact Bool.false_ne_true (hunused.symm.trans hused)
  · intro hnot
    have hreturned : ∀ rule saved, step.call = .create rule → (engine.create step.env rule).1 = .ok saved →
        engine.created step.env step.call = [saved] := fun rule saved hcall hok => hcall ▸ created_create hok
    have hreturnedEach : ∀ rules saved, step.call = .createBatch rules →
        (engine.createBatch step.env rules).1 = .ok saved → engine.created step.env step.call = saved :=
      fun rules saved hcall hok => hcall ▸ created_createBatch hok
    have hunread := call_anonymous engine step.env step.call
    by_cases hcreates : step.call.creates = true
    · obtain ⟨hreceives, hle⟩ := call_receives engine step.env hcreates
      obtain ⟨hstored, hdistinct⟩ := hreceives.stored hwf (Nat.le_trans hle hlength)
      refine ⟨hreturned, hreturnedEach, hstored, fun rule hmem => ?_, hdistinct, hreceives.times, hunread⟩
      obtain ⟨id, hid, -⟩ := (hreceives.wellFormed hwf).mem_all_iff.mp (hstored hmem)
      obtain ⟨k, hpos, hle, rfl⟩ := hreceives.exists_id_iff.mp ⟨rule, hmem, hid⟩
      exact ⟨_, hid, eq_false_of_ne_true fun hused => hnot ⟨k, hpos, hle, hused⟩⟩
    · have hnone : engine.created step.env step.call = [] := if_neg hcreates
      exact ⟨hreturned, hreturnedEach, by simp [hnone], by simp [hnone], by simp [hnone], by simp [hnone],
        hunread⟩

/-! ### Runs -/

/-- A call that recycles no number keeps the identities of stored rules. -/
theorem keepsIdentities_step (hwf : engine.store.table.WellFormed) (hnot : ¬ engine.Recycles step) :
    engine.store.table.KeepsIdentities (engine.after [step]).store.table := by
  cases hcreates : step.call.creates with
  | true =>
      refine (call_receives engine step.env hcreates).1.keepsIdentities hwf fun k hpos hle => ?_
      exact eq_false_of_ne_true fun hused => hnot ⟨k, hpos, hle, hused⟩
  | false => exact call_keepsIdentities step.env hwf hcreates

/-- **As long as a number stays in use** and no call recycles one, what is stored under it are versions of one
rule. -/
theorem exists_version_after {part : List Step} {id : Int} {rule : Rule} (hwf : engine.store.table.WellFormed)
    (hnone : ∀ done step, done ++ [step] <+: part → ¬ (engine.after done).Recycles step)
    (hfind : engine.store.table.find? id = some rule)
    (hstays : ∀ first, first <+: part → (engine.after first).store.table.contains id = true) :
    ∃ later, (engine.after part).store.table.find? id = some later ∧ later.SameIdentity rule := by
  induction part generalizing engine rule with
  | nil => exact ⟨rule, hfind, .refl rule⟩
  | cons step rest ih =>
      have hnext := wellFormed_call step.env step.call hwf
      have hstep := keepsIdentities_step hwf (hnone [] step (by simp))
      obtain ⟨next, hfound⟩ := hnext.contains_iff_find?.mp (hstays [step] (by simp))
      obtain ⟨later, hlater, hsame⟩ := ih hnext
        (fun done other hpart => hnone (step :: done) other (List.cons_prefix_cons.mpr ⟨rfl, hpart⟩)) hfound
        fun first hpart => hstays (step :: first) (List.cons_prefix_cons.mpr ⟨rfl, hpart⟩)
      exact ⟨later, hlater, hsame.trans (hstep id rule next hfind hfound)⟩

/-- In a run, rules stay what they are and what is created is new. -/
structure KeepsIdentities (engine : Engine) (run : List Step) : Prop where
  /-- As long as a number stays in use, what is stored under it are versions of one rule. -/
  kept : ∀ done part id rule, done ++ part <+: run →
    (engine.after done).store.table.find? id = some rule →
    (∀ first, first <+: part → (engine.after (done ++ first)).store.table.contains id = true) →
    ∃ later, (engine.after (done ++ part)).store.table.find? id = some later ∧ later.SameIdentity rule
  /-- Each call creates new rules. -/
  created : ∀ done step, done ++ [step] <+: run → (engine.after done).CreatesAnew step.env step.call

/-- **Identities stay in a run**, whatever fails of it, exactly if no call of it recycles a number. -/
theorem keepsIdentities_iff (hstore : engine.store.Reachable)
    (hlength : ∀ step ∈ run, step.call.brought.length ≤ 18446744073709551616) :
    engine.KeepsIdentities run ↔
      ∀ done step, done ++ [step] <+: run → ¬ (engine.after done).Recycles step := by
  have hwf := wellFormed_after hstore.wellFormed
  have hcreated : ∀ done step, done ++ [step] <+: run →
      ((engine.after done).CreatesAnew step.env step.call ↔ ¬ (engine.after done).Recycles step) := by
    intro done step hpart
    exact createsAnew_iff (hwf done) (hlength step (hpart.subset (by simp)))
  constructor
  · exact fun h done step hpart => (hcreated done step hpart).mp (h.created done step hpart)
  · intro hnone
    refine ⟨fun done part id rule hpart hfind hstays => ?_, fun done step hpart =>
      (hcreated done step hpart).mpr (hnone done step hpart)⟩
    rw [after_append]
    refine exists_version_after (hwf done) (fun first step hfirst => ?_) hfind fun first hfirst => ?_
    · rw [← after_append]
      refine hnone (done ++ first) step (.trans ?_ hpart)
      rw [List.append_assoc]
      exact (List.prefix_append_right_inj done).mpr hfirst
    · rw [← after_append]
      exact hstays first hfirst

/-- A payload that brings a number, a key and a time of its own. -/
def disguised : Rule :=
  { Rule.new "disguised" "POST" "/new" with
    id := some 1, externalKey := some "stub-7", createdAt := some default }

/-- The only rule is changed to that, and a rule is created from it. -/
def twiceDisguised : List Step :=
  [⟨calm, .update 1 { disguised with id := some 7 }⟩, ⟨calm, .create disguised⟩]

/-- A rule with a number only is still the same, and the new rule gets the number after it. -/
theorem keepsIdentities_iff_twiceDisguised :
    let started := ((fresh unkeyed none []).start calm).2
    started.store.Reachable ∧ (∀ step ∈ twiceDisguised, step.call.brought.length ≤ 18446744073709551616) ∧
      started.KeepsIdentities twiceDisguised := by
  intro started
  have hrules : Store.ofRules [Rule.new "old" "GET" "/old"] = .ok unkeyed := rfl
  have hstore : started.store.Reachable := .ofRules hrules
  have hlength : ∀ step ∈ twiceDisguised, step.call.brought.length ≤ 18446744073709551616 := by
    simp [twiceDisguised, Call.brought]
  refine ⟨hstore, hlength, (keepsIdentities_iff hstore hlength).mpr ?_⟩
  rintro done step ⟨rest, hrun⟩ hrecycles
  rcases done with _ | ⟨first, _ | ⟨second, done⟩⟩
  · injection hrun with hstep
    subst hstep
    exact Bool.noConfusion hrecycles.creates
  · injection hrun with hfirst hrun
    injection hrun with hstep
    subst hfirst hstep
    obtain ⟨k, hpos, hle, hused⟩ := hrecycles
    have hone : k ≤ 1 := Nat.le_trans hle (call_receives _ calm rfl).2
    obtain rfl : k = 1 := Nat.le_antisymm hone hpos
    exact Bool.noConfusion hused
  · simp [twiceDisguised] at hrun

/-- **Not in every run** identities stay. After the greatest number comes the least, and under it the new rule is
stored in place of the one that was there. -/
theorem not_forall_keepsIdentities :
    ¬ ∀ (engine : Engine) (run : List Step), engine.store.Reachable → engine.KeepsIdentities run := by
  intro hall
  have h := hall ((fresh fullCircle none []).start calm).2 [oneMore] reachable_fullCircle
  obtain ⟨later, hlater, hsame⟩ := h.kept [] [oneMore] (-9223372036854775808) _ (List.prefix_refl _) rfl <| by
    intro first hfirst
    rcases List.prefix_cons_iff.mp hfirst with rfl | ⟨rest, rfl, hrest⟩
    · rfl
    · rw [List.prefix_nil.mp hrest]
      rfl
  have hmore : later.externalKey = some "more" := by
    obtain rfl := Option.some.inj hlater
    rfl
  have hfirst : later.externalKey = some "first" := hsame.externalKey
  exact absurd (hmore.symm.trans hfirst) (by decide)

end Engine

end StubServer
