import StubServer.Proofs.Engine.Call
import StubServer.Proofs.Index.Publication

/-!
# Calls are seen at once

Requests are answered while the engine is changed, each from the snapshot that was published last. A call
publishes at most one, so a request sees the rules as they are before the call or as they are after it and
nothing between. Updating is the only call with two changes of the index, and only one of them ever
publishes: number and own key of the rule stay, so its key does, and the old entry has to be removed only
if there is no new one.

Creating several rules publishes a snapshot for each.

## Main statements

* `Plan.update_revises`: how an update changes the index.
* `Engine.call_induction`: what holds of a store and of what an operation comes to holds after every call.
* `Engine.call_seenAtOnce`: a call publishes at most one snapshot, and none if it fails.
-/

namespace StubServer

open Index (Edit)

/-! ### Changes of the index -/

namespace Plan

/-- The store that an operation comes to and its changes of the index have a property. -/
def Has {α : Type} (P : Store → List Edit → Prop) (plan : Plan α) : Prop :=
  P plan.store plan.edits

/-- **Updating** fails, or adds the revised rule to the index, under the key that it had. Only if the rule
is disabled now its old entry is removed before. -/
theorem update_revises {store : Store} (hwf : store.table.WellFormed) (env : Surroundings) (id : Int)
    (changes : Rule) :
    (∃ error after, update env id changes store = fail error after) ∨
      ∃ existing after, store.table.find? id = some existing ∧
        (revised existing changes (env.clock 0)).key = existing.key ∧
        update env id changes store =
          { result := .ok (revised existing changes (env.clock 0))
            store := after
            edits := (if changes.enabled then [] else [.remove existing.key]) ++
              [.add (revised existing changes (env.clock 0))] } := by
  rcases update_cases env id changes store with
    ⟨error, after, heq, -⟩ | ⟨existing, saved, after, hfind, hvalid, hsave, heq⟩
  · exact .inl ⟨error, after, heq⟩
  · obtain ⟨rfl, hreplaces⟩ := hwf.replaces_of_save hfind hsave rfl rfl fun _ => hvalid
    have hkey : (revised existing changes (env.clock 0)).key = existing.key := hreplaces.key_eq hwf _ rfl
    have henabled : (revised existing changes (env.clock 0)).enabled = changes.enabled := rfl
    refine .inr ⟨existing, after, hfind, hkey, heq.trans ?_⟩
    cases hchanges : changes.enabled <;> simp [henabled, hchanges, hkey]

end Plan

/-! ### Calls -/

namespace Engine

variable {engine : Engine} {env : Surroundings}

/-- The changes of the index that a call makes, one after the other. -/
def edits (engine : Engine) (env : Surroundings) : Call → List Edit
  | .start => (Plan.reload env engine.store).edits
  | .stop => []
  | .create rule => (engine.ifRunning (Plan.create env rule)).edits
  | .createBatch rules =>
    (Plan.withAllValid rules engine.store (engine.ifRunning (Plan.createBatch env rules))).edits
  | .update id changes => (engine.ifRunning (Plan.update env id changes)).edits
  | .delete id => (engine.ifRunning (Plan.delete env id)).edits
  | .toggle id => (engine.ifRunning (Plan.toggle env id)).edits
  | .reload => (engine.ifRunning (Plan.reload env)).edits

/-- The snapshots that are published during a call. -/
def published (engine : Engine) (env : Surroundings) (call : Call) : List Index.Snapshot :=
  engine.index.published (engine.edits env call)

/-- What an operation does to the index is what it says. -/
theorem index_perform {α : Type} (engine : Engine) (plan : Plan α) :
    (engine.perform plan).2.index = plan.edits.foldl Index.apply engine.index :=
  (foldl_edit plan.edits { engine with store := plan.store }).2.1

/-- The store after an operation is what it says. -/
theorem store_perform {α : Type} (engine : Engine) (plan : Plan α) :
    (engine.perform plan).2.store = plan.store :=
  (foldl_edit plan.edits { engine with store := plan.store }).1

/-- An operation does not start or stop the engine. -/
theorem running_perform {α : Type} (engine : Engine) (plan : Plan α) :
    (engine.perform plan).2.running = engine.running :=
  (foldl_edit plan.edits { engine with store := plan.store }).2.2

/-- What a call does to the index are its changes. -/
theorem index_call (engine : Engine) (env : Surroundings) (call : Call) :
    (engine.call env call).2.index = (engine.edits env call).foldl Index.apply engine.index := by
  cases call with
  | start =>
      have hstart : (engine.start env).2.index =
          (engine.perform (Plan.reload env engine.store)).2.index :=
        (apply_ite Engine.index _ _ _).trans (ite_self _)
      exact hstart.trans (engine.index_perform _)
  | stop => rfl
  | create rule => exact engine.index_perform _
  | createBatch rules => exact engine.index_perform _
  | update id changes => exact engine.index_perform _
  | delete id => exact engine.index_perform _
  | toggle id => exact engine.index_perform _
  | reload => exact engine.index_perform _

/-- **What holds of a store with no changes of the index**, and of what an operation comes to, holds of the store
after a call and the changes that it makes. -/
theorem call_induction {P : Store → List Edit → Prop} (engine : Engine) (env : Surroundings) (call : Call)
    (hkept : P engine.store [])
    (hfills : call.fills = true → P engine.store [.reload engine.store.table.all])
    (hcreate : ∀ rule, call = .create rule → (Plan.create env rule engine.store).Has P)
    (hcreateBatch : ∀ rules, call = .createBatch rules → (Plan.createBatch env rules engine.store).Has P)
    (hupdate : ∀ id changes, call = .update id changes → (Plan.update env id changes engine.store).Has P)
    (hdelete : ∀ id, call = .delete id → (Plan.delete env id engine.store).Has P)
    (htoggle : ∀ id, call = .toggle id → (Plan.toggle env id engine.store).Has P) :
    P (engine.call env call).2.store (engine.edits env call) := by
  have hperform : ∀ {α : Type} {plan : Plan α}, plan.Has P → P (engine.perform plan).2.store plan.edits :=
    fun {α} {plan} h => (engine.store_perform plan).symm ▸ h
  have hrunning : ∀ {α : Type} {next : Store → Plan α}, (next engine.store).Has P →
      (engine.ifRunning next).Has P := by
    intro α next h
    rcases engine.ifRunning_cases next with heq | heq
    · exact heq ▸ hkept
    · exact heq ▸ h
  have hreload : call.fills = true → (Plan.reload env engine.store).Has P := by
    intro hcall
    rcases Plan.reload_cases env engine.store with ⟨error, heq⟩ | heq
    · exact heq ▸ hkept
    · exact heq ▸ hfills hcall
  cases call with
  | start =>
      have hstart : (engine.start env).2.store = (engine.perform (Plan.reload env engine.store)).2.store :=
        (apply_ite Engine.store _ _ _).trans (ite_self _)
      change P (engine.start env).2.store _
      rw [hstart]
      exact hperform (hreload rfl)
  | stop => exact hkept
  | create rule => exact hperform (hrunning (hcreate rule rfl))
  | createBatch rules =>
      refine hperform (?_ : (Plan.withAllValid rules engine.store _).Has P)
      rcases Plan.withAllValid_cases rules engine.store (engine.ifRunning (Plan.createBatch env rules))
        with ⟨problems, heq⟩ | heq
      · rw [heq]
        exact hkept
      · rw [heq]
        exact hrunning (hcreateBatch rules rfl)
  | update id changes => exact hperform (hrunning (hupdate id changes rfl))
  | delete id => exact hperform (hrunning (hdelete id rfl))
  | toggle id => exact hperform (hrunning (htoggle id rfl))
  | reload => exact hperform (hrunning (hreload rfl))

/-! ### Publication -/

/-- What a call comes to publishes at most one snapshot, and changes nothing of the index if it fails. -/
structure PublishesOnce {α : Type} (engine : Engine) (plan : Plan α) : Prop where
  atMostOne : (engine.index.published plan.edits).length ≤ 1
  noneIfFailed : plan.result.isOk = false → plan.edits = []

/-- A failure publishes nothing. -/
theorem publishesOnce_fail {α : Type} (engine : Engine) (error : EngineError) (after : Store) :
    engine.PublishesOnce (Plan.fail error after : Plan α) :=
  ⟨Nat.zero_le 1, fun _ => rfl⟩

/-- One change publishes at most one snapshot. -/
theorem publishesOnce_single {α : Type} (engine : Engine) (result : α) (after : Store) (edit : Edit) :
    engine.PublishesOnce { result := .ok result, store := after, edits := [edit] } :=
  ⟨Index.length_published_le engine.index [edit], fun hfailed => Bool.noConfusion hfailed⟩

/-- What is refused publishes nothing. -/
theorem publishesOnce_ifRunning {α : Type} {plan : Store → Plan α}
    (h : engine.PublishesOnce (plan engine.store)) : engine.PublishesOnce (engine.ifRunning plan) := by
  rcases engine.ifRunning_cases plan with heq | heq
  · exact heq ▸ engine.publishesOnce_fail _ _
  · exact heq ▸ h

/-- Reloading makes one change. -/
theorem publishesOnce_reload (engine : Engine) (env : Surroundings) :
    engine.PublishesOnce (Plan.reload env engine.store) := by
  rcases Plan.reload_cases env engine.store with ⟨error, heq⟩ | heq
  · exact heq ▸ engine.publishesOnce_fail _ _
  · exact heq ▸ engine.publishesOnce_single _ _ _

/-- Creating a rule makes one change. -/
theorem publishesOnce_create (engine : Engine) (env : Surroundings) (rule : Rule) :
    engine.PublishesOnce (Plan.create env rule engine.store) := by
  rcases Plan.create_cases env rule engine.store with
    ⟨error, after, heq, -⟩ | ⟨saved, after, -, -, -, heq⟩
  · exact heq ▸ engine.publishesOnce_fail _ _
  · exact heq ▸ engine.publishesOnce_single _ _ _

/-- Deleting makes one change. -/
theorem publishesOnce_delete (engine : Engine) (env : Surroundings) (id : Int) :
    engine.PublishesOnce (Plan.delete env id engine.store) := by
  rcases Plan.delete_cases env id engine.store with
    ⟨error, after, heq, -⟩ | ⟨existing, after, -, -, heq⟩
  · exact heq ▸ engine.publishesOnce_fail _ _
  · exact heq ▸ engine.publishesOnce_single _ _ _

/-- Toggling makes one change. -/
theorem publishesOnce_toggle (engine : Engine) (env : Surroundings) (id : Int) :
    engine.PublishesOnce (Plan.toggle env id engine.store) := by
  rcases Plan.toggle_cases env id engine.store with
    ⟨error, after, heq, -⟩ | ⟨existing, saved, after, -, -, heq⟩
  · exact heq ▸ engine.publishesOnce_fail _ _
  · exact heq ▸ engine.publishesOnce_single _ _ _

/-- Of the two changes of an update at most one publishes. -/
theorem publishesOnce_update (hwf : engine.store.table.WellFormed) (env : Surroundings) (id : Int)
    (changes : Rule) : engine.PublishesOnce (Plan.update env id changes engine.store) := by
  rcases Plan.update_revises hwf env id changes with ⟨error, after, heq⟩ | ⟨existing, after, -, -, heq⟩
  · exact heq ▸ engine.publishesOnce_fail _ _
  · rw [heq]
    refine ⟨?_, fun hfailed => Bool.noConfusion hfailed⟩
    dsimp only
    rw [Index.published_append, List.length_append]
    cases hchanges : changes.enabled with
    | true => exact Nat.le_trans (Nat.le_of_eq (Nat.zero_add _)) (Index.length_published_le _ [_])
    | false =>
        -- The revised rule is disabled, so adding it publishes nothing.
        have hadd : ∀ index : Index,
            index.published [.add (Plan.revised existing changes (env.clock 0))] = [] := by
          intro index
          simp [Index.published, Index.publishes, Plan.revised, hchanges]
        rw [hadd]
        exact Index.length_published_le engine.index [.remove existing.key]

/-- What a request sees of a call. -/
structure SeenAtOnce (engine : Engine) (env : Surroundings) (call : Call) : Prop where
  /-- At most one snapshot is published. -/
  atMostOne : (engine.published env call).length ≤ 1
  /-- A call that fails publishes none. -/
  noneIfFailed : (engine.call env call).1 = false → engine.published env call = []
  /-- The count of snapshots grows by the number of those. -/
  counted : (engine.call env call).2.index.snapshot.generation =
    engine.index.snapshot.generation + (engine.published env call).length
  /-- After each part of its changes, the snapshot is the one before or the one after the call. -/
  whole : ∀ done, done <+: engine.edits env call →
    (done.foldl Index.apply engine.index).snapshot = engine.index.snapshot ∨
      (done.foldl Index.apply engine.index).snapshot = (engine.call env call).2.index.snapshot
  /-- Updating a rule to an enabled version publishes just one snapshot, which has the key of the rule. -/
  inPlace : ∀ id changes existing, call = .update id changes →
    engine.store.table.find? id = some existing → changes.enabled = true →
    (engine.call env call).1 = true →
    ∃ snapshot, engine.published env call = [snapshot] ∧
      (snapshot.byKey.find? existing.key).isSome = true

/-- The success of a call and its changes are those of what it comes to. -/
theorem publishesOnce_of_plan {α : Type} {plan : Plan α} {call : Call} (h : engine.PublishesOnce plan)
    (hedits : engine.edits env call = plan.edits)
    (hsucceeded : (engine.call env call).1 = plan.result.isOk) :
    (engine.published env call).length ≤ 1 ∧
      ((engine.call env call).1 = false → engine.published env call = []) := by
  unfold published
  rw [hedits, hsucceeded]
  refine ⟨h.atMostOne, fun hfailed => ?_⟩
  rw [h.noneIfFailed hfailed]
  rfl

/-- A call publishes at most one snapshot, and none if it fails. -/
theorem length_published_call (hwf : engine.store.table.WellFormed) (env : Surroundings) (call : Call)
    (hcall : ∀ rules, call ≠ .createBatch rules) :
    (engine.published env call).length ≤ 1 ∧
      ((engine.call env call).1 = false → engine.published env call = []) := by
  cases call with
  | start =>
      exact publishesOnce_of_plan (engine.publishesOnce_reload env) rfl (isOk_withSize _)
  | stop => exact ⟨Nat.zero_le 1, fun _ => rfl⟩
  | create rule =>
      exact publishesOnce_of_plan (publishesOnce_ifRunning (engine.publishesOnce_create env rule)) rfl rfl
  | createBatch rules => exact absurd rfl (hcall rules)
  | update id changes =>
      exact publishesOnce_of_plan (publishesOnce_ifRunning (publishesOnce_update hwf env id changes)) rfl rfl
  | delete id =>
      exact publishesOnce_of_plan (publishesOnce_ifRunning (engine.publishesOnce_delete env id)) rfl rfl
  | toggle id =>
      exact publishesOnce_of_plan (publishesOnce_ifRunning (engine.publishesOnce_toggle env id)) rfl rfl
  | reload =>
      have hreload : engine.PublishesOnce (engine.ifRunning (Plan.reload env)) :=
        publishesOnce_ifRunning (engine.publishesOnce_reload env)
      exact publishesOnce_of_plan hreload rfl (isOk_withSize _)

/-- What was added to the index is found under its key. -/
theorem isSome_find?_of_add {rule : Rule} (henabled : rule.enabled = true) (index : Index) :
    ((index.apply (.add rule)).snapshot.byKey.find? rule.key).isSome = true := by
  have hadd : index.apply (.add rule) = index.add rule := rfl
  have hkey : (Matcher.compile rule index.cache).1.key = rule.key := rfl
  simp [hadd, Index.add, Index.adding, henabled, Index.publish, Index.Snapshot.insert, Dictionary.find?_insert, hkey]

/-- An update to an enabled version publishes just the snapshot with the revised rule. -/
theorem published_update (hwf : engine.store.table.WellFormed) {id : Int} {changes existing : Rule}
    (hfind : engine.store.table.find? id = some existing) (henabled : changes.enabled = true)
    (hsucceeded : (engine.call env (.update id changes)).1 = true) :
    ∃ snapshot, engine.published env (.update id changes) = [snapshot] ∧
      (snapshot.byKey.find? existing.key).isSome = true := by
  have hok : (engine.ifRunning (Plan.update env id changes)).result.isOk = true := hsucceeded
  rcases engine.ifRunning_cases (Plan.update env id changes) with heq | heq
  · rw [heq] at hok
    exact Bool.noConfusion hok
  · rcases Plan.update_revises hwf env id changes with
      ⟨error, after, hplan⟩ | ⟨found, after, hfound, hkey, hplan⟩
    · rw [heq, hplan] at hok
      exact Bool.noConfusion hok
    · obtain rfl : found = existing := Option.some.inj (hfound.symm.trans hfind)
      have hedits : engine.edits env (.update id changes) =
          [.add (Plan.revised found changes (env.clock 0))] := by
        change (engine.ifRunning (Plan.update env id changes)).edits = _
        rw [heq, hplan]
        simp [henabled]
      have hrevised : (Plan.revised found changes (env.clock 0)).enabled = true := henabled
      refine ⟨_, ?_, hkey ▸ isSome_find?_of_add hrevised engine.index⟩
      simp [published, hedits, Index.published, Index.publishes, hrevised]

/-- **Every call but that which creates several rules is seen at once**, whatever the index holds. -/
theorem call_seenAtOnce (env : Surroundings) (engine : Engine) (call : Call)
    (hwf : engine.store.table.WellFormed) (hcall : ∀ rules, call ≠ .createBatch rules) :
    engine.SeenAtOnce env call := by
  obtain ⟨hone, hnone⟩ := length_published_call hwf env call hcall
  refine ⟨hone, hnone, ?_, fun done hdone => ?_, ?_⟩
  · rw [index_call]
    exact Index.generation_foldl_apply engine.index (engine.edits env call)
  · rw [index_call]
    exact Index.snapshot_of_length_published_le_one hone hdone
  · rintro id changes existing rfl hfind henabled hsucceeded
    exact published_update hwf hfind henabled hsucceeded

/-- A store with one rule, which gets its key from its number. -/
def unkeyed : Store where
  table := { rows := [(1, { Rule.new "old" "GET" "/old" with id := some 1 })], lastId := 1 }

/-- Updating that rule in a running engine. -/
theorem call_seenAtOnce_unkeyed :
    let started := ((fresh unkeyed none []).start calm).2
    let call := Call.update 1 (Rule.new "new" "POST" "/new")
    (started.store.table.WellFormed ∧ ∀ rules, call ≠ .createBatch rules) ∧
      (started.call calm call).1 = true ∧ started.SeenAtOnce calm call := by
  intro started call
  have hrules : Store.ofRules [Rule.new "old" "GET" "/old"] = .ok unkeyed := rfl
  have hwf : started.store.table.WellFormed := (Store.Reachable.ofRules hrules).wellFormed
  exact ⟨⟨hwf, nofun⟩, rfl, call_seenAtOnce calm started call hwf nofun⟩

end Engine

end StubServer
