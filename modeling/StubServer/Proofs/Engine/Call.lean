import StubServer.Engine.Basic
import StubServer.Proofs.Engine.Plan
import StubServer.Proofs.Index.Serving

/-!
# The calls of the engine

The calls that start, stop or change the engine, and runs of them. Whatever a call meets, it has one of
four effects on the table and the index, the cases of `Engine.Effect`: it does nothing, it fills the
index from the table, it creates rules, or it replaces one rule.

## Main statements

* `Engine.call_effect`: every call has one of these effects.
* `Engine.Effect.wellFormed`: all of them keep tables well-formed.
* `Engine.index_of_fills`: what a start or a reload that succeeds does to table and index.
-/

namespace StubServer

open Index (Edit serving)

/-- Rules with the same identity have the same key. -/
theorem Rule.key_congr {a b : Rule} {id : Int} (hnumber : b.id = some id) (hid : a.id = b.id)
    (hkey : a.externalKey = b.externalKey) : a.key = b.key := by
  unfold Rule.key
  rw [hid, hkey, hnumber]
  cases b.externalKey <;> rfl

/-! ### Replacing one rule -/

namespace Table

/-- A stored rule is replaced by one with the same identity, or by none. -/
structure Replaces (table : Table) (id : Int) (existing : Rule) (replacement : Option Rule)
    (after : Table) : Prop where
  found : table.find? id = some existing
  rules : after.all.Perm (replacement.toList ++ table.apart id)
  wellFormed : after.WellFormed
  lastId : after.lastId = table.lastId
  sameId : ∀ saved ∈ replacement, saved.id = existing.id
  sameKey : ∀ saved ∈ replacement, saved.externalKey = existing.externalKey
  valid : ∀ saved ∈ replacement, existing.validate = .ok () → saved.validate = .ok ()

variable {table after : Table} {id : Int} {existing rule saved : Rule} {replacement : Option Rule}

/-- Saving a rule with the identity of a stored one replaces that. -/
theorem WellFormed.replaces_of_save (h : table.WellFormed) (hfind : table.find? id = some existing)
    (hsave : table.save rule = .ok (saved, after)) (hid : rule.id = existing.id)
    (hkey : rule.externalKey = existing.externalKey)
    (hvalid : existing.validate = .ok () → rule.validate = .ok ()) :
    saved = rule ∧ table.Replaces id existing (some rule) after := by
  obtain ⟨hmem, hexisting⟩ := h.find?_eq_some_iff.mp hfind
  have hnumber : rule.id = some id := hid.trans hexisting
  have hcontains : table.contains id = true := h.contains_iff.mpr ⟨existing, hmem, hexisting⟩
  rw [save_stored hnumber hcontains] at hsave
  obtain ⟨rfl, rfl⟩ := Prod.mk.inj (Except.ok.inj hsave)
  refine ⟨rfl, hfind, h.all_insertRow_perm id rule table.lastId, h.insertRow hnumber _, rfl, ?_, ?_, ?_⟩
  · simpa using hid
  · simpa using hkey
  · simpa using hvalid

/-- Deleting a stored rule replaces it by none. -/
theorem WellFormed.replaces_of_delete (h : table.WellFormed) (hfind : table.find? id = some existing) :
    table.Replaces id existing none (table.delete id).2 :=
  ⟨hfind, .of_eq (h.all_delete id), h.delete id, rfl, by simp, by simp, by simp⟩

/-- The rule that is replaced is stored under the number. -/
theorem Replaces.id_eq (h : table.Replaces id existing replacement after) (hwf : table.WellFormed) :
    existing.id = some id :=
  (hwf.find?_eq_some_iff.mp h.found).2

/-- The replacement has the key of the rule that is replaced. -/
theorem Replaces.key_eq (h : table.Replaces id existing replacement after) (hwf : table.WellFormed) :
    ∀ saved ∈ replacement, saved.key = existing.key :=
  fun saved hsaved => Rule.key_congr (h.id_eq hwf) (h.sameId saved hsaved) (h.sameKey saved hsaved)

end Table

namespace Engine

/-! ### Calls -/

/-- A call that starts, stops or changes the engine. -/
inductive Call where
  | start
  | stop
  | create (rule : Rule)
  | createBatch (rules : List Rule)
  | update (id : Int) (changes : Rule)
  | delete (id : Int)
  | toggle (id : Int)
  | reload

/-- The rules that are to be created. -/
def Call.brought : Call → List Rule
  | .create rule => [rule]
  | .createBatch rules => rules
  | _ => []

/-- The number of the rule that is to be changed. -/
def Call.target? : Call → Option Int
  | .update id _ | .delete id | .toggle id => some id
  | _ => none

/-- Whether the index is to be filled from the store. -/
def Call.fills : Call → Bool
  | .start | .reload => true
  | _ => false

/-- Whether rules are to be created. -/
def Call.creates : Call → Bool
  | .create _ | .createBatch _ => true
  | _ => false

/-- The keys that are drawn during the call are not stored when they are drawn. -/
def Call.DrawsFresh (env : Surroundings) (table : Table) : Call → Prop
  | .create rule => Plan.DrawsFresh env 0 table.all rule
  | .createBatch rules => Plan.DrawsFreshEach env 0 table.all rules
  | _ => True

/-- Whether a call succeeded, and the engine after it. -/
def reported {α : Type} (done : Except EngineError α × Engine) : Bool × Engine :=
  (done.1.isOk, done.2)

/-- Whether a call succeeds, and the engine after it. -/
def call (env : Surroundings) (engine : Engine) : Call → Bool × Engine
  | .start => reported (engine.start env)
  | .stop => (true, engine.stop)
  | .create rule => reported (engine.create env rule)
  | .createBatch rules => reported (engine.createBatch env rules)
  | .update id changes => reported (engine.update env id changes)
  | .delete id => reported (engine.delete env id)
  | .toggle id => reported (engine.toggle env id)
  | .reload => reported (engine.reload env)

/-- Surroundings in which nothing goes wrong. -/
def calm : Surroundings where
  clock := fun _ => default
  freshKey := fun _ => ""

/-- A call and what it meets. -/
structure Step where
  env : Surroundings
  call : Call

/-- The engine after a run of calls. -/
def after (engine : Engine) (run : List Step) : Engine :=
  run.foldl (fun engine step => (engine.call step.env step.call).2) engine

/-- The keys that are drawn during a run are not stored when they are drawn. -/
def DrawsFresh : Engine → List Step → Prop
  | _, [] => True
  | engine, step :: rest =>
    step.call.DrawsFresh step.env engine.store.table ∧
      DrawsFresh (engine.call step.env step.call).2 rest

/-- An engine that was not started yet, with an index that was never used. -/
def fresh (store : Store) (limit : Option Nat) (uses : List Regex.Cache.Use) : Engine :=
  { store, index := Index.fresh limit uses }

variable {engine : Engine} {run more : List Step}

/-- One run after another. -/
theorem after_append (engine : Engine) (run more : List Step) :
    engine.after (run ++ more) = (engine.after run).after more :=
  List.foldl_append

/-- Keys that are new during a run are so during the one part and then during the other. -/
theorem drawsFresh_append :
    engine.DrawsFresh (run ++ more) ↔ engine.DrawsFresh run ∧ (engine.after run).DrawsFresh more := by
  induction run generalizing engine with
  | nil => simp [DrawsFresh, after]
  | cons step rest ih =>
      rw [List.cons_append, DrawsFresh, DrawsFresh, ih, and_assoc]
      rfl

/-! ### What a call does -/

/-- What a call does to the table and to the index. -/
inductive Effect (table : Table) : Call → (succeeded : Bool) → Table → List Edit → Prop
  /-- Nothing, and only stopping succeeds that way. -/
  | kept {call : Call} {succeeded : Bool} (h : succeeded = true → call = .stop) :
      Effect table call succeeded table []
  /-- The index is filled from the table. -/
  | filled {call : Call} (hfills : call.fills = true) :
      Effect table call true table [.reload table.all]
  /-- Some of the rules that were brought are created. -/
  | created {call : Call} {succeeded : Bool} {created : List Rule} {after : Table}
      (hcreates : call.creates = true) (h : Plan.Creates table.all call.brought table created after) :
      Effect table call succeeded after (created.map .add)
  /-- One rule is replaced, in the table and under its key in the index. -/
  | replaced {call : Call} {id : Int} {existing : Rule} {replacement : Option Rule} {after : Table}
      {edits : List Edit} (htarget : call.target? = some id)
      (hdelete : call = .delete id → replacement = none) (h : table.Replaces id existing replacement after)
      (hserving : ∀ served, edits.foldl serving served =
        served.filter (fun rule => rule.key != existing.key) ++ replacement.toList.filter Rule.enabled)
      (hkey : ∀ edit ∈ edits, edit.key? = some existing.key) :
      Effect table call true after edits

/-- Every effect keeps tables well-formed. -/
theorem Effect.wellFormed {table next : Table} {call : Call} {succeeded : Bool} {edits : List Edit}
    (h : Effect table call succeeded next edits) (hwf : table.WellFormed) : next.WellFormed := by
  cases h with
  | kept h => exact hwf
  | filled hfills => exact hwf
  | created hcreates h => exact h.wellFormed hwf
  | replaced htarget hdelete h hserving hkey => exact h.wellFormed

/-- What is to fill the index does so if it succeeds. -/
theorem Effect.eq_of_fills {table next : Table} {call : Call} {edits : List Edit}
    (h : Effect table call true next edits) (hfills : call.fills = true) :
    next = table ∧ edits = [.reload table.all] := by
  cases h with
  | kept h =>
      rw [h rfl] at hfills
      exact absurd hfills Bool.false_ne_true
  | filled hfills => exact ⟨rfl, rfl⟩
  | created hcreates h => cases call <;> simp [Call.fills, Call.creates] at hfills hcreates
  | replaced htarget hdelete h hserving hkey =>
      cases call <;> simp [Call.fills, Call.target?] at hfills htarget

/-! ### Carrying out -/

/-- Changes of the index change only the index and what is counted. -/
theorem foldl_edit (edits : List Edit) (engine : Engine) :
    (edits.foldl edit engine).store = engine.store ∧
      (edits.foldl edit engine).index = edits.foldl Index.apply engine.index ∧
      (edits.foldl edit engine).running = engine.running := by
  induction edits generalizing engine with
  | nil => exact ⟨rfl, rfl, rfl⟩
  | cons change rest ih => exact ih (engine.edit change)

/-- What needs a running engine is refused or gone on with. -/
theorem ifRunning_cases {α : Type} (engine : Engine) (plan : Store → Plan α) :
    engine.ifRunning plan = Plan.fail .notRunning engine.store ∨
      engine.ifRunning plan = plan engine.store := by
  unfold ifRunning
  split
  · exact .inr rfl
  · exact .inl rfl

/-- What needs a running engine and succeeds was gone on with. -/
theorem ifRunning_eq_of_ok {α : Type} {next : Store → Plan α} {result : α}
    (hok : (engine.ifRunning next).result = .ok result) :
    engine.ifRunning next = next engine.store ∧ (next engine.store).result = .ok result := by
  rcases engine.ifRunning_cases next with heq | heq
  · rw [heq] at hok
    cases hok
  · exact ⟨heq, heq ▸ hok⟩

/-- What needs a running engine and succeeds had one. -/
theorem running_of_ok {α : Type} {next : Store → Plan α} {result : α}
    (hok : (engine.ifRunning next).result = .ok result) : engine.running = true := by
  unfold ifRunning at hok
  split at hok
  · assumption
  · cases hok

/-- Giving the number of served rules does not change whether something succeeded. -/
theorem isOk_withSize (done : Except EngineError Unit × Engine) :
    (withSize done).1.isOk = done.1.isOk := by
  obtain ⟨result, engine⟩ := done
  cases result <;> rfl

/-- What a call comes to has an effect. -/
def HasEffect {α : Type} (engine : Engine) (call : Call) (plan : Plan α) : Prop :=
  Effect engine.store.table call plan.result.isOk plan.store.table plan.edits

/-- What carrying out a plan does is what the plan says. -/
theorem HasEffect.exists_edits {α : Type} {call : Call} {done : Bool × Engine} {plan : Plan α}
    (h : engine.HasEffect call plan) (hsucceeded : done.1 = plan.result.isOk)
    (hstore : done.2.store = (engine.perform plan).2.store)
    (hindex : done.2.index = (engine.perform plan).2.index) :
    ∃ edits, Effect engine.store.table call done.1 done.2.store.table edits ∧
      done.2.index = edits.foldl Index.apply engine.index := by
  obtain ⟨hperformed, hchanged, -⟩ := foldl_edit plan.edits { engine with store := plan.store }
  refine ⟨plan.edits, ?_, hindex.trans hchanged⟩
  rw [hsucceeded, hstore]
  exact hperformed ▸ h

/-! ### The effect of each call -/

section Effects

variable (engine) (env : Surroundings)

/-- What fails and leaves the table alone does nothing. -/
theorem effect_of_fail {α : Type} {plan : Plan α} {call : Call} {error : EngineError} {after : Store}
    (hplan : plan = Plan.fail error after) (hafter : after.table = engine.store.table) :
    engine.HasEffect call plan := by
  subst hplan
  unfold HasEffect
  simp only [Plan.fail, hafter]
  exact .kept (by simp [Except.isOk, Except.toBool])

/-- Reading all rules fills the index from the table. -/
theorem effect_reload {call : Call} (hfills : call.fills = true) :
    engine.HasEffect call (Plan.reload env engine.store) := by
  rcases Plan.reload_cases env engine.store with ⟨error, heq⟩ | heq
  · exact effect_of_fail engine heq rfl
  · rw [heq]
    exact .filled hfills

/-- Creating a rule creates it or does nothing. -/
theorem effect_create (rule : Rule) (hfresh : Plan.DrawsFresh env 0 engine.store.table.all rule) :
    engine.HasEffect (.create rule) (Plan.create env rule engine.store) := by
  obtain ⟨created, hcreates, hedits⟩ := Plan.create_creates env rule engine.store hfresh
  rw [HasEffect, hedits]
  exact .created rfl hcreates

/-- Creating several rules creates some of them. -/
theorem effect_createBatch (rules : List Rule)
    (hfresh : Plan.DrawsFreshEach env 0 engine.store.table.all rules) :
    engine.HasEffect (.createBatch rules) (Plan.createBatch env rules engine.store) := by
  obtain ⟨created, hcreates, hedits⟩ := Plan.createBatch_creates env rules engine.store hfresh
  rw [HasEffect, hedits]
  exact .created rfl hcreates

/-- Updating replaces a rule by the revised one. -/
theorem effect_update (hwf : engine.store.table.WellFormed) (id : Int) (changes : Rule) :
    engine.HasEffect (.update id changes) (Plan.update env id changes engine.store) := by
  rcases Plan.update_cases env id changes engine.store with
    ⟨error, after, heq, htable⟩ | ⟨existing, saved, after, hfind, hvalid, hsave, heq⟩
  · exact effect_of_fail engine heq htable
  · obtain ⟨rfl, hreplaces⟩ := hwf.replaces_of_save hfind hsave rfl rfl fun _ => hvalid
    have hkey := hreplaces.key_eq hwf _ rfl
    rw [heq]
    refine .replaced rfl nofun hreplaces (fun served => ?_) ?_
    · cases henabled : (Plan.revised existing changes (env.clock 0)).enabled <;>
        simp [henabled, hkey, serving, Index.enlist]
    · cases (Plan.revised existing changes (env.clock 0)).enabled <;> simp [Edit.key?, hkey]

/-- Toggling replaces a rule by the toggled one. -/
theorem effect_toggle (hwf : engine.store.table.WellFormed) (id : Int) :
    engine.HasEffect (.toggle id) (Plan.toggle env id engine.store) := by
  rcases Plan.toggle_cases env id engine.store with
    ⟨error, after, heq, htable⟩ | ⟨existing, saved, after, hfind, hsave, heq⟩
  · exact effect_of_fail engine heq htable
  · obtain ⟨rfl, hreplaces⟩ := hwf.replaces_of_save hfind hsave rfl rfl fun hvalid => hvalid
    have hkey := hreplaces.key_eq hwf _ rfl
    rw [heq]
    refine .replaced rfl nofun hreplaces (fun served => ?_) ?_
    · cases henabled : (Plan.toggled existing (env.clock 0)).enabled <;>
        simp [henabled, hkey, serving, Index.enlist]
    · cases (Plan.toggled existing (env.clock 0)).enabled <;> simp [Edit.key?, hkey]

/-- Deleting replaces a rule by none. -/
theorem effect_delete (hwf : engine.store.table.WellFormed) (id : Int) :
    engine.HasEffect (.delete id) (Plan.delete env id engine.store) := by
  rcases Plan.delete_cases env id engine.store with
    ⟨error, after, heq, htable⟩ | ⟨existing, after, hfind, htable, heq⟩
  · exact effect_of_fail engine heq htable
  · have hreplaces := hwf.replaces_of_delete hfind
    rw [heq, HasEffect]
    simp only [htable]
    exact .replaced rfl (fun _ => rfl) hreplaces (fun served => by simp [serving]) (by simp [Edit.key?])

/-- What needs a running engine has its effect, or none. -/
theorem effect_ifRunning {α : Type} {call : Call} {plan : Store → Plan α}
    (h : engine.HasEffect call (plan engine.store)) :
    engine.HasEffect call (engine.ifRunning plan) := by
  rcases engine.ifRunning_cases plan with heq | heq
  · exact effect_of_fail engine heq rfl
  · rwa [heq]

/-- **Every call** has one of the four effects. -/
theorem call_effect (call : Call) (hwf : engine.store.table.WellFormed)
    (hfresh : call.DrawsFresh env engine.store.table) :
    ∃ edits, Effect engine.store.table call (engine.call env call).1
        (engine.call env call).2.store.table edits ∧
      (engine.call env call).2.index = edits.foldl Index.apply engine.index := by
  cases call with
  | start =>
      refine (effect_reload engine env rfl).exists_edits (isOk_withSize _) ?_ ?_
      · exact (apply_ite (fun done : Engine => done.store) _ _ _).trans (ite_self _)
      · exact (apply_ite (fun done : Engine => done.index) _ _ _).trans (ite_self _)
  | stop => exact ⟨[], .kept fun _ => rfl, rfl⟩
  | create rule =>
      exact (effect_ifRunning engine (effect_create engine env rule hfresh)).exists_edits rfl rfl rfl
  | createBatch rules =>
      have heffect := effect_ifRunning engine (effect_createBatch engine env rules hfresh)
      rcases Plan.withAllValid_cases rules engine.store (engine.ifRunning (Plan.createBatch env rules))
        with ⟨problems, heq⟩ | heq
      · exact (effect_of_fail engine heq rfl).exists_edits rfl rfl rfl
      · rw [← heq] at heffect
        exact heffect.exists_edits rfl rfl rfl
  | update id changes =>
      exact (effect_ifRunning engine (effect_update engine env hwf id changes)).exists_edits rfl rfl rfl
  | delete id =>
      exact (effect_ifRunning engine (effect_delete engine env hwf id)).exists_edits rfl rfl rfl
  | toggle id =>
      exact (effect_ifRunning engine (effect_toggle engine env hwf id)).exists_edits rfl rfl rfl
  | reload =>
      have heffect : engine.HasEffect .reload (engine.ifRunning (Plan.reload env)) :=
        effect_ifRunning engine (effect_reload engine env rfl)
      exact heffect.exists_edits (isOk_withSize _) rfl rfl

end Effects

/-! ### Filling the index -/

variable {env : Surroundings} {call : Call}

/-- A call that is to fill the index draws no keys. -/
theorem Call.drawsFresh_of_fills (h : call.fills = true) (env : Surroundings)
    (table : Table) : call.DrawsFresh env table := by
  cases call <;> trivial

/-- **What fills the index** reloads it with all rules of the store, which stay as they are. -/
theorem index_of_fills (hfills : call.fills = true) (hwf : engine.store.table.WellFormed)
    (hok : (engine.call env call).1 = true) :
    (engine.call env call).2.store.table = engine.store.table ∧
      (engine.call env call).2.index = engine.index.reload engine.store.table.all := by
  obtain ⟨edits, heffect, hindex⟩ :=
    engine.call_effect env call hwf (Call.drawsFresh_of_fills hfills env engine.store.table)
  rw [hok] at heffect
  obtain ⟨htable, rfl⟩ := heffect.eq_of_fills hfills
  exact ⟨htable, hindex⟩

end Engine

end StubServer
