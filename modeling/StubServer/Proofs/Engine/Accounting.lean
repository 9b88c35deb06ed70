import StubServer.Proofs.Engine.Publication
import StubServer.Proofs.Matcher.Lookups
import StubServer.Proofs.Metrics

/-!
# What the counters add up to

What is counted while the engine runs agrees with what the engine is: the published snapshots add up to the
generation of the index, the entries are those of the index, and the hits and misses are those of the cache.
Requests and operations add up to what was answered and how the calls ended.

The cache counts each pattern that it is asked for and has it told to the metrics, and the index tells them of each
snapshot that it publishes. Both are done where they happen, and the counters grow by what they are told
(`Engine.total_edit`); that they agree in the end is what has to be proved. Calls change the index, and all of them but
starting and stopping are counted themselves (`Engine.metrics_call`).

## Main statements

* `Metrics.Reconciles.edit`, `Metrics.Reconciles.act`: one change of the index, and one act, keep the counters in
  agreement with the index.
* `Engine.total_observed`: a run adds to the other counters what is observed of it.
* `Engine.reconciles_after`: what the counters add up to after a run.
-/

namespace StubServer

open Index (Edit)
open Metrics (Counter Operation Outcome Report)
open Regex (Cache)

/-! ### Kinds of counters -/

namespace Metrics.Counter

/-- A counter of the published snapshots, in whatever way. -/
def isMutation : Counter → Bool
  | .mutations _ => true
  | _ => false

/-- A counter of requests with certain outcomes, whatever their method. -/
def isRequest (which : Outcome → Bool) : Counter → Bool
  | .requests _ outcome => which outcome
  | _ => false

variable {counter : Counter}

/-- Changes of the index add to no requests. -/
theorem isRequest_of_ofIndex (which : Outcome → Bool) (h : counter.ofIndex = true) :
    isRequest which counter = false := by
  cases counter with
  | mutations | lookups => rfl
  | requests | durations | operations => cases h

/-- Changes of the index add to no operations. -/
theorem operations_of_ofIndex (operation : Operation) (success : Bool) (h : counter.ofIndex = true) :
    (counter == .operations operation success) = false := by
  cases counter with
  | mutations | lookups => rfl
  | requests | durations | operations => cases h

end Metrics.Counter

/-! ### Changes of the index -/

/-- The reports on some requests to the cache that add to the counters of a kind. -/
theorem Metrics.countP_lookups (kind : Counter → Bool) (found : List Bool) :
    (found.map fun hit => Report.one (.lookups hit)).countP (·.adds kind) =
      (if kind (.lookups true) then found.count true else 0) +
        if kind (.lookups false) then found.count false else 0 := by
  induction found with
  | nil => simp
  | cons hit rest ih =>
      rw [List.map_cons, List.countP_cons, ih, Report.adds]
      cases hit with
      | true =>
          rw [List.count_cons_self, List.count_cons_of_ne (by decide)]
          cases kind (.lookups true) <;> simp only [Bool.false_eq_true, if_true, if_false] <;> omega
      | false =>
          rw [List.count_cons_self, List.count_cons_of_ne (by decide)]
          cases kind (.lookups false) <;> simp only [Bool.false_eq_true, if_true, if_false]; omega

namespace Engine

variable {engine : Engine} {kind : Counter → Bool}

/-- **A change of the index** adds what the index reports to the counters. -/
theorem total_edit (h : engine.metrics.Distinct) (kind : Counter → Bool) (change : Edit) :
    (engine.edit change).metrics.total kind =
      engine.metrics.total kind + (engine.index.change change).2.countP (·.adds kind) :=
  Metrics.total_foldl_record h kind _

/-- A change of the index leaves the other counters. -/
theorem total_edit_of_aside (h : engine.metrics.Distinct)
    (hkind : ∀ counter, counter.ofIndex = true → kind counter = false) (change : Edit) :
    (engine.edit change).metrics.total kind = engine.metrics.total kind := by
  rw [total_edit h, List.countP_eq_zero.mpr, Nat.add_zero]
  intro report hreport
  have hindex := engine.index.ofIndex_of_mem_change change report hreport
  cases report with
  | one counter => rw [Report.adds, hkind counter hindex]; exact Bool.false_ne_true
  | entries number => exact Bool.false_ne_true

end Engine

/-! ### Counters and the index -/

/-- The counters agree with an index: with the number of its snapshots, of its entries, and of the hits and misses of
its cache, all of which they were told. -/
structure Metrics.Reconciles (metrics : Metrics) (index : Index) : Prop where
  distinct : metrics.Distinct
  mutations : metrics.total Counter.isMutation = index.snapshot.generation
  entries : metrics.indexEntries = index.size
  lookups : ∀ hit, metrics.total (· == .lookups hit) = index.cache.counted hit
  untold : index.cache.untold = []

namespace Metrics

variable {metrics : Metrics} {index : Index} {engine : Engine}

/-- What has nothing to do with the index may be counted besides. -/
theorem Reconciles.count (h : metrics.Reconciles index) {counter : Counter} (hcounter : counter.ofIndex = false) :
    (metrics.count counter).Reconciles index := by
  have hsame : ∀ kind : Counter → Bool, kind counter = false →
      (metrics.count counter).total kind = metrics.total kind := fun kind hkind => by
    rw [total_count h.distinct, hkind]
    rfl
  refine ⟨h.distinct.count counter, (hsame _ ?_).trans h.mutations, h.entries,
    fun hit => (hsame _ ?_).trans (h.lookups hit), h.untold⟩ <;>
    cases counter <;> first | rfl | cases hcounter

/-- Requests to the cache do not tell the number of entries. -/
theorem indexEntries_foldl_record_lookups (found : List Bool) (metrics : Metrics) :
    ((found.map fun hit => Report.one (.lookups hit)).foldl record metrics).indexEntries = metrics.indexEntries := by
  induction found generalizing metrics with
  | nil => rfl
  | cons hit rest ih => exact ih _

/-- **A change of the index** keeps the counters in agreement with it. -/
theorem Reconciles.edit (h : engine.metrics.Reconciles engine.index) (change : Edit) :
    (engine.edit change).metrics.Reconciles (engine.edit change).index := by
  obtain ⟨patterns, hcache, hreports⟩ := engine.index.exists_asked_change h.untold change
  have htotal := fun kind => Engine.total_edit h.distinct kind change
  have hindex : (engine.edit change).index = engine.index.apply change := rfl
  simp only [hreports, List.countP_append, countP_lookups] at htotal
  refine ⟨h.distinct.foldl_record _, ?_, ?_, fun hit => ?_, ?_⟩
  · rw [htotal, h.mutations, hindex]
    cases hpublishes : engine.index.publishes change with
    | false => rw [Index.apply_of_not_publishes hpublishes]; rfl
    | true => rw [Index.generation_apply_of_publishes hpublishes]; rfl
  · have hmetrics : (engine.edit change).metrics = (engine.index.change change).2.foldl record engine.metrics := rfl
    rw [hmetrics, hindex, hreports, List.foldl_append]
    cases hpublishes : engine.index.publishes change with
    | false =>
        refine (indexEntries_foldl_record_lookups _ engine.metrics).trans (h.entries.trans ?_)
        exact congrArg Index.size (Index.apply_of_not_publishes hpublishes).symm
    | true => rfl
  · have hpublished : (if engine.index.publishes change then
        [Report.entries (engine.index.apply change).size, .one (.mutations change.mutation)] else []).countP
          (·.adds (· == .lookups hit)) = 0 := by
      split <;> rfl
    have hcounted : (engine.edit change).index.cache.counted hit =
        engine.index.cache.counted hit + (engine.index.cache.found patterns).count hit :=
      (congrArg (Cache.counted hit) hcache).trans (Cache.counted_asked hit patterns engine.index.cache)
    rw [htotal, h.lookups, hpublished, hcounted]
    cases hit <;> simp
  · exact congrArg Cache.untold hcache

/-- Several changes of the index keep the counters in agreement with it. -/
theorem Reconciles.foldl_edit (h : engine.metrics.Reconciles engine.index) (changes : List Edit) :
    (changes.foldl Engine.edit engine).metrics.Reconciles (changes.foldl Engine.edit engine).index := by
  induction changes generalizing engine with
  | nil => exact h
  | cons change rest ih => exact ih (h.edit change)

end Metrics

/-! ### Calls -/

namespace Engine

variable {engine : Engine} {kind : Counter → Bool}

/-- What a call is counted as. Starting and stopping are not counted. -/
def Call.operation? : Call → Option Operation
  | .create _ => some .create
  | .createBatch _ => some .createBatch
  | .update _ _ => some .update
  | .delete _ => some .delete
  | .toggle _ => some .toggle
  | .reload => some .reload
  | .start | .stop => none

/-- Changes of the index do not look at the store. -/
theorem foldl_edit_withStore (changes : List Edit) (engine : Engine) (store : Store) :
    changes.foldl edit { engine with store } = { changes.foldl edit engine with store } := by
  induction changes generalizing engine with
  | nil => rfl
  | cons change rest ih => exact ih (engine.edit change)

/-- Carrying out an operation counts what its changes of the index count. -/
theorem metrics_perform {α : Type} (plan : Plan α) (engine : Engine) :
    (engine.perform plan).2.metrics = (plan.edits.foldl edit engine).metrics :=
  (congrArg Engine.metrics (foldl_edit_withStore plan.edits engine plan.store)).trans rfl

/-- **A call** counts what its changes of the index count, and itself by whether it succeeds. -/
theorem metrics_call (env : Surroundings) (call : Call) (engine : Engine) :
    (engine.call env call).2.metrics =
      (call.operation?.elim id fun operation => Metrics.count (.operations operation (engine.call env call).1))
        ((engine.edits env call).foldl edit engine).metrics := by
  cases call with
  | start =>
      have hstart : (engine.start env).2.metrics = (engine.perform (Plan.reload env engine.store)).2.metrics :=
        (apply_ite Engine.metrics _ _ _).trans (ite_self _)
      exact hstart.trans (metrics_perform _ engine)
  | stop => rfl
  | create rule => exact congrArg (Metrics.count (.operations .create _)) (metrics_perform _ engine)
  | createBatch rules => exact congrArg (Metrics.count (.operations .createBatch _)) (metrics_perform _ engine)
  | update id changes => exact congrArg (Metrics.count (.operations .update _)) (metrics_perform _ engine)
  | delete id => exact congrArg (Metrics.count (.operations .delete _)) (metrics_perform _ engine)
  | toggle id => exact congrArg (Metrics.count (.operations .toggle _)) (metrics_perform _ engine)
  | reload => exact congrArg (Metrics.count (.operations .reload _)) (metrics_perform _ engine)

/-! ### Runs -/

/-- What an engine may be asked to do. -/
inductive Act where
  /-- A call. -/
  | call (step : Step)
  /-- A change of the index alone. -/
  | edit (change : Edit)
  /-- A request that is to be answered. -/
  | dispatch (now : Timestamp) (request : Request)

/-- Whether a request is to be answered. -/
def Act.isDispatch : Act → Bool
  | .dispatch _ _ => true
  | _ => false

/-- The engine after an act. -/
def act (engine : Engine) : Act → Engine
  | .call step => (engine.call step.env step.call).2
  | .edit change => engine.edit change
  | .dispatch now request => (engine.dispatch now request).2

/-- How a request is answered. -/
def outcome? (engine : Engine) : Act → Option Outcome
  | .dispatch now request => some (engine.dispatch now request).1.outcome
  | _ => none

/-- How an operation ends. -/
def ending? (engine : Engine) : Act → Option (Operation × Bool)
  | .call step => step.call.operation?.map fun operation => (operation, (engine.call step.env step.call).1)
  | _ => none

/-- What is observed during a run. -/
def observed {α : Type} (observe : Engine → Act → Option α) : List Act → Engine → List α
  | [], _ => []
  | act :: run, engine => (observe engine act).toList ++ observed observe run (engine.act act)

/-- What an act adds to, apart from what its changes of the index do. -/
def tallied (engine : Engine) : Act → List Counter
  | .call step =>
    (step.call.operation?.map fun operation =>
      Counter.operations operation (engine.call step.env step.call).1).toList
  | .edit _ => []
  | .dispatch now request =>
    let outcome := (engine.dispatch now request).1.outcome
    [.requests request.method outcome, .durations outcome]

end Engine

namespace Metrics

variable {engine : Engine}

/-- **An act** keeps the counters in agreement with the index. -/
theorem Reconciles.act (h : engine.metrics.Reconciles engine.index) (act : Engine.Act) :
    (engine.act act).metrics.Reconciles (engine.act act).index := by
  cases act with
  | call step =>
      have hedits := h.foldl_edit (engine.edits step.env step.call)
      rw [(Engine.foldl_edit _ engine).2.1, ← Engine.index_call] at hedits
      rw [Engine.act, Engine.metrics_call]
      cases step.call.operation? with
      | none => exact hedits
      | some operation => exact hedits.count rfl
  | edit change => exact h.edit change
  | dispatch now request => exact (h.count rfl).count rfl

/-- A run keeps the counters in agreement with the index. -/
theorem Reconciles.foldl_act (h : engine.metrics.Reconciles engine.index) (run : List Engine.Act) :
    (run.foldl Engine.act engine).metrics.Reconciles (run.foldl Engine.act engine).index := by
  induction run generalizing engine with
  | nil => exact h
  | cons act run ih => exact ih (h.act act)

end Metrics

namespace Engine

variable {engine : Engine} {kind : Counter → Bool}

/-- Several changes of the index leave the other counters. -/
theorem total_foldl_edit_of_aside (h : engine.metrics.Reconciles engine.index)
    (hkind : ∀ counter, counter.ofIndex = true → kind counter = false) (changes : List Edit) :
    (changes.foldl edit engine).metrics.total kind = engine.metrics.total kind := by
  induction changes generalizing engine with
  | nil => rfl
  | cons change rest ih => exact (ih (h.edit change)).trans (total_edit_of_aside h.distinct hkind change)

/-- What an act adds to the other counters. -/
theorem total_act (h : engine.metrics.Reconciles engine.index)
    (hkind : ∀ counter, counter.ofIndex = true → kind counter = false) (act : Act) :
    (engine.act act).metrics.total kind = engine.metrics.total kind + (engine.tallied act).countP kind := by
  cases act with
  | call step =>
      have hedits := h.foldl_edit (engine.edits step.env step.call)
      have htotal := total_foldl_edit_of_aside h hkind (engine.edits step.env step.call)
      rw [Engine.act, tallied, metrics_call]
      cases step.call.operation? with
      | none => exact htotal
      | some operation =>
          refine (Metrics.total_count hedits.distinct kind _).trans ?_
          rw [htotal, Option.map_some, Option.toList_some, List.countP_singleton]
  | edit change => exact total_edit_of_aside h.distinct hkind change
  | dispatch now request =>
      refine (Metrics.total_count (h.distinct.count _) kind _).trans ?_
      rw [Metrics.total_count h.distinct, Nat.add_assoc, tallied, List.countP_cons, List.countP_singleton,
        Nat.add_comm (ite _ _ _)]
      rfl

/-- **A run** adds to the other counters what is observed of it. -/
theorem total_observed {α : Type} {observe : Engine → Act → Option α} {kind' : α → Bool}
    (hobserve : ∀ engine act, (tallied engine act).countP kind = (observe engine act).toList.countP kind')
    (hkind : ∀ counter, counter.ofIndex = true → kind counter = false)
    (h : engine.metrics.Reconciles engine.index) (run : List Act) :
    (run.foldl act engine).metrics.total kind =
      engine.metrics.total kind + (engine.observed observe run).countP kind' := by
  induction run generalizing engine with
  | nil => rfl
  | cons act run ih =>
      rw [List.foldl_cons, ih (h.act act), total_act h hkind, hobserve, observed, List.countP_append, Nat.add_assoc]

/-- The requests that an act adds to. -/
theorem countP_tallied_request (which : Outcome → Bool) (engine : Engine) (act : Act) :
    (engine.tallied act).countP (Counter.isRequest which) = (engine.outcome? act).toList.countP which := by
  cases act with
  | call step =>
      rw [tallied]
      cases step.call.operation? <;> rfl
  | edit change => rfl
  | dispatch now request =>
      rw [tallied, outcome?, Option.toList_some, List.countP_singleton, List.countP_cons, List.countP_singleton]
      exact Nat.zero_add _

/-- The operations of a kind that an act adds to. -/
theorem countP_tallied_operation (operation : Operation) (success : Bool) (engine : Engine) (act : Act) :
    (engine.tallied act).countP (· == .operations operation success) =
      (engine.ending? act).toList.countP (· == (operation, success)) := by
  cases act with
  | call step =>
      rw [tallied, ending?]
      cases step.call.operation? with
      | none => rfl
      | some other => simp
  | edit change => rfl
  | dispatch now request => rfl

/-- Each request that is to be answered is answered in one way. -/
theorem length_observed_outcome (run : List Act) (engine : Engine) :
    (engine.observed outcome? run).length = run.countP Act.isDispatch := by
  induction run generalizing engine with
  | nil => rfl
  | cons act run ih =>
      rw [observed, List.length_append, ih, List.countP_cons, Nat.add_comm]
      cases act <;> rfl

/-- **What the counters add up to.** An engine that has counted nothing is asked to do whatever. Then the snapshots
that it counted are those of its index, and so are the entries; the hits and misses are those of the cache; the
requests are those that were to be answered, and those with each outcome the ones that were answered so; and the
operations of each kind are those that succeeded, or failed. -/
theorem reconciles_after (store : Store) (limit : Option Nat) (run : List Act) :
    let start := fresh store limit []
    let engine := run.foldl act start
    engine.metrics.total Counter.isMutation = engine.index.stats.generation ∧
    engine.metrics.indexEntries = engine.index.size ∧
    engine.metrics.value (.lookups true) = engine.index.cache.hits ∧
    engine.metrics.value (.lookups false) = engine.index.cache.misses ∧
    engine.metrics.total (Counter.isRequest fun _ => true) = run.countP Act.isDispatch ∧
    (∀ outcome, engine.metrics.total (Counter.isRequest (· == outcome)) =
      (start.observed outcome? run).count outcome) ∧
    ∀ operation success, engine.metrics.value (.operations operation success) =
      (start.observed ending? run).count (operation, success) := by
  intro start engine
  have hstart : start.metrics.Reconciles start.index := ⟨List.nodup_nil, rfl, rfl, fun hit => by cases hit <;> rfl, rfl⟩
  have h : engine.metrics.Reconciles engine.index := hstart.foldl_act run
  refine ⟨h.mutations, h.entries, ?_, ?_, ?_, fun outcome => ?_, fun operation success => ?_⟩
  · exact (Metrics.value_eq_total h.distinct _).trans (h.lookups true)
  · exact (Metrics.value_eq_total h.distinct _).trans (h.lookups false)
  · rw [total_observed (countP_tallied_request _) (fun _ => Counter.isRequest_of_ofIndex _) hstart,
      List.countP_true, length_observed_outcome]
    exact Nat.zero_add _
  · rw [total_observed (countP_tallied_request _) (fun _ => Counter.isRequest_of_ofIndex _) hstart]
    exact Nat.zero_add _
  · rw [Metrics.value_eq_total h.distinct, total_observed (countP_tallied_operation operation success)
      (fun _ => Counter.operations_of_ofIndex operation success) hstart]
    exact Nat.zero_add _

end Engine

end StubServer
