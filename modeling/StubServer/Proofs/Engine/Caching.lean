import StubServer.Dispatch
import StubServer.Proofs.Engine.Publication

/-!
# The cache is not seen

What patterns compiled to is kept, and whether it is kept, how much of it and since when makes no difference to
what is answered. Two engines that differ in their caches are *twins*, and stay twins whatever is done to both of
them. What only the cache takes notice of may happen to one of them alone.

Nothing is assumed of the engines, nor of their indexes. The counters of hits and misses tell the caches
apart, so what is counted is not compared.

## Main statements

* `Index.Twins.apply`: a change of both indexes.
* `Engine.Twins.call`: a call of both engines.
* `Engine.Twins.happen`, `Engine.Twins.happen_aside`: one event, for both or for one.
* `Engine.answers_alike`: the limits of two caches, their histories and what else is compiled are not seen.
-/

namespace StubServer

open Regex (Cache compile? anchored)

/-! ### Indexes -/

namespace Index

/-- Two indexes that may differ in their caches, neither of which gives wrong answers. -/
structure Twins (a b : Index) : Prop where
  snapshot : a.snapshot = b.snapshot
  sequence : a.sequence = b.sequence
  sound : a.cache.Sound
  sound' : b.cache.Sound

variable {a b c : Index}

/-- Being twins goes both ways. -/
theorem Twins.symm (h : a.Twins b) : b.Twins a :=
  ⟨h.snapshot.symm, h.sequence.symm, h.sound', h.sound⟩

/-- Twins of the same index are twins. -/
theorem Twins.trans (h : a.Twins b) (h' : b.Twins c) : a.Twins c :=
  ⟨h.snapshot.trans h'.snapshot, h.sequence.trans h'.sequence, h.sound, h'.sound'⟩

/-- Adding a rule to both. -/
theorem Twins.add (h : a.Twins b) (rule : Rule) : (a.add rule).Twins (b.add rule) := by
  obtain ⟨hmatcher, hsound⟩ := Matcher.compile_of_sound rule h.sound
  obtain ⟨hmatcher', hsound'⟩ := Matcher.compile_of_sound rule h.sound'
  unfold Index.add adding
  cases rule.enabled with
  | false => exact h
  | true =>
      refine ⟨?_, congrArg (· + 1) h.sequence, hsound, hsound'⟩
      simp [publish, hmatcher, hmatcher', h.snapshot, h.sequence]

/-- Removing a key from both. -/
theorem Twins.remove (h : a.Twins b) (key : String) : (a.remove key).Twins (b.remove key) := by
  have hcontains : b.contains key = a.contains key := by
    rw [contains, contains, h.snapshot]
  unfold Index.remove removing
  rw [hcontains]
  split
  · exact ⟨by simp [publish, h.snapshot], h.sequence, h.sound, h.sound'⟩
  · exact h

/-- Reloading both. -/
theorem Twins.reload (h : a.Twins b) (rules : List Rule) : (a.reload rules).Twins (b.reload rules) := by
  obtain ⟨hmatchers, hsound⟩ := compileAll_of_sound (rules.filter Rule.enabled) h.sound
  obtain ⟨hmatchers', hsound'⟩ := compileAll_of_sound (rules.filter Rule.enabled) h.sound'
  unfold Index.reload reloading
  simp only [hmatchers, hmatchers', h.snapshot, h.sequence]
  exact ⟨rfl, rfl, hsound, hsound'⟩

/-- **A change** of both. -/
theorem Twins.apply (h : a.Twins b) (edit : Edit) : (a.apply edit).Twins (b.apply edit) := by
  cases edit with
  | add rule => exact h.add rule
  | remove key => exact h.remove key
  | reload rules => exact h.reload rules

/-- Several changes of both. -/
theorem Twins.foldl_apply (h : a.Twins b) (edits : List Edit) :
    (edits.foldl Index.apply a).Twins (edits.foldl Index.apply b) := by
  induction edits generalizing a b with
  | nil => exact h
  | cons edit rest ih => exact ih (h.apply edit)

/-- Both find the same. -/
theorem Twins.lookup?_eq (h : a.Twins b) (request : Request) : a.lookup? request = b.lookup? request := by
  rw [lookup?, lookup?, h.snapshot]

end Index

/-! ### Engines -/

namespace Engine

/-- Two engines that may differ in the caches of their indexes, and in what they counted. -/
structure Twins (a b : Engine) : Prop where
  store : a.store = b.store
  running : a.running = b.running
  index : a.index.Twins b.index

/-- The engine with another cache. -/
def withCache (engine : Engine) (cache : Cache) : Engine :=
  { engine with index := { engine.index with cache } }

variable {α : Type} {a b c : Engine}

/-- Being twins goes both ways. -/
theorem Twins.symm (h : a.Twins b) : b.Twins a :=
  ⟨h.store.symm, h.running.symm, h.index.symm⟩

/-- Twins of the same engine are twins. -/
theorem Twins.trans (h : a.Twins b) (h' : b.Twins c) : a.Twins c :=
  ⟨h.store.trans h'.store, h.running.trans h'.running, h.index.trans h'.index⟩

/-- Other caches in their places. -/
theorem twins_withCache (engine : Engine) {cache other : Cache} (h : cache.Sound) (h' : other.Sound) :
    (engine.withCache cache).Twins (engine.withCache other) :=
  ⟨rfl, rfl, rfl, rfl, h, h'⟩

/-- Another cache in the place of the one. -/
theorem Twins.withCache (h : a.Twins b) {cache : Cache} (hcache : cache.Sound) : (a.withCache cache).Twins b :=
  ⟨h.store, h.running, h.index.snapshot, h.index.sequence, hcache, h.index.sound'⟩

/-- Both give the same response. -/
theorem Twins.dispatch_eq (h : a.Twins b) (now : Timestamp) (request : Request) :
    (a.dispatch now request).1 = (b.dispatch now request).1 := by
  simp only [dispatch, respond, h.running, h.index.lookup?_eq request]

/-! ### Calls -/

/-- The same came of two operations, and the engines after them are twins. -/
structure EndTwins (done done' : Except EngineError α × Engine) : Prop where
  result : done.1 = done'.1
  engine : done.2.Twins done'.2

/-- What needs a running engine comes to the same. -/
theorem Twins.ifRunning_eq (h : a.Twins b) (next : Store → Plan α) : a.ifRunning next = b.ifRunning next := by
  rw [ifRunning, ifRunning, h.running, h.store]

/-- Carrying out the same. -/
theorem Twins.perform (h : a.Twins b) {plan plan' : Plan α} (hplan : plan = plan') :
    EndTwins (a.perform plan) (b.perform plan') := by
  subst hplan
  refine ⟨rfl, (store_perform a plan).trans (store_perform b plan).symm, ?_, ?_⟩
  · rw [running_perform, running_perform, h.running]
  · rw [index_perform, index_perform]
    exact h.index.foldl_apply plan.edits

/-- Counting an operation leaves twins. -/
theorem EndTwins.counted {done done' : Except EngineError α × Engine} (h : EndTwins done done')
    (operation : Metrics.Operation) : EndTwins (counted operation done) (counted operation done') :=
  ⟨h.result, h.engine.store, h.engine.running, h.engine.index⟩

/-- The numbers of served rules are the same. -/
theorem EndTwins.withSize {done done' : Except EngineError Unit × Engine} (h : EndTwins done done') :
    EndTwins (withSize done) (withSize done') := by
  have hsize : done.2.index.size = done'.2.index.size := by
    rw [Index.size, Index.size, h.engine.index.snapshot]
  exact ⟨by simp only [Engine.withSize, h.result, hsize], h.engine⟩

/-- Starting both. -/
theorem Twins.start (h : a.Twins b) (env : Surroundings) : EndTwins (a.start env) (b.start env) := by
  have hplan : Plan.reload env a.store = Plan.reload env b.store := by rw [h.store]
  have hdone := (h.perform hplan).withSize
  refine ⟨hdone.result, ?_⟩
  simp only [Engine.start, hdone.result]
  split
  · exact ⟨hdone.engine.store, rfl, hdone.engine.index⟩
  · exact hdone.engine

/-- Whether both succeeded, and the engines after it. -/
theorem EndTwins.reported {done done' : Except EngineError α × Engine} (h : EndTwins done done') :
    (reported done).1 = (reported done').1 ∧ (reported done).2.Twins (reported done').2 :=
  ⟨congrArg Except.isOk h.result, h.engine⟩

/-- **A call** of both succeeds or fails for both, and leaves twins. -/
theorem Twins.call (h : a.Twins b) (env : Surroundings) (call : Call) :
    (a.call env call).1 = (b.call env call).1 ∧ (a.call env call).2.Twins (b.call env call).2 := by
  cases call with
  | start => exact (h.start env).reported
  | stop => exact ⟨rfl, h.store, rfl, h.index⟩
  | create rule => exact ((h.perform (h.ifRunning_eq _)).counted .create).reported
  | createBatch rules =>
      have hplan : Plan.withAllValid rules a.store (a.ifRunning (Plan.createBatch env rules)) =
          Plan.withAllValid rules b.store (b.ifRunning (Plan.createBatch env rules)) := by
        rw [h.store, h.ifRunning_eq]
      exact ((h.perform hplan).counted .createBatch).reported
  | update id changes => exact ((h.perform (h.ifRunning_eq _)).counted .update).reported
  | delete id => exact ((h.perform (h.ifRunning_eq _)).counted .delete).reported
  | toggle id => exact ((h.perform (h.ifRunning_eq _)).counted .toggle).reported
  | reload => exact ((h.perform (h.ifRunning_eq _)).withSize.counted .reload).reported

/-! ### Events -/

/-- What may happen to an engine. -/
inductive Event where
  /-- A call. -/
  | call (step : Step)
  /-- A change of the index alone. -/
  | edit (change : Index.Edit)
  /-- Some rule is compiled, and not put into the index. -/
  | compile (rule : Rule)
  /-- Something else is asked of the cache. -/
  | use (use : Cache.Use)

/-- Whether an event is for the engine, and not for its cache alone. -/
def Event.isOwn : Event → Bool
  | .call _ | .edit _ => true
  | .compile _ | .use _ => false

/-- The engine after an event. -/
def happen (engine : Engine) : Event → Engine
  | .call step => (engine.call step.env step.call).2
  | .edit change => engine.edit change
  | .compile rule => engine.withCache (Matcher.compile rule engine.index.cache).2
  | .use use => engine.withCache (engine.index.cache.use use)

/-- **An event for both** leaves twins. -/
theorem Twins.happen (h : a.Twins b) {event : Event} (hown : event.isOwn = true) :
    (a.happen event).Twins (b.happen event) := by
  cases event with
  | call step => exact (h.call step.env step.call).2
  | edit change => exact ⟨h.store, h.running, h.index.apply change⟩
  | compile rule => cases hown
  | use use => cases hown

/-- **An event for the cache of the one** leaves twins. -/
theorem Twins.happen_aside (h : a.Twins b) {event : Event} (hown : event.isOwn = false) :
    (a.happen event).Twins b := by
  cases event with
  | call step => cases hown
  | edit change => cases hown
  | compile rule => exact h.withCache (Matcher.compile_of_sound rule h.index.sound).2
  | use use => exact h.withCache (h.index.sound.use use)

/-- Whatever happens, leaving out the events for the cache leaves twins. -/
theorem Twins.foldl_happen (h : a.Twins b) (events : List Event) :
    (events.foldl Engine.happen a).Twins ((events.filter Event.isOwn).foldl Engine.happen b) := by
  induction events generalizing a b with
  | nil => exact h
  | cons event rest ih =>
      cases hown : event.isOwn with
      | true =>
          rw [List.filter_cons_of_pos hown]
          exact ih (h.happen hown)
      | false =>
          rw [List.filter_cons_of_neg (ne_true_of_eq_false hown)]
          exact ih (h.happen_aside hown)

/-- **Caches are not seen.** Whatever a cache was asked for before, and however few entries it may have, it gives
for a pattern what that compiles to. So if two engines differ in their caches, and the same happens to both but
for what is asked of the caches and which rules are compiled besides, then they hold the same, find the same rule
for a request, give the same response to it, and a call succeeds for both or for none. -/
theorem answers_alike :
    (∀ (limit : Option Nat) (uses : List Cache.Use) (pattern : String),
      ((Cache.after limit uses).get pattern).1 = compile? pattern ∧
      ((Cache.after limit uses).getFull pattern).1 = compile? (anchored pattern)) ∧
    ∀ (engine : Engine) (limit limit' : Option Nat) (uses uses' : List Cache.Use) (events events' : List Event),
      events.filter Event.isOwn = events'.filter Event.isOwn →
      let a := events.foldl happen (engine.withCache (.after limit uses))
      let b := events'.foldl happen (engine.withCache (.after limit' uses'))
      a.store = b.store ∧ a.running = b.running ∧ a.index.snapshot = b.index.snapshot ∧
      (∀ request, a.index.lookup? request = b.index.lookup? request) ∧
      (∀ now request, (a.dispatch now request).1 = (b.dispatch now request).1) ∧
      ∀ env call, (a.call env call).1 = (b.call env call).1 := by
  refine ⟨fun limit uses pattern => ?_, fun engine limit limit' uses uses' events events' hevents => ?_⟩
  · have hsound := Cache.sound_after limit uses
    exact ⟨hsound.get_eq pattern, hsound.get_eq (anchored pattern)⟩
  · intro a b
    have hsound := Cache.sound_after limit uses
    have hsound' := Cache.sound_after limit' uses'
    -- Both are twins of an engine to which only the common events happen.
    have ha := (engine.twins_withCache hsound hsound).foldl_happen events
    have hb := (engine.twins_withCache hsound' hsound).foldl_happen events'
    have h : a.Twins b := ha.trans (hevents ▸ hb.symm)
    exact ⟨h.store, h.running, h.index.snapshot, h.index.lookup?_eq, h.dispatch_eq,
      fun env call => (h.call env call).1⟩

/-- A rule with a regular expression. -/
def patterned : Rule :=
  { Rule.new "greeting" "GET" "/gr[a-z]+" with urlMatch := .regex }

/-- A start, and the creation of that rule. -/
def onlyOwn : List Event :=
  [.call ⟨calm, .start⟩, .call ⟨calm, .create patterned⟩]

/-- The same, and some use of the cache. -/
def withAsides : List Event :=
  [.use (.get "("), .call ⟨calm, .start⟩, .compile patterned, .call ⟨calm, .create patterned⟩, .use .clear]

/-- A cache that may hold nothing and one that was used and cleared find the same rule. -/
theorem answers_alike_patterned :
    let start : Engine := { store := {} }
    let a := onlyOwn.foldl happen (start.withCache (.after (some 0) [.get "a+"]))
    let b := withAsides.foldl happen (start.withCache (.after none []))
    let request := Request.received "GET" "/greeting" [] ""
    onlyOwn.filter Event.isOwn = withAsides.filter Event.isOwn ∧
      (a.dispatch default request).1.outcome = .matched ∧
      (a.dispatch default request).1 = (b.dispatch default request).1 := by
  intro start a b request
  have hevents : onlyOwn.filter Event.isOwn = withAsides.filter Event.isOwn := rfl
  have hmatched : (a.dispatch default request).1.outcome = .matched := by decide +kernel
  obtain ⟨-, -, -, -, hdispatch, -⟩ :=
    answers_alike.2 start (some 0) none [.get "a+"] [] onlyOwn withAsides hevents
  exact ⟨hevents, hmatched, hdispatch default request⟩

end Engine

end StubServer
