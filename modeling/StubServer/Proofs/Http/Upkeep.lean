import StubServer.Proofs.Engine.Fitness
import StubServer.Proofs.Engine.WriteThrough
import StubServer.Proofs.Http.Administration
import StubServer.Proofs.Rule.Reading

/-!
# What requests keep

From an empty store on, whatever requests are received and whatever fails of them, the stored rules are fit and have
texts that are read back, and a file that was within reach is so still. Nothing is assumed of what the requests
bring: numbers that do not fit are refused where the body is read.

## Main statements

* `HttpRequest.Asks.inPriorities`: the priorities that a request brings fit.
* `Engine.meet_cases`: whatever happens is a call, or leaves store and index.
* `Engine.Upkept.visited`: what every history keeps.
-/

namespace StubServer

/-! ### What a request brings -/

/-- **The rules that a request brings** have priorities that fit. -/
theorem HttpRequest.Asks.inPriorities {request : HttpRequest} {call : Engine.Call} (h : request.Asks call) :
    ∀ rule ∈ call.given, rule.InPriorities := by
  cases h with
  | create hmethod hpath hbody | update hmethod hpath hid hbody =>
      exact List.forall_mem_singleton.mpr (Rule.expressible_of_ofBytes hbody).priority
  | createBatch hmethod hpath hbody =>
      exact fun rule hrule => (Rule.expressible_of_listOfBytes hbody rule hrule).priority
  | reload hmethod hpath | delete hmethod hpath hid | toggle hmethod hpath hid => exact List.forall_mem_nil _

namespace Engine

/-! ### Histories -/

/-- What happens to an engine: it is started or stopped, or a request is received. -/
inductive Occasion where
  | start
  | stop
  | request (request : HttpRequest)

/-- An occasion and what it meets. -/
structure Visit where
  env : Surroundings
  occasion : Occasion

/-- The engine after an occasion. -/
def meet (env : Surroundings) (engine : Engine) : Occasion → Engine
  | .start => (engine.start env).2
  | .stop => engine.stop
  | .request request => (engine.answer env request).2

/-- The engine after a history. -/
def visited (engine : Engine) (history : List Visit) : Engine :=
  history.foldl (fun engine visit => engine.meet visit.env visit.occasion) engine

variable {engine after : Engine} {env : Surroundings} {history : List Visit}

/-- **Whatever happens** is a call with rules whose priorities fit, or leaves store and index. -/
theorem meet_cases (env : Surroundings) (engine : Engine) (occasion : Occasion) :
    (∃ call : Call, (∀ rule ∈ call.given, rule.InPriorities) ∧
      engine.meet env occasion = (engine.call env call).2) ∨
    ((engine.meet env occasion).store = engine.store ∧ (engine.meet env occasion).index = engine.index) := by
  cases occasion with
  | start => exact .inl ⟨.start, List.forall_mem_nil _, rfl⟩
  | stop => exact .inl ⟨.stop, List.forall_mem_nil _, rfl⟩
  | request request =>
      by_cases hasks : ∃ call, request.Asks call
      · obtain ⟨call, hasks⟩ := hasks
        exact .inl ⟨call, hasks.inPriorities, answer_of_asks env engine hasks⟩
      · obtain ⟨hstore, hindex, -⟩ := answer_of_asks_none env engine (not_exists.mp hasks)
        exact .inr ⟨hstore, hindex⟩

/-- The rules of an engine are fit and can be written, and the file of its store, if it has one, is within
reach. -/
structure Upkept (engine : Engine) : Prop where
  fit : engine.Fit
  expressible : engine.store.table.Expressible
  writable : engine.store.Writable

/-- The empty engine is upkept if its file is within reach. -/
theorem upkept_fresh {disk : Option Disk} (hwritable : Store.Writable { disk }) (limit : Option Nat)
    (uses : List Regex.Cache.Use) : (fresh { disk } limit uses).Upkept :=
  ⟨fit_fresh disk limit uses, Table.expressible_empty, hwritable⟩

/-- Whether an engine is upkept depends on store and index. -/
theorem Upkept.congr (h : engine.Upkept) (hstore : after.store = engine.store) (hindex : after.index = engine.index) :
    after.Upkept := by
  obtain ⟨⟨hwf, hstored, hserved⟩, hexpressible, hwritable⟩ := h
  exact ⟨⟨hstore ▸ hwf, hstore ▸ hstored, hindex ▸ hserved⟩, hstore ▸ hexpressible, hstore ▸ hwritable⟩

/-- A call keeps an engine upkept. -/
theorem Upkept.call (h : engine.Upkept) {call : Call} (htime : env.OnTime)
    (hgiven : ∀ rule ∈ call.given, rule.InPriorities) : (engine.call env call).2.Upkept := by
  obtain ⟨writes, hstore, hwrites⟩ := call_writes h.expressible htime hgiven
  refine ⟨h.fit.call env call, ?_, hstore ▸ h.writable.run_writes writes⟩
  rw [hstore]
  exact Store.expressible_run h.expressible fun condition rule hmem => (hwrites _ hmem).2

/-- Whatever happens keeps an engine upkept. -/
theorem Upkept.meet (h : engine.Upkept) (htime : env.OnTime) (occasion : Occasion) :
    (engine.meet env occasion).Upkept := by
  rcases meet_cases env engine occasion with ⟨call, hgiven, hcall⟩ | ⟨hstore, hindex⟩
  · exact hcall ▸ h.call htime hgiven
  · exact h.congr hstore hindex

/-- **A history** keeps an engine upkept, whatever fails in it. -/
theorem Upkept.visited (h : engine.Upkept) (htime : ∀ visit ∈ history, visit.env.OnTime) :
    (engine.visited history).Upkept := by
  induction history generalizing engine with
  | nil => exact h
  | cons visit rest ih =>
      obtain ⟨hvisit, hrest⟩ := List.forall_mem_cons.mp htime
      exact ih (h.meet hvisit visit.occasion) hrest

end Engine

end StubServer
