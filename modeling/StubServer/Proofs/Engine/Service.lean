import StubServer.Dispatch
import StubServer.Proofs.Engine.Activation
import StubServer.Proofs.Index.Answer
import StubServer.Proofs.Rule.Validation

/-!
# What the engine answers

From an empty store on, whatever a run does and whatever fails, requests are answered from the rules that
are stored. While the engine is running, the answer comes from the rule that has the least priority among
the enabled rules that accept the request, and of several with that priority from the one activated last;
if there is none, the answer says so.

## Main statements

* `Engine.Answerable.next`: what holds before every call holds after it, `Answerable.after` after runs.
* `Engine.dispatch_after`: the answers.
-/

namespace StubServer

namespace Engine

open Index (Edit serving)

/-! ### Rules and requests -/

/-- The rules that may answer a request: stored, enabled and such that the compiled rule accepts it. -/
structure MayAnswer (engine : Engine) (request : Request) (rule : Rule) : Prop where
  stored : rule ∈ engine.store.table.all
  enabled : rule.enabled = true
  accepts : (Matcher.ofRule rule).accepts request = true

/-- A rule answers a request: all others that may do so have greater priorities, or the same and were
activated earlier. -/
structure Answers (engine : Engine) (log : List (Option Int)) (request : Request) (rule : Rule) :
    Prop where
  mayAnswer : engine.MayAnswer request rule
  best : ∀ other, engine.MayAnswer request other → other ≠ rule →
    rule.priority < other.priority ∨ (rule.priority = other.priority ∧ LaterIn log other rule)

/-! ### What every run preserves -/

/-- The stored rules are keyed, valid and numbered, with some numbers left, and the enabled ones are
served in the order of their activations. -/
structure Answerable (engine : Engine) (log : List (Option Int)) (left : Nat) : Prop where
  wellFormed : engine.store.table.WellFormed
  keyed : Keyed engine.store.table.all
  valid : ∀ rule ∈ engine.store.table.all, rule.validate = .ok ()
  numbered : engine.store.table.Numbered left
  served : ∃ served, engine.index.Serves served ∧ engine.store.table.Agrees served ∧
    served.Pairwise (LaterIn log)

variable {engine : Engine} {log : List (Option Int)} {left : Nat} {request : Request} {step : Step}
  {run : List Step}

/-- The empty engine is answerable. -/
theorem answerable_fresh (disk : Option Disk) (limit : Option Nat) (uses : List Regex.Cache.Use)
    (hleft : left < 9223372036854775808) : (fresh { disk } limit uses).Answerable [] left where
  wellFormed := Table.wellFormed_empty
  keyed := keyed_nil
  valid := by simp [fresh, Table.all]
  numbered := ⟨Int.le_refl 0, by simp [fresh, Table.all], by simp [fresh]; omega⟩
  served := ⟨[], Index.serves_fresh limit uses, .nil, .nil⟩

/-- Every call keeps rules valid. -/
theorem Effect.valid {table after : Table} {call : Call} {succeeded : Bool} {edits : List Edit}
    (h : Effect table call succeeded after edits) (hwf : table.WellFormed)
    (hvalid : ∀ rule ∈ table.all, rule.validate = .ok ()) :
    ∀ rule ∈ after.all, rule.validate = .ok () := by
  cases h with
  | kept h => exact hvalid
  | filled hfills => exact hvalid
  | created hcreates h =>
      intro rule hmem
      rcases List.mem_append.mp (h.subset hwf (List.Subset.refl _) hmem) with hmem | hmem
      · exact hvalid rule hmem
      · exact h.valid rule hmem
  | replaced htarget hdelete h hserving hkey =>
      intro rule hmem
      rcases h.mem_after hmem with hsaved | ⟨hother, -⟩
      · exact h.valid rule hsaved (hvalid _ (hwf.find?_eq_some_iff.mp h.found).1)
      · exact hvalid rule hother

/-- **Every call** leaves an engine answerable, with what the call activates behind the log. -/
theorem Answerable.next (h : engine.Answerable log (step.call.brought.length + left))
    (hfresh : step.call.DrawsFresh step.env engine.store.table) :
    let done := engine.call step.env step.call
    done.2.Answerable (log ++ (step.call.activated done.1 engine.store.table
      done.2.store.table).map Rule.id) left := by
  intro done
  obtain ⟨served, hserves, hagrees, horder⟩ := h.served
  obtain ⟨edits, heffect, hindex⟩ := engine.call_effect step.env step.call h.wellFormed hfresh
  have hafter : done.2.store.table.Agrees (edits.foldl serving served) := by
    have hbounded := h.numbered.bounded
    have hnonneg := h.numbered.nonneg
    refine (heffect.agrees_iff h.wellFormed h.keyed (by omega) hagrees).mpr ?_
    rintro ⟨hcreates, rule, hmem, -, hlost⟩
    exact hlost (heffect.subset h.wellFormed h.numbered hcreates hmem)
  obtain ⟨kept, hkept, hserved⟩ := heffect.serves_activated h.wellFormed h.keyed h.numbered hagrees
  refine ⟨heffect.wellFormed h.wellFormed, heffect.keyed h.wellFormed h.keyed,
    heffect.valid h.wellFormed h.valid, heffect.numbered h.wellFormed h.numbered,
    edits.foldl serving served, hindex ▸ hserves.foldl_apply edits, hafter, ?_⟩
  have hids : ((edits.foldl serving served).map Rule.id).Nodup :=
    ((hafter.map Rule.id).nodup_iff).mpr
      ((heffect.wellFormed h.wellFormed).nodup_ids.sublist (List.filter_sublist.map _))
  rw [hserved] at hids ⊢
  exact pairwise_laterIn_append (horder.sublist hkept) hids

/-- Every run leaves an engine answerable. -/
theorem Answerable.after {more : Nat} (h : engine.Answerable log more)
    (hmore : more = (run.flatMap fun step => step.call.brought).length + left)
    (hfresh : engine.DrawsFresh run) :
    (engine.after run).Answerable (log ++ engine.log run) left := by
  induction run generalizing engine log more with
  | nil =>
      subst hmore
      simpa [Engine.log, Engine.after] using h
  | cons step rest ih =>
      rw [List.flatMap_cons, List.length_append, Nat.add_assoc] at hmore
      subst hmore
      have hnext := h.next hfresh.1
      have hrest := ih hnext rfl hfresh.2
      rw [List.append_assoc] at hrest
      exact hrest

/-- An answerable engine has store and index together. -/
theorem Answerable.inSync (h : engine.Answerable log left) : engine.InSync := by
  obtain ⟨served, hserves, hagrees, -⟩ := h.served
  exact (inSync_iff h.wellFormed hserves).mpr hagrees

/-! ### Answers -/

/-- The rules that may answer a request are the served ones that accept it. -/
theorem mayAnswer_iff {served : List Rule} {rule : Rule} (hagrees : engine.store.table.Agrees served) :
    engine.MayAnswer request rule ↔ rule ∈ served ∧ (Matcher.ofRule rule).accepts request = true := by
  rw [hagrees.mem_iff, List.mem_filter]
  exact ⟨fun ⟨hstored, henabled, haccepts⟩ => ⟨⟨hstored, henabled⟩, haccepts⟩,
    fun ⟨⟨hstored, henabled⟩, haccepts⟩ => ⟨hstored, henabled, haccepts⟩⟩

/-- An engine that is not running says so. -/
theorem dispatch_of_not_running (hrunning : engine.running = false) (now : Timestamp)
    (request : Request) : (engine.dispatch now request).1 = .notReady := by
  simp [dispatch, respond, hrunning]

/-- The response with which a rule answers, under its own key. -/
def matched (rule : Rule) (key : String) : Response where
  status := 200
  headers := [contentType, (keyHeader, key)]
  body := rule.response
  outcome := .matched

/-- A running engine has a rule answer, or says that there is none that may. -/
theorem Answerable.dispatch_cases (h : engine.Answerable log left) (hrunning : engine.running = true)
    (hmethod : asciiUpper request.method = request.method) (now : Timestamp) :
    ((engine.dispatch now request).1 = .noMatch request ∧ ∀ rule, ¬ engine.MayAnswer request rule) ∨
    ∃ rule key, engine.Answers log request rule ∧ rule.externalKey = some key ∧
      (engine.dispatch now request).1 = matched rule key := by
  obtain ⟨served, hserves, hagrees, horder⟩ := h.served
  cases hlookup : engine.index.lookup? request with
  | none =>
      refine .inl ⟨by simp [dispatch, respond, hrunning, hlookup], fun rule hmay => ?_⟩
      obtain ⟨hrule, haccepts⟩ := (mayAnswer_iff hagrees).mp hmay
      rw [(hserves.lookup?_eq_none_iff hmethod).mp hlookup rule hrule] at haccepts
      exact Bool.false_ne_true haccepts
  | some matcher =>
      obtain ⟨winner, hwinner, rfl, haccepts, hbest⟩ := hserves.of_lookup? horder hmethod hlookup
      have hmay := (mayAnswer_iff hagrees).mpr ⟨hwinner, haccepts⟩
      have hkey := Rule.externalKey_eq (h.keyed.keyed winner hmay.stored)
      have hresponse := Rule.isBlankText_response (h.valid winner hmay.stored)
      refine .inr ⟨winner, winner.key, ⟨hmay, fun other hother hne => ?_⟩, hkey, ?_⟩
      · obtain ⟨hserved, haccepts⟩ := (mayAnswer_iff hagrees).mp hother
        exact hbest other hserved haccepts hne
      · simp [dispatch, respond, hrunning, hlookup, Response.ofRule, hresponse, matched]

/-- **The answers** of an engine that began with an empty store, after any run, as long as it does not use
up the numbers. While the engine is not running, it says so. While it is running, it says that there is
no rule exactly if none may answer, and otherwise the one answers that has the least priority and, of
those, was activated last. -/
theorem dispatch_after (disk : Option Disk) (limit : Option Nat) (uses : List Regex.Cache.Use)
    (run : List Step) (hfresh : (fresh { disk } limit uses).DrawsFresh run)
    (hleft : (run.flatMap fun step => step.call.brought).length < 9223372036854775808)
    (now : Timestamp) (method url : String) (headers : List (String × String)) (body : String) :
    let start := fresh { disk } limit uses
    let engine := start.after run
    let request := Request.received method url headers body
    (engine.running = false → (engine.dispatch now request).1 = .notReady) ∧
    (engine.running = true →
      ((engine.dispatch now request).1 = .noMatch request ↔ ∀ rule, ¬ engine.MayAnswer request rule) ∧
      ((∃ rule, engine.MayAnswer request rule) →
        ∃ rule key, engine.Answers (start.log run) request rule ∧ rule.externalKey = some key ∧
          (engine.dispatch now request).1 = matched rule key)) := by
  intro start engine request
  have hstart : start.Answerable [] _ := answerable_fresh disk limit uses hleft
  have hanswerable : engine.Answerable (start.log run) 0 := hstart.after rfl hfresh
  refine ⟨fun hrunning => dispatch_of_not_running hrunning now request, fun hrunning => ?_⟩
  have hmethod := Request.asciiUpper_received_method method url headers body
  rcases hanswerable.dispatch_cases hrunning hmethod now with
    ⟨hresponse, hnone⟩ | ⟨rule, key, hanswers, hkey, hresponse⟩
  · exact ⟨iff_of_true hresponse hnone, fun ⟨rule, hmay⟩ => absurd hmay (hnone rule)⟩
  · refine ⟨iff_of_false ?_ fun hnone => hnone rule hanswers.mayAnswer,
      fun _ => ⟨rule, key, hanswers, hkey, hresponse⟩⟩
    rw [hresponse]
    intro heq
    have hstatus : 200 = 404 := congrArg Response.status heq
    exact absurd hstatus (by decide)

/-- A start, and two rules for the same requests. -/
def twoGreetings : List Step :=
  [⟨calm, .start⟩, ⟨calm, .create (greeting none "first")⟩, ⟨calm, .create (greeting none "second")⟩]

/-- After these, a greeting is answered. -/
theorem dispatch_after_twoGreetings :
    let start := fresh {} none []
    let engine := start.after twoGreetings
    let request := Request.received "GET" "/greeting" [] ""
    ∃ rule key, engine.Answers (start.log twoGreetings) request rule ∧ rule.externalKey = some key ∧
      (engine.dispatch default request).1 = matched rule key := by
  intro start engine request
  have hanswers := dispatch_after none none [] twoGreetings ⟨trivial, nofun, nofun, trivial⟩ (by decide)
    default "GET" "/greeting" [] ""
  have hrunning : engine.running = true := rfl
  have hsecond : engine.MayAnswer request
      { Plan.prepared (greeting none "second") "" default with id := some 2 } :=
    ⟨by decide +kernel, rfl, by decide +kernel⟩
  exact (hanswers.2 hrunning).2 ⟨_, hsecond⟩

end Engine

end StubServer
