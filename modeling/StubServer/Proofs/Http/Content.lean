import StubServer.Proofs.Http.Delivery

/-!
# What is served is JSON

A rule is stored only after its response was read as JSON, and what is served was stored once. So the response of
a rule never has to be made up for it, and whoever is answered by a rule gets a text that can be read.

A rule may be valid and disabled: switching a rule on or off does not look at it again, and does not have to.

## Main statements

* `Index.Serves.of_lookup?_any`: whatever the index finds is a rule that it serves, for any request at all.
* `Engine.Fit.responds`: what a matched request is answered.
* `Engine.responds_after`: the same after any run from the empty store.
-/

namespace StubServer

/-! ### Looking up -/

namespace Index

variable {index : Index} {served : List Rule} {request : Request} {matcher : Matcher}

/-- **Whatever the index finds** is the compiled form of a rule that it serves. -/
theorem Serves.of_lookup?_any (h : index.Serves served) (hlookup : index.lookup? request = some matcher) :
    ∃ rule ∈ served, matcher = .ofRule rule := by
  obtain ⟨register, htracks, -, rfl⟩ := h
  -- Every bucket holds records of the register, so the method of the request does not matter.
  have hbucket : ∀ method, ∀ entry ∈ index.snapshot.bucket method,
      ∃ record ∈ register.records, record.entry = entry := by
    intro method entry hentry
    rw [htracks.holds.bucket] at hentry
    obtain ⟨record, hrecord, rfl⟩ := List.mem_map.mp hentry
    exact ⟨record, (List.mem_filter.mp hrecord).1, rfl⟩
  obtain ⟨winner, hwinner, rfl⟩ := Option.map_eq_some_iff.mp hlookup
  have hcandidate : winner ∈ index.snapshot.candidates request.method :=
    (List.mem_filter.mp (mem_of_best? hwinner)).1
  have hrecord : ∃ record ∈ register.records, record.entry = winner := by
    rw [Snapshot.candidates] at hcandidate
    rcases List.mem_append.mp hcandidate with hown | hevery
    · split at hown
      · cases hown
      · exact hbucket _ _ hown
    · exact hbucket _ _ hevery
  obtain ⟨record, hmem, rfl⟩ := hrecord
  exact ⟨record.rule, List.mem_map_of_mem hmem, rfl⟩

end Index

/-! ### Responses -/

namespace Engine

variable {engine : Engine} {request : Request} {now : Timestamp}

/-- A response counts as matched exactly if there is a rule that answers. -/
theorem dispatch_outcome_eq_matched_iff :
    (engine.dispatch now request).1.outcome = .matched ↔ ∃ rule, engine.answering? request = some rule := by
  simp only [dispatch, respond, answering?]
  cases engine.running with
  | false => simp [Response.notReady, Response.ofJson]
  | true => cases hlookup : engine.index.lookup? request <;> simp [Response.noMatch, Response.ofJson, Response.ofRule]

/-- The rule that answers is fit, whatever the request looks like. -/
theorem Fit.fit_of_answering (h : engine.Fit) {rule : Rule} (hrule : engine.answering? request = some rule) :
    rule.Fit := by
  obtain ⟨served, hserves, hserved⟩ := h.served
  rw [answering?] at hrule
  split at hrule
  · obtain ⟨matcher, hlookup, rfl⟩ := Option.map_eq_some_iff.mp hrule
    obtain ⟨rule, hmem, rfl⟩ := hserves.of_lookup?_any hlookup
    exact hserved rule hmem
  · cases hrule

/-- A matched request is answered with the response of a rule, to the letter, and that is JSON. -/
structure Responds (engine : Engine) (request : Request) (body : String) : Prop where
  content : IsContent body
  own : ∃ rule, engine.answering? request = some rule ∧ isBlankText rule.response = false ∧ body = rule.response

/-- **What a matched request is answered** by an engine whose rules are fit. -/
theorem Fit.responds (h : engine.Fit) (hmatched : (engine.dispatch now request).1.outcome = .matched) :
    engine.Responds request (engine.dispatch now request).1.body := by
  obtain ⟨rule, hrule⟩ := dispatch_outcome_eq_matched_iff.mp hmatched
  have hcontent := Rule.responds_of_valid (h.fit_of_answering hrule).valid
  have hbody : (engine.dispatch now request).1.body = rule.response := by
    rw [dispatch_of_answering hrule]
    exact if_neg (ne_true_of_eq_false hcontent.written)
  exact ⟨hbody ▸ hcontent, rule, hrule, hcontent.written, hbody⟩

/-- **Everything that is served is JSON.** After any run from the empty store, whatever fails in it, every stored
rule is valid, be it enabled or not. A matched request is answered with JSON, and that is the response of a rule:
none is made up for a rule that has none. -/
theorem responds_after (disk : Option Disk) (limit : Option Nat) (uses : List Regex.Cache.Use) (run : List Step) :
    let engine := (fresh { disk } limit uses).after run
    (∀ rule ∈ engine.store.table.all, rule.validate = .ok ()) ∧
    ∀ (request : Request) (now : Timestamp), (engine.dispatch now request).1.outcome = .matched →
      engine.Responds request (engine.dispatch now request).1.body := by
  intro engine
  have hfit : engine.Fit := (fit_fresh disk limit uses).after run
  exact ⟨fun rule hrule => (hfit.stored rule hrule).valid, fun request now hmatched => hfit.responds hmatched⟩

/-- A greeting is answered with what its rule says. -/
theorem responds_after_greetingUnder :
    let engine := (fresh {} none []).after (greetingUnder "plain")
    let request := Request.received "GET" "/greeting" [] ""
    (engine.dispatch default request).1.outcome = .matched ∧
      engine.Responds request (engine.dispatch default request).1.body := by
  intro engine request
  have hmatched : (engine.dispatch default request).1.outcome = .matched := by decide +kernel
  exact ⟨hmatched, (responds_after none none [] (greetingUnder "plain")).2 request default hmatched⟩

end Engine

end StubServer
