import StubServer.Http.Server
import StubServer.Proofs.Engine.Fitness
import StubServer.Proofs.Engine.Service

/-!
# What is sent

A request outside of the administration is sent the response of the engine: its status, its headers with their
names in lower case, and its body. A matched request is thus sent the response of a rule under the key of that
rule, which is told in a header.

A key may hold any characters, and a header value may not. If the key of the rule that answers holds a control
character, the whole response is replaced (`HttpResponse.unsendable`), and that is the only case.

## Main statements

* `HttpResponse.renders_ofResponse_iff`: when a response is sent as it is.
* `Engine.renders_iff`: when the response of an engine is.
* `Engine.Fit.answer_eq_sentMatched`: what is sent when a rule answers.
* `Engine.delivers_after_iff`: what is sent after any run.
-/

namespace StubServer

/-! ### Messages -/

/-- Requests from outside come about as all requests do. -/
theorem HttpRequest.exists_received (request : HttpRequest) :
    ∃ method url headers body, request.toRequest = Request.received method url headers body := by
  refine ⟨request.method, request.url,
    request.headers.filterMap fun header => (headerText? header.2).map fun value => (header.1, value),
    .ofList (Utf8.decodeLossy request.body), ?_⟩
  rw [toRequest, Request.received, List.foldl_filterMap]
  congr 2
  funext start header
  rw [addTo]
  cases headerText? header.2 <;> rfl

namespace HttpResponse

/-- A response is sent as it is, but for the letter case of the names of its headers. -/
structure Renders (response : Response) (sent : HttpResponse) : Prop where
  status : sent.status = response.status
  headers : sent.headers = response.headers.map fun header => (asciiLower header.1, header.2)
  body : sent.body = response.body

/-- **A response is sent as it is** exactly if its headers may have their values. -/
theorem renders_ofResponse_iff (response : Response) :
    Renders response (ofResponse response) ↔ ∀ header ∈ response.headers, isHeaderValue header.2 = true := by
  rw [ofResponse, withHeaders, ← List.all_eq_true]
  split
  · rename_i hall
    exact iff_of_true ⟨rfl, rfl, rfl⟩ hall
  · rename_i hall
    refine iff_of_false (fun h => hall ?_) hall
    have hnone : response.headers = [] := by simpa [unsendable] using h.headers.symm
    simp [hnone]

/-- A response with a header that may not have its value is replaced. -/
theorem ofResponse_eq_unsendable {response : Response} {header : String × String}
    (hheader : header ∈ response.headers) (hvalue : isHeaderValue header.2 = false) :
    ofResponse response = unsendable := by
  refine if_neg fun hall => ?_
  exact Bool.false_ne_true (hvalue.symm.trans (List.all_eq_true.mp hall header hheader))

end HttpResponse

/-! ### Answers -/

namespace Engine

variable {engine : Engine} {rule : Rule} {request : HttpRequest}

/-- The rule with which the engine answers a request, if there is one. -/
def answering? (engine : Engine) (request : Request) : Option Rule :=
  if engine.running then (engine.index.lookup? request).map Matcher.rule else none

/-- A matched request as it is sent, under the key of the rule. -/
def sentMatched (rule : Rule) (key : String) : HttpResponse where
  status := 200
  headers := [("content-type", "application/json;charset=UTF-8"), ("x-mockline-stub", key)]
  body := rule.response

/-- What is sent is the response of the engine. -/
structure Delivers (engine : Engine) (env : Surroundings) (request : HttpRequest) : Prop where
  /-- Status, headers and body are those of the response. -/
  renders : HttpResponse.Renders (engine.dispatch (env.clock 0) request.toRequest).1
    (engine.answer env request).1
  /-- If a rule answers, its response is sent, and the key of its own is told. -/
  matched : ∀ rule, engine.answering? request.toRequest = some rule →
    ∃ key, rule.externalKey = some key ∧ (engine.answer env request).1 = sentMatched rule key
  /-- If the entry of a running engine accepts the request, a rule answers that does so as well. -/
  answered : engine.running = true → ∀ key matcher, engine.index.get? key = some matcher →
    matcher.accepts request.toRequest = true →
    ∃ rule, engine.answering? request.toRequest = some rule ∧
      (Matcher.ofRule rule).accepts request.toRequest = true

/-- Outside of the administration, the response of the engine is sent. -/
theorem answer_outside (hpath : Route.isAdmin request.path = false) (engine : Engine) (env : Surroundings) :
    (engine.answer env request).1 =
      .ofResponse (engine.dispatch (env.clock 0) request.toRequest).1 := by
  rw [answer, hpath]
  rfl

/-- The rule that answers gives the response. -/
theorem dispatch_of_answering {request : Request} (hrule : engine.answering? request = some rule)
    (now : Timestamp) : (engine.dispatch now request).1 = .ofRule rule now := by
  rw [answering?] at hrule
  split at hrule
  · rename_i hrunning
    obtain ⟨matcher, hlookup, rfl⟩ := Option.map_eq_some_iff.mp hrule
    simp [dispatch, respond, hrunning, hlookup]
  · cases hrule

/-- If no rule answers, the type of the content is the only header. -/
theorem headers_of_not_answering {request : Request} (hnone : engine.answering? request = none)
    (now : Timestamp) : (engine.dispatch now request).1.headers = [contentType] := by
  rw [answering?] at hnone
  split at hnone
  · rename_i hrunning
    have hlookup := Option.map_eq_none_iff.mp hnone
    simp [dispatch, respond, hrunning, hlookup, Response.noMatch, Response.ofJson]
  · rename_i hrunning
    simp [dispatch, respond, hrunning, Response.notReady, Response.ofJson]

/-- The type of the content can be sent. -/
theorem isHeaderValue_contentType : HttpResponse.isHeaderValue contentType.2 = true := by
  decide

/-- **The response is sent as it is** exactly if the key of the rule that answers may stand in a header. -/
theorem renders_iff (hpath : Route.isAdmin request.path = false) (engine : Engine) (env : Surroundings) :
    HttpResponse.Renders (engine.dispatch (env.clock 0) request.toRequest).1 (engine.answer env request).1 ↔
      ∀ rule, engine.answering? request.toRequest = some rule → HttpResponse.isHeaderValue rule.key = true := by
  rw [answer_outside hpath, HttpResponse.renders_ofResponse_iff]
  cases hanswering : engine.answering? request.toRequest with
  | none => simp [headers_of_not_answering hanswering, isHeaderValue_contentType]
  | some rule => simp [dispatch_of_answering hanswering, Response.ofRule, isHeaderValue_contentType]

/-- The rules that answer are fit, and accept the request. -/
theorem Fit.answering (h : engine.Fit) (hrule : engine.answering? request.toRequest = some rule) :
    rule.Fit ∧ (Matcher.ofRule rule).accepts request.toRequest = true := by
  obtain ⟨served, hserves, hserved⟩ := h.served
  obtain ⟨method, url, headers, body, hrequest⟩ := request.exists_received
  have hmethod := Request.asciiUpper_received_method method url headers body
  rw [answering?] at hrule
  split at hrule
  · obtain ⟨matcher, hlookup, rfl⟩ := Option.map_eq_some_iff.mp hrule
    rw [hrequest] at hlookup ⊢
    -- Which of several rules comes first does not matter here.
    have hany : served.Pairwise fun _ _ => True := List.pairwise_of_forall fun _ _ => trivial
    obtain ⟨winner, hwinner, rfl, haccepts, -⟩ := hserves.of_lookup? hany hmethod hlookup
    exact ⟨hserved winner hwinner, haccepts⟩
  · cases hrule

/-- If an entry of a running engine accepts a request, a rule answers. -/
theorem Fit.exists_answering (h : engine.Fit) (hrunning : engine.running = true) {key : String}
    {matcher : Matcher} (hentry : engine.index.get? key = some matcher)
    (haccepts : matcher.accepts request.toRequest = true) :
    ∃ rule, engine.answering? request.toRequest = some rule := by
  obtain ⟨served, hserves, -⟩ := h.served
  obtain ⟨method, url, headers, body, hrequest⟩ := request.exists_received
  have hmethod := Request.asciiUpper_received_method method url headers body
  obtain ⟨rule, hrule, -, rfl⟩ := hserves.get?_eq_some_iff.mp hentry
  cases hlookup : engine.index.lookup? request.toRequest with
  | some found => exact ⟨found.rule, by simp [answering?, hrunning, hlookup]⟩
  | none =>
      rw [hrequest] at hlookup haccepts
      have hrefused := (hserves.lookup?_eq_none_iff hmethod).mp hlookup rule hrule
      exact absurd (hrefused.symm.trans haccepts) Bool.false_ne_true

/-- **The response of a fit rule** is sent under the key of its own, if that may stand in a header. -/
theorem Fit.answer_eq_sentMatched (h : engine.Fit) (hpath : Route.isAdmin request.path = false)
    (hrule : engine.answering? request.toRequest = some rule)
    (hvalue : HttpResponse.isHeaderValue rule.key = true) (env : Surroundings) :
    rule.externalKey = some rule.key ∧ (engine.answer env request).1 = sentMatched rule rule.key := by
  obtain ⟨hfit, -⟩ := h.answering hrule
  refine ⟨Rule.externalKey_eq hfit.keyed, ?_⟩
  have hresponse := Rule.isBlankText_response hfit.valid
  have hcontent : HttpResponse.isHeaderValue "application/json;charset=UTF-8" = true :=
    isHeaderValue_contentType
  have hnames : asciiLower "Content-Type" = "content-type" ∧
      asciiLower "x-mockline-stub" = "x-mockline-stub" := by decide
  rw [answer_outside hpath, dispatch_of_answering hrule]
  simp [HttpResponse.ofResponse, HttpResponse.withHeaders, Response.ofRule, hcontent, hvalue, hresponse,
    contentType, keyHeader, hnames, sentMatched]

/-- **What is handed over to be sent outside of the administration**, by an engine that began with an empty store, after
any run: the response of the engine, exactly if the key of the rule that answers, if one does, may stand in a header. If
not, a replacement is handed over that tells nothing of the rule. The response is the one that the HTTP library is
given; that the library drops the body of a response to a HEAD request when it sends it is not part of this. -/
theorem delivers_after_iff (disk : Option Disk) (limit : Option Nat) (uses : List Regex.Cache.Use)
    (run : List Step) (env : Surroundings) {request : HttpRequest}
    (hpath : Route.isAdmin request.path = false) :
    let engine := (fresh { disk } limit uses).after run
    (engine.Delivers env request ↔
      ∀ rule, engine.answering? request.toRequest = some rule → HttpResponse.isHeaderValue rule.key = true) ∧
    ∀ rule, engine.answering? request.toRequest = some rule → HttpResponse.isHeaderValue rule.key = false →
      (engine.answer env request).1 = .unsendable := by
  intro engine
  have hfit : engine.Fit := (fit_fresh disk limit uses).after run
  refine ⟨⟨fun h => (renders_iff hpath engine env).mp h.renders, fun hvalues => ⟨?_, ?_, ?_⟩⟩, ?_⟩
  · exact (renders_iff hpath engine env).mpr hvalues
  · intro rule hrule
    exact ⟨rule.key, hfit.answer_eq_sentMatched hpath hrule (hvalues rule hrule) env⟩
  · intro hrunning key matcher hentry haccepts
    obtain ⟨rule, hrule⟩ := hfit.exists_answering hrunning hentry haccepts
    exact ⟨rule, hrule, (hfit.answering hrule).2⟩
  · intro rule hrule hvalue
    rw [answer_outside hpath, dispatch_of_answering hrule]
    have hheader : (keyHeader, rule.key) ∈ (Response.ofRule rule (env.clock 0)).headers := by
      simp [Response.ofRule]
    exact HttpResponse.ofResponse_eq_unsendable hheader hvalue

/-- A start, and a greeting under a key. -/
def greetingUnder (key : String) : List Step :=
  [⟨calm, .start⟩, ⟨calm, .create (greeting none key)⟩]

/-- A request for it. -/
def greetingRequest : HttpRequest where
  method := "GET"
  path := "/greeting"

/-- Under a plain key it is delivered. -/
theorem delivers_after_iff_plainKey :
    let engine := (fresh {} none []).after (greetingUnder "plain")
    Route.isAdmin greetingRequest.path = false ∧
      (∃ rule, engine.answering? greetingRequest.toRequest = some rule) ∧
      engine.Delivers calm greetingRequest := by
  intro engine
  have hpath : Route.isAdmin greetingRequest.path = false := by decide
  have hanswering : engine.answering? greetingRequest.toRequest =
      some { Plan.prepared (greeting none "plain") "" default with id := some 1 } := by decide +kernel
  refine ⟨hpath, ⟨_, hanswering⟩, (delivers_after_iff none none [] _ calm hpath).1.mpr ?_⟩
  rintro rule hrule
  obtain rfl := Option.some.inj (hanswering.symm.trans hrule)
  decide

/-- **Not every response is sent as it is.** With a line break in the key of the rule, all of it is replaced. -/
theorem not_forall_delivers :
    ¬ ∀ (run : List Step) (env : Surroundings) (request : HttpRequest), Route.isAdmin request.path = false →
      ((fresh {} none []).after run).Delivers env request := by
  intro hall
  have h := hall (greetingUnder "two\nlines") calm greetingRequest (by decide)
  have hsent : (((fresh {} none []).after (greetingUnder "two\nlines")).answer calm greetingRequest).1 =
      .unsendable := by decide +kernel
  have hresponse : (((fresh {} none []).after (greetingUnder "two\nlines")).dispatch (calm.clock 0)
      greetingRequest.toRequest).1.body = "{}" := by decide +kernel
  have hbody := h.renders.body
  rw [hsent, hresponse] at hbody
  exact absurd hbody (by decide)

end Engine

end StubServer
