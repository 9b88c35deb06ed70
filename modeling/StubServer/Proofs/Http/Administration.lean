import StubServer.Http.Server
import StubServer.Proofs.Except
import StubServer.Proofs.Http.Routing
import StubServer.Proofs.Metrics

/-!
# What requests change

Six kinds of requests ask for a change, each for one call (`HttpRequest.Asks`), and after such a request the engine
is as the call leaves it. No other request changes the store, the index or whether the engine is running, whatever
its method, its path and its body. The rules are to answer those requests that are not below `/admin`, and only
those.

## Main statements

* `HttpRequest.asks_iff_call?`: what a request asks for, as a function.
* `Engine.answer_of_asks`, `Engine.answer_of_asks_none`: a request leaves what the call leaves that it asks for, or
  changes nothing.
* `Engine.dispatches_answer`: which requests are given to the rules.
* `Engine.answer_carriesOut`: what is left by any request.
-/

namespace StubServer

/-! ### What is asked for -/

namespace HttpRequest

variable {request : HttpRequest} {call other : Engine.Call}

/-- What a request asks for by its method, its path and its body. -/
inductive Asks (request : HttpRequest) : Engine.Call → Prop
  | create {rule : Rule} (hmethod : request.method = "POST") (hpath : Route.Below request.path [])
      (hbody : Rule.ofBytes request.body = .ok rule) : Asks request (.create rule)
  | createBatch {rules : List Rule} (hmethod : request.method = "POST")
      (hpath : Route.Below request.path "/batch".toList)
      (hbody : Rule.listOfBytes request.body = .ok rules) : Asks request (.createBatch rules)
  | reload (hmethod : request.method = "POST") (hpath : Route.Below request.path "/reload".toList) :
      Asks request .reload
  | update {text : List Char} {id : Int} {changes : Rule} (hmethod : request.method = "PUT")
      (hpath : Route.Below request.path ('/' :: text)) (hid : Spells text id)
      (hbody : Rule.ofBytes request.body = .ok changes) : Asks request (.update id changes)
  | delete {text : List Char} {id : Int} (hmethod : request.method = "DELETE")
      (hpath : Route.Below request.path ('/' :: text)) (hid : Spells text id) : Asks request (.delete id)
  | toggle {text : List Char} {id : Int} (hmethod : request.method = "POST")
      (hpath : Route.Below request.path ('/' :: text ++ "/toggle".toList)) (hid : Spells text id) :
      Asks request (.toggle id)

/-- The call for what a body holds. -/
def callWithBody {α : Type} (read : List UInt8 → Except Json.Error α) (request : HttpRequest)
    (call : α → Engine.Call) : Option Engine.Call :=
  (read request.body).toOption.map call

/-- The call that a request asks for. -/
def call? (request : HttpRequest) : Option Engine.Call :=
  match Route.ofPath request.path, request.method with
  | .rules, "POST" => callWithBody Rule.ofBytes request .create
  | .batch, "POST" => callWithBody Rule.listOfBytes request .createBatch
  | .reload, "POST" => some .reload
  | .rule id, "PUT" => callWithBody Rule.ofBytes request (.update id)
  | .rule id, "DELETE" => some (.delete id)
  | .toggle id, "POST" => some (.toggle id)
  | _, _ => none

/-- There is a call for a body that can be read. -/
theorem callWithBody_eq_some_iff {α : Type} {read : List UInt8 → Except Json.Error α} {toCall : α → Engine.Call} :
    callWithBody read request toCall = some call ↔ ∃ v, read request.body = .ok v ∧ toCall v = call := by
  simp only [callWithBody, Option.map_eq_some_iff, toOption_eq_some_iff]

/-- **What a request asks for** is the call that its route, its method and its body give. -/
theorem asks_iff_call? : request.Asks call ↔ request.call? = some call := by
  constructor
  · intro h
    cases h with
    | create hmethod hpath hbody =>
        simp only [call?, Route.ofPath_eq_rules_iff.mpr hpath, hmethod]
        exact callWithBody_eq_some_iff.mpr ⟨_, hbody, rfl⟩
    | createBatch hmethod hpath hbody =>
        simp only [call?, Route.ofPath_eq_batch_iff.mpr hpath, hmethod]
        exact callWithBody_eq_some_iff.mpr ⟨_, hbody, rfl⟩
    | reload hmethod hpath => simp only [call?, Route.ofPath_eq_reload_iff.mpr hpath, hmethod]
    | update hmethod hpath hid hbody =>
        simp only [call?, Route.ofPath_eq_rule_iff.mpr ⟨_, hid, hpath⟩, hmethod]
        exact callWithBody_eq_some_iff.mpr ⟨_, hbody, rfl⟩
    | delete hmethod hpath hid => simp only [call?, Route.ofPath_eq_rule_iff.mpr ⟨_, hid, hpath⟩, hmethod]
    | toggle hmethod hpath hid => simp only [call?, Route.ofPath_eq_toggle_iff.mpr ⟨_, hid, hpath⟩, hmethod]
  · intro h
    unfold call? at h
    split at h
    · rename_i hroute hmethod
      obtain ⟨rule, hbody, rfl⟩ := callWithBody_eq_some_iff.mp h
      exact .create hmethod (Route.ofPath_eq_rules_iff.mp hroute) hbody
    · rename_i hroute hmethod
      obtain ⟨rules, hbody, rfl⟩ := callWithBody_eq_some_iff.mp h
      exact .createBatch hmethod (Route.ofPath_eq_batch_iff.mp hroute) hbody
    · rename_i hroute hmethod
      obtain rfl := Option.some.inj h
      exact .reload hmethod (Route.ofPath_eq_reload_iff.mp hroute)
    · rename_i hroute hmethod
      obtain ⟨changes, hbody, rfl⟩ := callWithBody_eq_some_iff.mp h
      obtain ⟨text, hid, hpath⟩ := Route.ofPath_eq_rule_iff.mp hroute
      exact .update hmethod hpath hid hbody
    · rename_i hroute hmethod
      obtain rfl := Option.some.inj h
      obtain ⟨text, hid, hpath⟩ := Route.ofPath_eq_rule_iff.mp hroute
      exact .delete hmethod hpath hid
    · rename_i hroute hmethod
      obtain rfl := Option.some.inj h
      obtain ⟨text, hid, hpath⟩ := Route.ofPath_eq_toggle_iff.mp hroute
      exact .toggle hmethod hpath hid
    · cases h

/-- A request asks for one call at most. -/
theorem Asks.unique (h : request.Asks call) (h' : request.Asks other) : call = other :=
  Option.some.inj ((asks_iff_call?.mp h).symm.trans (asks_iff_call?.mp h'))

/-- The request has nothing to do with the administration. -/
def IsOutside (request : HttpRequest) : Prop :=
  request.path ≠ "/admin" ∧ ¬ "/admin/".toList <+: request.path.toList

instance (request : HttpRequest) : Decidable request.IsOutside :=
  inferInstanceAs (Decidable (_ ∧ _))

/-- The paths of the administration are `/admin` and those that begin with it and a slash. -/
theorem isAdmin_eq_false_iff : Route.isAdmin request.path = false ↔ request.IsOutside := by
  rw [Route.isAdmin, Bool.or_eq_false_iff, beq_eq_false_iff_ne, IsOutside, ← List.isPrefixOf_iff_prefix,
    Bool.not_eq_true]

/-- What is below the path of the rules is not outside. -/
theorem not_isOutside_of_below {text : List Char} (h : Route.Below request.path text) : ¬ request.IsOutside := by
  obtain ⟨rest, hpath, -⟩ := h
  refine fun houtside => houtside.2 ⟨"stubs".toList ++ rest, ?_⟩
  rw [hpath, ← List.append_assoc]
  rfl

/-- Requests that ask for a call are not outside. -/
theorem Asks.not_isOutside (h : request.Asks call) : ¬ request.IsOutside := by
  cases h <;> exact not_isOutside_of_below ‹_›

end HttpRequest

/-! ### What is done -/

namespace Engine

variable {env : Surroundings} {engine : Engine} {request : HttpRequest} {call : Call}

/-- What is done for a body that can be read is the call for it, and otherwise nothing is. -/
theorem withBody_snd {α : Type} {read : List UInt8 → Except Json.Error α} {operation : α → HttpResponse × Engine}
    {toCall : α → Call} (h : ∀ v, (operation v).2 = (engine.call env (toCall v)).2) :
    (withBody read request engine operation).2 =
      ((HttpRequest.callWithBody read request toCall).map fun call => (engine.call env call).2).getD engine := by
  rw [withBody, HttpRequest.callWithBody]
  cases read request.body with
  | ok v => exact h v
  | error e => rfl

/-- **A request to the administration** is the call that it asks for, or changes nothing. -/
theorem administer_snd (env : Surroundings) (request : HttpRequest) (engine : Engine) :
    (engine.administer env request).2 = (request.call?.map fun call => (engine.call env call).2).getD engine := by
  unfold administer HttpRequest.call?
  generalize Route.ofPath request.path = route, request.method = method
  -- A branch is a call, or a call for what the body holds, or it is there for all other methods.
  split <;> first
    | rfl
    | exact withBody_snd fun _ => rfl
    | (split <;> first | rfl | simp_all)

/-- The rules answer the requests outside of the administration. -/
theorem answer_of_isOutside (env : Surroundings) (engine : Engine) (h : request.IsOutside) :
    engine.answer env request =
      (.ofResponse (engine.dispatch (env.clock 0) request.toRequest).1,
        (engine.dispatch (env.clock 0) request.toRequest).2) := by
  rw [answer, HttpRequest.isAdmin_eq_false_iff.mpr h]
  rfl

/-- All other requests are for the administration. -/
theorem answer_of_not_isOutside (env : Surroundings) (engine : Engine) (h : ¬ request.IsOutside) :
    engine.answer env request = engine.administer env request :=
  if_pos (eq_true_of_ne_false (HttpRequest.isAdmin_eq_false_iff.not.mpr h))

/-- **A request that asks for a call** leaves what the call leaves. -/
theorem answer_of_asks (env : Surroundings) (engine : Engine) (h : request.Asks call) :
    (engine.answer env request).2 = (engine.call env call).2 := by
  rw [answer_of_not_isOutside env engine h.not_isOutside, administer_snd, HttpRequest.asks_iff_call?.mp h]
  rfl

/-- **A request that asks for none** leaves store and index, and the engine running or not. -/
theorem answer_of_asks_none (env : Surroundings) (engine : Engine) (h : ∀ call, ¬ request.Asks call) :
    (engine.answer env request).2.store = engine.store ∧ (engine.answer env request).2.index = engine.index ∧
      (engine.answer env request).2.running = engine.running := by
  by_cases houtside : request.IsOutside
  · rw [answer_of_isOutside env engine houtside]
    exact ⟨rfl, rfl, rfl⟩
  · have hcall : request.call? = none :=
      Option.eq_none_iff_forall_ne_some.mpr fun call hcall => h call (HttpRequest.asks_iff_call?.mpr hcall)
    rw [answer_of_not_isOutside env engine houtside, administer_snd, hcall]
    exact ⟨rfl, rfl, rfl⟩

/-- **A request is given to the rules** if it is outside of the administration, and only then. -/
theorem dispatches_answer (env : Surroundings) (engine : Engine) (request : HttpRequest) :
    (engine.answer env request).2.metrics.dispatches =
      engine.metrics.dispatches + if request.IsOutside then 1 else 0 := by
  split
  · rename_i houtside
    rw [answer_of_isOutside env engine houtside]
    exact engine.dispatches_dispatch _ _
  · rename_i houtside
    rw [answer_of_not_isOutside env engine houtside, administer_snd]
    cases request.call? with
    | none => rfl
    | some call => exact engine.dispatches_call env call

/-- **What is left by a request.** If it asks for a call, it is what that call leaves, and no request asks for two.
If it asks for none, then store and index are as they were, and the engine is running or not as before.

The rules are to answer the requests outside of the administration, and they are given no others: those are the
requests that are counted. And whatever the integer is, its decimal text in the path leads to the rule with that
number. -/
theorem answer_carriesOut (env : Surroundings) (engine : Engine) (request : HttpRequest) :
    let after := (engine.answer env request).2
    ((∀ call, request.Asks call → after = (engine.call env call).2) ∧
      (∀ call other, request.Asks call → request.Asks other → call = other) ∧
      ((∀ call, ¬ request.Asks call) →
        after.store = engine.store ∧ after.index = engine.index ∧ after.running = engine.running)) ∧
    (after.metrics.dispatches = engine.metrics.dispatches + (if request.IsOutside then 1 else 0) ∧
      (request.IsOutside → engine.answer env request =
        (.ofResponse (engine.dispatch (env.clock 0) request.toRequest).1,
          (engine.dispatch (env.clock 0) request.toRequest).2))) ∧
    ∀ id : Int, -9223372036854775808 ≤ id → id ≤ 9223372036854775807 →
      Spells (intText id) id ∧ Route.ofPath ("/admin/stubs/" ++ .ofList (intText id)) = .rule id ∧
        Route.ofPath ("/admin/stubs/" ++ .ofList (intText id) ++ "/toggle") = .toggle id := by
  intro after
  refine ⟨⟨fun call => answer_of_asks env engine, fun call other => HttpRequest.Asks.unique,
    answer_of_asks_none env engine⟩, ⟨dispatches_answer env engine request, answer_of_isOutside env engine⟩, ?_⟩
  intro id hleast hgreatest
  exact ⟨spells_intText hleast hgreatest, Route.ofPath_intText hleast hgreatest⟩

/-- A running engine with one rule. -/
def startedSeventh : Engine where
  store := { table := { rows := [(7, { Rule.new "seventh" "GET" "/seventh" with id := some 7 })] } }
  running := true

/-- A rule is to be deleted, at a path with redundant slashes. -/
def deletion : HttpRequest where
  method := "DELETE"
  path := "/admin/stubs//+7/"

/-- The rules are to be listed. -/
def listing : HttpRequest where
  method := "GET"
  path := "/admin/stubs"

/-- A path that begins like those of the administration. -/
def lookalike : HttpRequest where
  method := "POST"
  path := "/administrator"

/-- A rule is to be created from bytes that are no text: one that stands in a member that is no field is part of no
character. -/
def smudged : HttpRequest where
  method := "POST"
  path := "/admin/stubs"
  body :=
    Utf8.encode "\x7b\"name\":\"a\",\"method\":\"GET\",\"url\":\"/a\",".toList ++
    Utf8.encode "\"responseDefinition\":\x7b\x7d,\"note\":\"".toList ++ 0xFF :: Utf8.encode "\"\x7d".toList

/-- The first deletes, the second changes nothing, the third is for the rules to answer, and the fourth creates a rule
although its body is no text. -/
theorem answer_carriesOut_lookalike :
    (deletion.Asks (.delete 7) ∧ (startedSeventh.answer calm deletion).2.store.table.all = []) ∧
      ((∀ call, ¬ listing.Asks call) ∧ (startedSeventh.answer calm listing).2.store = startedSeventh.store) ∧
      (lookalike.IsOutside ∧ (startedSeventh.answer calm lookalike).2.metrics.dispatches = 0 + 1) ∧
      Route.ofPath ("/admin/stubs/" ++ .ofList (intText (-9223372036854775808))) = .rule (-9223372036854775808) ∧
      (Utf8.decode? smudged.body = none ∧ smudged.Asks (.create (Rule.new "a" "GET" "/a")) ∧
        (startedSeventh.answer calm smudged).2.store.table.all.map Rule.url = ["/a", "/seventh"]) := by
  have hdeletion : deletion.Asks (.delete 7) :=
    .delete rfl ⟨"//+7/".toList, by decide, rfl⟩ (readInteger?_eq_some_iff.mp (by decide))
  have hnone : listing.call? = none := by decide +kernel
  have hlisting : ∀ call, ¬ listing.Asks call := by
    intro call hasks
    cases hnone.symm.trans (HttpRequest.asks_iff_call?.mp hasks)
  have hlookalike : lookalike.IsOutside := by decide
  have hempty : (startedSeventh.call calm (.delete 7)).2.store.table.all = [] := by decide +kernel
  have hnoText : Utf8.decode? smudged.body = none := by decide +kernel
  have hread : (Rule.ofBytes smudged.body).toOption = some (Rule.new "a" "GET" "/a") := by decide +kernel
  have hbody : Rule.ofBytes smudged.body = .ok (Rule.new "a" "GET" "/a") := toOption_eq_some_iff.mp hread
  have hsmudged : smudged.Asks (.create (Rule.new "a" "GET" "/a")) := .create rfl ⟨[], by decide, rfl⟩ hbody
  have hadded : (startedSeventh.call calm (.create (Rule.new "a" "GET" "/a"))).2.store.table.all.map Rule.url =
      ["/a", "/seventh"] := by decide +kernel
  obtain ⟨⟨hdeleted, -⟩, -⟩ := answer_carriesOut calm startedSeventh deletion
  obtain ⟨⟨-, -, hlisted⟩, -, hleast⟩ := answer_carriesOut calm startedSeventh listing
  obtain ⟨-, ⟨hcounted, -⟩, -⟩ := answer_carriesOut calm startedSeventh lookalike
  obtain ⟨⟨hcreated, -⟩, -⟩ := answer_carriesOut calm startedSeventh smudged
  rw [if_pos hlookalike] at hcounted
  rw [← hcreated _ hsmudged] at hadded
  exact ⟨⟨hdeletion, hdeleted _ hdeletion ▸ hempty⟩, ⟨hlisting, (hlisted hlisting).1⟩, ⟨hlookalike, hcounted⟩,
    (hleast (-9223372036854775808) (by decide) (by decide)).2.1, hnoText, hsmudged, hadded⟩

end Engine

end StubServer
