import StubServer.Proofs.Engine.Service
import StubServer.Proofs.Http.Listing
import StubServer.Proofs.Http.Upkeep
import StubServer.Proofs.Rule.Bytes

/-!
# What is read can be put back

A rule that an administrator reads and puts back as it was read is changed into itself: only the time of its change
is a new one. The text of a stored rule is read as the rule, its number, its key and the time of its creation are
those that the change keeps anyway, and a rule that was stored is valid.

Which requests a rule accepts does not depend on the time of its change, so that the same rules may answer a request
as before. The index is changed for that one rule alone, and has the enabled rules if it had them before, as long as
no two stored rules share a key.

## Main statements

* `Plan.update_self`: a stored rule can be changed into itself.
* `Engine.answer_get`, `Engine.answer_put`: reading a rule and putting one back.
* `Engine.putBack_after`: what is read can be put back, after any history.
-/

namespace StubServer

/-! ### Rules that are changed into themselves -/

/-- A rule with a new time of its change. -/
def Rule.renewed (rule : Rule) (now : Timestamp) : Rule :=
  { rule with updatedAt := some now }

namespace Plan

variable {env : Surroundings} {store : Store} {id : Int} {existing : Rule}

/-- **A stored rule can be changed into itself** if nothing goes wrong. Nothing but the time of its change is new. -/
theorem update_self (hcalm : ∀ k, env.condition k = {}) (hwf : store.table.WellFormed) (hwritable : store.Writable)
    (hfind : store.table.find? id = some existing) (hvalid : existing.validate = .ok ()) :
    (update env id existing store).result = .ok (existing.renewed (env.clock 0)) ∧
      store.table.Replaces id existing (some (existing.renewed (env.clock 0)))
        (update env id existing store).store.table := by
  obtain ⟨hmem, hid⟩ := hwf.find?_eq_some_iff.mp hfind
  have hload : store.load (env.condition 0) id = .ok (some existing) := by
    rw [hcalm, ← hfind]
    rfl
  have hrevised : (revised existing existing (env.clock 0)).validate = .ok () := hvalid
  have hsave := Table.save_stored (show (existing.renewed (env.clock 0)).id = some id from hid)
    (hwf.contains_iff.mpr ⟨existing, hmem, hid⟩)
  obtain ⟨-, hreplaces⟩ := hwf.replaces_of_save hfind hsave rfl rfl fun _ => hvalid
  obtain ⟨after, hwrite, htable, -⟩ := hwritable.save hsave
  unfold update withExisting withRead
  rw [hload]
  dsimp only
  rw [withValid, hrevised, hcalm]
  dsimp only
  rw [show revised existing existing (env.clock 0) = existing.renewed (env.clock 0) from rfl, hwrite]
  exact ⟨rfl, htable ▸ hreplaces⟩

end Plan

/-! ### Requests -/

namespace Engine

variable {env : Surroundings} {engine after : Engine} {request : HttpRequest} {id : Int}
  {existing changes saved : Rule}

/-- The path of a rule is for the administration. -/
theorem answer_of_route_eq_rule (hroute : Route.ofPath request.path = .rule id) (env : Surroundings)
    (engine : Engine) : engine.answer env request = engine.administer env request := by
  obtain ⟨text, -, hbelow⟩ := Route.ofPath_eq_rule_iff.mp hroute
  exact answer_of_not_isOutside env engine (HttpRequest.not_isOutside_of_below hbelow)

/-- **Reading a stored rule** gives its pretty text, and changes nothing. -/
theorem answer_get (hmethod : request.method = "GET") (hroute : Route.ofPath request.path = .rule id)
    (hreads : (env.condition 0).noReads = none) (hfind : engine.store.table.find? id = some existing) :
    engine.answer env request = (.ofJson 200 existing.toJson, engine) := by
  have hget : engine.get env id = .ok existing := by
    simp [get, asked, Store.load, Store.reading, hreads, hfind, Except.mapError]
  rw [answer_of_route_eq_rule hroute, administer, hroute, hmethod]
  simp [hget, report]

/-- **Putting a rule back** is the update with what the body holds. -/
theorem answer_put (hmethod : request.method = "PUT") (hroute : Route.ofPath request.path = .rule id)
    (hbody : Rule.ofBytes request.body = .ok changes) (env : Surroundings) (engine : Engine) :
    engine.answer env request = reportChange 200 Rule.toJson (engine.update env id changes) := by
  rw [answer_of_route_eq_rule hroute, administer, hroute, hmethod]
  simp [withBody, hbody]

/-- The text of a rule is read from its bytes as the rule. -/
theorem ofBytes_encode (h : existing.Expressible) :
    Rule.ofBytes (Utf8.encode existing.toJson.renderPretty.toList) = .ok existing := by
  rw [Rule.ofBytes_of_decode? (Utf8.decode?_encode _), String.ofList_toList]
  exact Rule.ofText_renderPretty h

/-! ### What is left -/

/-- A rule is as it was but for the time of its change, and so is all that depends on the rules. -/
structure Renews (engine after : Engine) (id : Int) (existing : Rule) (now : Timestamp) : Prop where
  stored : after.store.table.find? id = some (existing.renewed now)
  /-- Under other numbers the same is found, or nothing, as before. -/
  others : ∀ other, other ≠ id → after.store.table.find? other = engine.store.table.find? other
  /-- The same enabled rules accept a request. -/
  mayAnswer : ∀ (request : Request) (number : Option Int),
    (∃ rule, after.MayAnswer request rule ∧ rule.id = number) ↔
      ∃ rule, engine.MayAnswer request rule ∧ rule.id = number
  /-- The index has the enabled rules if it had them, as long as keys tell the stored rules apart. -/
  inSync : (engine.store.table.all.map Rule.key).Nodup → engine.InSync → after.InSync

/-- The rules that may answer a request after one was replaced by one that accepts the same requests. -/
theorem mayAnswer_of_replaces {request : Request} {number : Option Int}
    (h : engine.store.table.Replaces id existing (some saved) after.store.table)
    (hwf : engine.store.table.WellFormed) (henabled : saved.enabled = existing.enabled)
    (haccepts : (Matcher.ofRule saved).accepts request = (Matcher.ofRule existing).accepts request) :
    (∃ rule, after.MayAnswer request rule ∧ rule.id = number) ↔
      ∃ rule, engine.MayAnswer request rule ∧ rule.id = number := by
  have hsameId := h.sameId saved rfl
  have hexisting : existing ∈ engine.store.table.all := (hwf.find?_eq_some_iff.mp h.found).1
  constructor
  · rintro ⟨rule, ⟨hstored, hon, hmatches⟩, hnumber⟩
    rcases h.mem_after hstored with hsaved | ⟨hstored, -⟩
    · obtain rfl : saved = rule := Option.some.inj hsaved
      exact ⟨existing, ⟨hexisting, henabled ▸ hon, haccepts ▸ hmatches⟩, hsameId ▸ hnumber⟩
    · exact ⟨rule, ⟨hstored, hon, hmatches⟩, hnumber⟩
  · rintro ⟨rule, ⟨hstored, hon, hmatches⟩, hnumber⟩
    by_cases hid : rule.id = some id
    · obtain rfl : rule = existing :=
        Option.some.inj ((hwf.find?_eq_some_iff.mpr ⟨hstored, hid⟩).symm.trans h.found)
      exact ⟨saved, ⟨h.mem_after_iff.mpr (.inl rfl), henabled.trans hon, haccepts.trans hmatches⟩,
        hsameId.trans hnumber⟩
    · exact ⟨rule, ⟨h.mem_after_iff.mpr (.inr ⟨hstored, hid⟩), hon, hmatches⟩, hnumber⟩

/-- A call that creates nothing keeps store and index together if no two stored rules share a key. -/
theorem InSync.call (hsync : engine.InSync) (hfit : engine.Fit) (call : Call) (hcreates : call.creates = false)
    (hfresh : call.DrawsFresh env engine.store.table) (hdistinct : (engine.store.table.all.map Rule.key).Nodup) :
    (engine.call env call).2.InSync := by
  obtain ⟨served, hserves, -⟩ := hfit.served
  obtain ⟨edits, heffect, hindex⟩ := engine.call_effect env call hfit.wellFormed hfresh
  have hafter := hserves.foldl_apply edits
  rw [← hindex] at hafter
  refine (inSync_iff (heffect.wellFormed hfit.wellFormed) hafter).mpr ?_
  exact heffect.agrees hfit.wellFormed hcreates hdistinct ((inSync_iff hfit.wellFormed hserves).mp hsync)

/-- **A stored rule that is changed into itself** is renewed. -/
theorem Upkept.update_self (h : engine.Upkept) (hrunning : engine.running = true)
    (hcalm : ∀ k, env.condition k = {}) (hfind : engine.store.table.find? id = some existing) :
    (engine.update env id existing).1 = .ok (existing.renewed (env.clock 0)) ∧
      engine.Renews (engine.update env id existing).2 id existing (env.clock 0) := by
  have hwf := h.fit.wellFormed
  have hvalid := (h.fit.stored existing (hwf.find?_eq_some_iff.mp hfind).1).valid
  obtain ⟨hresult, hreplaces⟩ := Plan.update_self hcalm hwf h.writable hfind hvalid
  have hplan : engine.ifRunning (Plan.update env id existing) = Plan.update env id existing engine.store :=
    if_pos hrunning
  have hstore : (engine.update env id existing).2.store = (Plan.update env id existing engine.store).store :=
    (engine.store_perform _).trans (congrArg Plan.store hplan)
  rw [← hstore] at hreplaces
  refine ⟨(congrArg Plan.result hplan).trans hresult, hreplaces.find?_eq hwf, ?_, ?_, ?_⟩
  · exact fun other hne => hreplaces.find?_of_ne hwf hne
  · exact fun request number => mayAnswer_of_replaces hreplaces hwf rfl rfl
  · exact fun hdistinct hsync => hsync.call h.fit (.update id existing) rfl trivial hdistinct

/-- **What is read can be put back.** After any history from the empty store on, whatever fails in it, take a running
engine and any rule that it stores, which has a path. If nothing goes wrong, reading the rule succeeds, and so does
putting back what was read, to the byte. Then nothing is new but the time of the change. -/
theorem putBack_after (disk : Option Disk) (hwritable : Store.Writable { disk }) (limit : Option Nat)
    (uses : List Regex.Cache.Use) (history : List Visit) (htime : ∀ visit ∈ history, visit.env.OnTime) :
    let engine := (fresh { disk } limit uses).visited history
    engine.running = true → ∀ (id : Int) (existing : Rule), engine.store.table.find? id = some existing →
      Route.ofPath ("/admin/stubs/" ++ .ofList (intText id)) = .rule id ∧
      ∀ (env later : Surroundings) (get put : HttpRequest), (∀ k, env.condition k = {}) →
        (∀ k, later.condition k = {}) →
        get.method = "GET" → Route.ofPath get.path = .rule id →
        put.method = "PUT" → Route.ofPath put.path = .rule id →
        put.body = Utf8.encode (engine.answer env get).1.body.toList →
        let read := engine.answer env get
        let written := read.2.answer later put
        read.1.status = 200 ∧ written.1.status = 200 ∧ engine.Renews written.2 id existing (later.clock 0) := by
  intro engine hrunning id existing hfind
  have h : engine.Upkept := (upkept_fresh hwritable limit uses).visited htime
  have hexpressible := h.expressible.of_find? hfind
  obtain ⟨hleast, hgreatest⟩ := hexpressible.id id (h.fit.wellFormed.find?_eq_some_iff.mp hfind).2
  refine ⟨(Route.ofPath_intText hleast hgreatest).1, ?_⟩
  intro env later get put hcalm hlater hget hgetPath hput hputPath hbody read written
  have hread : read = (.ofJson 200 existing.toJson, engine) :=
    answer_get hget hgetPath (by rw [hcalm]) hfind
  have hgiven : Rule.ofBytes put.body = .ok existing := by
    rw [hbody, show engine.answer env get = read from rfl, hread, HttpResponse.ofJson_eq]
    exact ofBytes_encode hexpressible
  obtain ⟨hok, hrenews⟩ := h.update_self hrunning hlater hfind
  have hwritten : written = (.ofJson 200 (existing.renewed (later.clock 0)).toJson,
      (engine.update later id existing).2) := by
    change read.2.answer later put = _
    rw [hread, answer_put hput hputPath hgiven, reportChange, hok]
    rfl
  rw [hread, hwritten, HttpResponse.ofJson_eq, HttpResponse.ofJson_eq]
  exact ⟨rfl, rfl, hrenews⟩

/-- A rule as it is sent, with a pattern that is a JSON value and stands for its text. -/
def posted : Json :=
  .object [("name", .string "Gruß 👋"), ("method", .string "get"), ("url", .string "/hi"),
    ("requestBodyPattern", .array [.ofInt 1]), ("responseDefinition", .object [])]

/-- An engine is started, and the rule is sent to it. -/
def postedHistory : List Visit :=
  [⟨calm, .start⟩,
    ⟨calm, .request
      { method := "POST", path := "/admin/stubs", body := Utf8.encode posted.render.toList }⟩]

/-- The rule is to be read. -/
def getFirst : HttpRequest where
  method := "GET"
  path := "/admin/stubs/1"

/-- A text is to be put in the place of the rule. -/
def putFirst (text : String) : HttpRequest where
  method := "PUT"
  path := "/admin/stubs/1"
  body := Utf8.encode text.toList

/-- The rule is read and put back. -/
theorem putBack_after_posted :
    let engine := (fresh {} none []).visited postedHistory
    let read := engine.answer calm getFirst
    let written := read.2.answer calm (putFirst read.1.body)
    engine.running = true ∧ ∃ existing, engine.store.table.find? 1 = some existing ∧
      read.1.status = 200 ∧ written.1.status = 200 ∧ engine.Renews written.2 1 existing default := by
  obtain ⟨hrunning, hstored⟩ : ((fresh {} none []).visited postedHistory).running = true ∧
      (((fresh {} none []).visited postedHistory).store.table.find? 1).isSome = true := by decide +kernel
  have htime : ∀ visit ∈ postedHistory, visit.env.OnTime := by
    simp [postedHistory, onTime_calm]
  have hroute : Route.ofPath "/admin/stubs/1" = .rule 1 := by decide +kernel
  obtain ⟨existing, hfind⟩ := Option.isSome_iff_exists.mp hstored
  obtain ⟨-, hputBack⟩ := putBack_after none (by simp [Store.Writable]) none [] postedHistory htime hrunning 1
    existing hfind
  have hbody : ∀ text : String, (putFirst text).body = Utf8.encode text.toList := fun _ => rfl
  exact ⟨hrunning, existing, hfind,
    hputBack calm calm getFirst (putFirst _) (fun _ => rfl) (fun _ => rfl) rfl hroute rfl hroute (hbody _)⟩

end Engine

end StubServer
