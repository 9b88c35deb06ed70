import StubServer.Http.Server
import StubServer.Launch
import StubServer.Proofs.Engine.Call
import StubServer.Proofs.Store.Call
import StubServer.Proofs.Store.File

/-!
# The wire format loses nothing

A rule that is written and read again is the same rule, and so it is with lists of rules. The list of rules
that an administrator is given is therefore as good as the file of the store: a store that is opened with it,
or a server that is started with it for a seed, has the same rules.

## Main statements

* `Engine.body_listing`: what an administrator is given.
* `Engine.wireFormat_roundTrip`: rules, lists of rules and the list of an administrator are read back.
-/

namespace StubServer

/-- A response with JSON has the pretty text of the value. -/
theorem HttpResponse.ofJson_eq (status : Nat) (v : Json) :
    ofJson status v = { status, headers := [("content-type", "application/json")], body := v.renderPretty } := by
  have hheader : isHeaderValue "application/json" = true := by decide
  have hname : asciiLower "Content-Type" = "content-type" := by decide
  simp [ofJson, withHeaders, hheader, hname]

namespace Engine

variable {env : Surroundings} {engine : Engine} {request : HttpRequest} {rules : List Rule}

/-- An administrator who asks for the rules is given the pretty text of their list. -/
theorem body_listing (hmethod : request.method = "GET") (hpath : request.path = "/admin/stubs")
    (hlist : engine.list env = .ok rules) :
    (engine.answer env request).1.body = (Rule.listToJson rules).renderPretty := by
  have hadmin : Route.isAdmin "/admin/stubs" = true := by decide
  have hroute : Route.ofPath "/admin/stubs" = .rules := by decide
  rw [answer, hpath, hadmin, if_pos rfl, administer, hpath, hroute, hmethod]
  simp [hlist, report, HttpResponse.ofJson_eq]

/-- The list that succeeds holds all rules of the store. -/
theorem eq_of_list (hlist : engine.list env = .ok rules) : rules = engine.store.table.all := by
  unfold list asked at hlist
  cases hload : engine.store.loadAll (env.condition 0) with
  | error e => simp [hload, Except.mapError] at hlist
  | ok loaded =>
      rw [hload] at hlist
      exact Except.ok.inj hlist ▸ Store.eq_of_loadAll hload

/-- **The list of an administrator is a file of the store.** A store that is opened with it has the rules of
the list. -/
theorem ofDisk_listing (hwf : engine.store.table.WellFormed) (h : engine.store.table.Expressible)
    (hlist : engine.list env = .ok rules) {disk : Disk}
    (hcontent : disk.content? = some (Rule.listToJson rules).renderPretty) :
    ∃ opened, Store.ofDisk disk = .ok opened ∧ opened.loadAll {} = .ok rules := by
  rw [eq_of_list hlist] at hcontent ⊢
  obtain ⟨opened, hopen, hrows⟩ := Store.ofDisk_fileText hwf h hcontent
  refine ⟨opened, hopen, ?_⟩
  have hall : opened.table.all = engine.store.table.all := by rw [Table.all, Table.all, hrows]
  exact congrArg Except.ok hall

/-- **The list of an administrator is a seed.** A server that is started with it has the rules of the list to
create. -/
theorem seedRules_listing (h : ∀ rule ∈ rules, rule.Expressible) {files : Files} {path : String}
    (hread : files.read? path = some (Rule.listToJson rules).renderPretty) :
    Launch.seedRules files path = .ok rules := by
  rw [Launch.seedRules, hread]
  dsimp only
  rw [Rule.listOfText_renderPretty h]
  rfl

/-- **Rules, lists of rules and the list of an administrator are read back.** -/
theorem wireFormat_roundTrip :
    (∀ rule : Rule, rule.Expressible →
      Rule.ofText rule.toJson.render = .ok rule ∧ Rule.ofText rule.toJson.renderPretty = .ok rule) ∧
    (∀ rules : List Rule, (∀ rule ∈ rules, rule.Expressible) →
      Rule.listOfText (Rule.listToJson rules).render = .ok rules ∧
        Rule.listOfText (Rule.listToJson rules).renderPretty = .ok rules) ∧
    ∀ (env : Surroundings) (engine : Engine) (request : HttpRequest) (rules : List Rule),
      engine.store.table.WellFormed → engine.store.table.Expressible →
      request.method = "GET" → request.path = "/admin/stubs" → engine.list env = .ok rules →
      (∀ disk : Disk, disk.content? = some (engine.answer env request).1.body →
        ∃ opened, Store.ofDisk disk = .ok opened ∧ opened.loadAll {} = .ok rules) ∧
      ∀ (files : Files) (path : String), files.read? path = some (engine.answer env request).1.body →
        Launch.seedRules files path = .ok rules := by
  refine ⟨fun rule h => ⟨Rule.ofText_render h, Rule.ofText_renderPretty h⟩,
    fun rules h => ⟨Rule.listOfText_render h, Rule.listOfText_renderPretty h⟩, ?_⟩
  intro env engine request rules hwf h hmethod hpath hlist
  rw [body_listing hmethod hpath hlist]
  refine ⟨fun disk hcontent => ofDisk_listing hwf h hlist hcontent, fun files path hread => ?_⟩
  exact seedRules_listing (eq_of_list hlist ▸ h.all) hread

/-- A rule with a number at the bound, characters that are escaped, patterns that are JSON themselves, and a
leap second. -/
def awkward : Rule where
  id := some (-9223372036854775808)
  name := "\"\\\t\u0001"
  externalKey := some ""
  enabled := false
  priority := 2147483647
  url := "/ключ"
  urlMatch := .pathTemplate
  headerPattern := some "null"
  bodyPattern := some "[1, \"2\"]"
  createdAt := some Timestamp.leapSecond

/-- An engine that has this rule. -/
def awkwardEngine : Engine :=
  fresh { table := { rows := [(-9223372036854775808, awkward)] } } none []

/-- The rule is read back, from its own text and from that of the list. -/
theorem wireFormat_roundTrip_awkward :
    awkward.Expressible ∧ Rule.ofText awkward.toJson.render = .ok awkward ∧
      Rule.listOfText (Rule.listToJson [awkward]).render = .ok [awkward] ∧
      ∃ opened, Store.ofDisk
          { target := some (awkwardEngine.answer calm { method := "GET", path := "/admin/stubs" }).1.body } =
            .ok opened ∧
        opened.loadAll {} = .ok [awkward] := by
  have h : awkward.Expressible :=
    ⟨by simp [awkward], by decide, by simpa [awkward] using Timestamp.valid_leapSecond.readsBack, by simp [awkward]⟩
  have hwf : awkwardEngine.store.table.WellFormed := ⟨List.pairwise_singleton _ _, by
    intro row hrow
    rw [List.mem_singleton.mp hrow]
    rfl⟩
  have htable : awkwardEngine.store.table.Expressible := fun row hrow => by
    rw [List.mem_singleton.mp hrow]
    exact h
  obtain ⟨hrule, hrules, hlisting⟩ := wireFormat_roundTrip
  obtain ⟨hfile, -⟩ := hlisting calm awkwardEngine { method := "GET", path := "/admin/stubs" } [awkward] hwf
    htable rfl rfl rfl
  exact ⟨h, (hrule awkward h).1, (hrules [awkward] (by simpa using h)).1, hfile _ rfl⟩

end Engine

end StubServer
