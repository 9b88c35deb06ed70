import StubServer.Proofs.Engine.Repair
import StubServer.Proofs.Engine.Service
import StubServer.Proofs.Engine.WriteThrough

/-!
# Reloading and restarting

An index that was changed call by call and one that is made anew from the store hold the same rules, but in
different orders, the one in that of the activations and the other in that of the numbers. The order matters
only to requests for which several rules have the least priority. All others are answered alike before and
after a reload, and after a restart with the file of the store.

## Main statements

* `Engine.Answerable.renewed`: what every index that is made anew from the store answers.
* `Engine.renewed_after`: reloading and restarting after any run.
-/

namespace StubServer

/-! ### Rules with distinct keys -/

/-- If the keys are distinct, all enabled rules prevail. -/
theorem Rule.prevails_iff {rules : List Rule} (hkeys : (rules.map Rule.key).Nodup) {rule : Rule} :
    rule.Prevails rules ↔ rule ∈ rules ∧ rule.enabled = true := by
  refine ⟨fun h => ⟨h.mem, h.enabled⟩, fun ⟨hmem, henabled⟩ => ⟨hmem, henabled, ?_⟩⟩
  intro other hother _ hkey hne
  exact absurd (List.inj_on_of_nodup_map hkeys hother hmem hkey) hne

namespace Engine

variable {engine after : Engine} {log : List (Option Int)} {left : Nat}
  {request : Request} {rule : Rule} {matcher : Matcher}

/-! ### Requests and the rules that may answer them -/

/-- A rule is the only one with the least priority among those that may answer a request. -/
structure Decides (engine : Engine) (request : Request) (rule : Rule) : Prop where
  mayAnswer : engine.MayAnswer request rule
  least : ∀ other, engine.MayAnswer request other → other ≠ rule → rule.priority < other.priority

/-- A rule has the least priority among those that may answer a request, and the greatest number among those
with this priority. -/
structure ComesLast (engine : Engine) (request : Request) (rule : Rule) : Prop where
  mayAnswer : engine.MayAnswer request rule
  best : ∀ other, engine.MayAnswer request other → other ≠ rule →
    rule.priority < other.priority ∨ (rule.priority = other.priority ∧ other.Below rule)

/-- An engine answers like another, but prefers rules with greater numbers where several have the least
priority. -/
structure Renewed (engine after : Engine) : Prop where
  /-- If a single rule has the least priority, both find it. -/
  decided : ∀ method url headers body,
    let request := Request.received method url headers body
    ∀ rule, engine.Decides request rule →
      engine.index.lookup? request = some (.ofRule rule) ∧ after.index.lookup? request = some (.ofRule rule)
  /-- If no rule may answer, both find none. -/
  unanswered : ∀ method url headers body,
    let request := Request.received method url headers body
    (∀ rule, ¬ engine.MayAnswer request rule) →
      engine.index.lookup? request = none ∧ after.index.lookup? request = none
  /-- In any case, the second finds the one of those with the least priority that has the greatest number. -/
  newest : ∀ method url headers body,
    let request := Request.received method url headers body
    (∃ rule, engine.MayAnswer request rule) →
      ∃ rule, engine.ComesLast request rule ∧ after.index.lookup? request = some (.ofRule rule)

/-- Nothing is found if no rule may answer. -/
theorem Answerable.lookup?_eq_none (h : engine.Answerable log left)
    (hmethod : asciiUpper request.method = request.method)
    (hnone : ∀ rule, ¬ engine.MayAnswer request rule) : engine.index.lookup? request = none := by
  obtain ⟨served, hserves, hagrees, -⟩ := h.served
  refine (hserves.lookup?_eq_none_iff hmethod).mpr fun rule hrule => eq_false_of_ne_true fun haccepts => ?_
  exact hnone rule ((mayAnswer_iff hagrees).mpr ⟨hrule, haccepts⟩)

/-- The only rule with the least priority is found. -/
theorem Answerable.lookup?_eq_some (h : engine.Answerable log left)
    (hmethod : asciiUpper request.method = request.method) (hdecides : engine.Decides request rule) :
    engine.index.lookup? request = some (.ofRule rule) := by
  obtain ⟨served, hserves, hagrees, horder⟩ := h.served
  obtain ⟨hrule, haccepts⟩ := (mayAnswer_iff hagrees).mp hdecides.mayAnswer
  cases hlookup : engine.index.lookup? request with
  | none =>
      have hnot := (hserves.lookup?_eq_none_iff hmethod).mp hlookup rule hrule
      exact absurd (hnot.symm.trans haccepts) Bool.false_ne_true
  | some matcher =>
      obtain ⟨winner, hwinner, rfl, haccepts', hbest⟩ := hserves.of_lookup? horder hmethod hlookup
      by_cases hsame : winner = rule
      · rw [hsame]
      · have hless := hdecides.least winner ((mayAnswer_iff hagrees).mpr ⟨hwinner, haccepts'⟩) hsame
        rcases hbest rule hrule haccepts (Ne.symm hsame) with hlt | ⟨heq, -⟩
        · exact absurd hlt (Int.lt_asymm hless)
        · exact absurd heq.symm (Int.ne_of_lt hless)

/-- **An index that is made anew** from the rules of the store answers like the one that was changed call by
call, wherever a single rule has the least priority. -/
theorem Answerable.renewed (h : engine.Answerable log left)
    (hmirrors : after.index.Mirrors engine.store.table.all) : engine.Renewed after := by
  have hprevails : ∀ rule : Rule, rule.Prevails engine.store.table.all ↔
      rule ∈ engine.store.table.all ∧ rule.enabled = true := fun rule =>
    Rule.prevails_iff h.keyed.nodup_keys
  refine ⟨?_, ?_, ?_⟩
  · intro method url headers body request rule hdecides
    have hmethod := Request.asciiUpper_received_method method url headers body
    refine ⟨h.lookup?_eq_some hmethod hdecides, ?_⟩
    refine (hmirrors.found after.index rfl method url headers body _).mpr ⟨rule, ?_, rfl⟩
    obtain ⟨hstored, henabled, haccepts⟩ := hdecides.mayAnswer
    refine ⟨(hprevails rule).mpr ⟨hstored, henabled⟩, haccepts, fun other hother haccepts' hne => ?_⟩
    exact .inl (hdecides.least other ⟨hother.mem, hother.enabled, haccepts'⟩ hne)
  · intro method url headers body request hnone
    have hmethod := Request.asciiUpper_received_method method url headers body
    refine ⟨h.lookup?_eq_none hmethod hnone, ?_⟩
    refine (hmirrors.notFound after.index rfl method url headers body).mpr fun rule hrule => ?_
    exact eq_false_of_ne_true fun haccepts => hnone rule ⟨hrule.mem, hrule.enabled, haccepts⟩
  · rintro method url headers body request ⟨rule, hstored, henabled, haccepts⟩
    cases hlookup : after.index.lookup? request with
    | none =>
        have hnot := (hmirrors.notFound after.index rfl method url headers body).mp hlookup rule
          ((hprevails rule).mpr ⟨hstored, henabled⟩)
        exact absurd (hnot.symm.trans haccepts) Bool.false_ne_true
    | some matcher =>
        obtain ⟨winner, hwinner, rfl⟩ :=
          (hmirrors.found after.index rfl method url headers body matcher).mp hlookup
        refine ⟨winner, ⟨⟨hwinner.prevails.mem, hwinner.prevails.enabled, hwinner.accepts⟩, ?_⟩, rfl⟩
        intro other hother hne
        exact hwinner.best other ((hprevails other).mpr ⟨hother.stored, hother.enabled⟩) hother.accepts hne

/-! ### Reloading and restarting -/

variable {env : Surroundings} {run : List Step}

/-- What fills the index succeeds if the store can be read, and reloading needs a running engine for it. -/
theorem isOk_of_fills {call : Call} (hfills : call.fills = true)
    (hrunning : call = .reload → engine.running = true) (hreads : (env.condition 0).noReads = none) :
    (engine.call env call).1 = true := by
  have hread : (Plan.reload env engine.store).result.isOk = true := by
    simp [Plan.reload, Plan.withRead, Store.loadAll, Store.reading, hreads, Except.isOk, Except.toBool]
  cases call with
  | start => exact (isOk_withSize _).trans hread
  | reload =>
      have hplan : engine.ifRunning (Plan.reload env) = Plan.reload env engine.store := if_pos (hrunning rfl)
      exact (isOk_withSize _).trans ((congrArg (fun plan => plan.result.isOk) hplan).trans hread)
  | _ => exact absurd hfills Bool.false_ne_true

/-- Filling an index from the same rules renews the engine. -/
theorem Answerable.renewed_of_fills (h : engine.Answerable log left) {other : Engine} {call : Call}
    (hfills : call.fills = true) (hok : (other.call env call).1 = true)
    (hwf : other.store.table.WellFormed) (hsound : other.index.cache.Sound)
    (hall : other.store.table.all = engine.store.table.all) : engine.Renewed (other.call env call).2 := by
  obtain ⟨-, hindex⟩ := index_of_fills hfills hwf hok
  have hmirrors := Index.mirrors_reload hsound hwf.pairwise_below
  rw [← hindex, hall] at hmirrors
  exact h.renewed hmirrors

/-- **Reloading and restarting** from an empty store on, after any run, whatever failed of it, as long as the
numbers are not used up. If the store can be read, a running engine is reloaded, and is renewed by that. If the
rules are kept in a file, and what was written to it can be read, the file is opened again, and a new engine with
it is started, and renews the one from before. -/
theorem renewed_after (disk : Option Disk) (limit : Option Nat) (uses : List Regex.Cache.Use)
    (run : List Step) (hfresh : (fresh { disk } limit uses).DrawsFresh run)
    (hleft : (run.flatMap fun step => step.call.brought).length < 9223372036854775808) :
    let engine := (fresh { disk } limit uses).after run
    (∀ env : Surroundings, engine.running = true → (env.condition 0).noReads = none →
      (engine.reload env).1.isOk = true ∧ engine.Renewed (engine.reload env).2) ∧
    ∀ file, disk = some file → Store.ofDisk file = .ok { disk } → (∀ step ∈ run, step.Recordable) →
      ∃ current opened, engine.store.disk = some current ∧ Store.ofDisk current = .ok opened ∧
        ∀ (limit : Option Nat) (uses : List Regex.Cache.Use) (env : Surroundings),
          (env.condition 0).noReads = none →
          ((fresh opened limit uses).start env).1.isOk = true ∧
            engine.Renewed ((fresh opened limit uses).start env).2 := by
  intro engine
  have h : engine.Answerable _ 0 := (answerable_fresh disk limit uses hleft).after rfl hfresh
  constructor
  · intro env hrunning hreads
    obtain ⟨served, hserves, -⟩ := h.served
    have hok : (engine.call env .reload).1 = true := isOk_of_fills rfl (fun _ => hrunning) hreads
    exact ⟨hok, h.renewed_of_fills rfl hok h.wellFormed hserves.sound rfl⟩
  · intro file hfile hempty hrecordable
    have hwritten : engine.store.WrittenThrough :=
      writtenThrough_after (Store.writtenThrough_of_ofDisk hempty) hrecordable
    obtain ⟨current, opened, hcurrent, hopen, hall⟩ := hwritten.reopens
    refine ⟨current, opened, hcurrent, hopen, fun limit uses env hreads => ?_⟩
    have hok : ((fresh opened limit uses).call env .start).1 = true := isOk_of_fills rfl nofun hreads
    refine ⟨hok, h.renewed_of_fills rfl hok (Store.wellFormed_of_ofDisk hopen) ?_ hall⟩
    exact (Index.serves_fresh limit uses).sound

/-- If nothing goes wrong, what is written can be read back, but for priorities that do not fit. -/
theorem recordable_calm {call : Call} (hgiven : ∀ rule ∈ call.given, rule.InPriorities) :
    (Step.mk calm call).Recordable := by
  refine ⟨?_, onTime_calm, hgiven⟩
  rintro i cut hcut
  cases hcut

/-- The engine with two rules for the same requests is reloaded, and a new one is started with its file. -/
theorem renewed_after_twoGreetings :
    let engine := (fresh { disk := some {} } none []).after twoGreetings
    (engine.running = true ∧ (engine.reload calm).1.isOk = true ∧ engine.Renewed (engine.reload calm).2) ∧
      ∃ current opened, engine.store.disk = some current ∧ Store.ofDisk current = .ok opened ∧
        ((fresh opened none []).start calm).1.isOk = true ∧
        engine.Renewed ((fresh opened none []).start calm).2 := by
  intro engine
  obtain ⟨hreload, hrestart⟩ :=
    renewed_after (some {}) none [] twoGreetings ⟨trivial, nofun, nofun, trivial⟩ (by decide)
  have hrecordable : ∀ step ∈ twoGreetings, step.Recordable := by
    have hgreeting : ∀ key, (greeting none key).InPriorities := fun key =>
      ⟨show (-2147483648 : Int) ≤ 0 by decide, show (0 : Int) ≤ 2147483647 by decide⟩
    intro step hstep
    simp only [twoGreetings, List.mem_cons, List.not_mem_nil, or_false] at hstep
    rcases hstep with rfl | rfl | rfl
    · exact recordable_calm (by simp [Call.given])
    · exact recordable_calm (by simp [Call.given, hgreeting])
    · exact recordable_calm (by simp [Call.given, hgreeting])
  have hrunning : engine.running = true := rfl
  obtain ⟨current, opened, hcurrent, hopen, hstart⟩ := hrestart {} rfl rfl hrecordable
  exact ⟨⟨hrunning, hreload calm hrunning rfl⟩, current, opened, hcurrent, hopen, hstart none [] calm rfl⟩

end Engine

end StubServer
