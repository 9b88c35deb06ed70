import Mathlib.Data.List.Induction
import StubServer.Proofs.Engine.Keyed

/-!
# Store and index stay together

The index is to hold the enabled rules of the store, each compiled from just the rule that is stored
(`Engine.InSync`). Every call keeps that as long as no rule that is created gets the number of an enabled
rule (`Engine.Overwrites`): the rule that was stored under it is gone, but its entry stays.

## Main statements

* `Engine.inSync_iff`: store and index are together exactly if the served rules are the enabled ones.
* `Engine.Effect.agrees_iff`: a call keeps them together exactly if it overwrites nothing.
* `Engine.inSync_after_iff`: so do runs, from a successful start on.
-/

namespace StubServer

/-- The served rules are the enabled rules of the table. -/
def Table.Agrees (table : Table) (served : List Rule) : Prop :=
  served.Perm (table.all.filter Rule.enabled)

namespace Engine

open Index (Edit serving)

/-! ### Together -/

/-- The index holds the enabled rules of the store. -/
structure InSync (engine : Engine) : Prop where
  /-- An enabled rule has an entry under its key, compiled from just this rule. -/
  served : ∀ rule ∈ engine.store.table.all, rule.enabled = true →
    engine.index.get? rule.key = some (.ofRule rule)
  /-- Every entry is that of an enabled rule. -/
  stored : ∀ entry ∈ engine.index.snapshot.byKey, ∃ rule ∈ engine.store.table.all,
    rule.enabled = true ∧ entry.1 = rule.key ∧ entry.2.matcher = .ofRule rule
  /-- No key has two entries. -/
  distinct : engine.index.keys.Nodup
  /-- There are as many entries as enabled rules are counted. -/
  counted : ∀ env : Surroundings, (∀ i, (env.condition i).noReads = none) →
    (engine.statistics env).map Statistics.enabled = .ok engine.index.size

variable {engine : Engine} {served : List Rule}

/-- As many rules are reported to be enabled as there are in the table. -/
theorem statistics_enabled {env : Surroundings} (hreads : ∀ i, (env.condition i).noReads = none) :
    (engine.statistics env).map Statistics.enabled = .ok engine.store.table.enabledCount := by
  simp [statistics, asked, Store.count, Store.countEnabled, Store.reading, hreads, Except.mapError,
    Except.map, bind, Except.bind, pure, Except.pure]

/-- **Store and index are together** exactly if the served rules are the enabled ones. -/
theorem inSync_iff (hwf : engine.store.table.WellFormed) (hserves : engine.index.Serves served) :
    engine.InSync ↔ engine.store.table.Agrees served := by
  have hentries := hserves.matchers_perm
  constructor
  · intro h
    have hserved : served.Nodup := hserves.nodup_keys.of_map
    have henabled : (engine.store.table.all.filter Rule.enabled).Nodup :=
      hwf.nodup_ids.of_map.filter _
    refine (List.perm_ext_iff_of_nodup hserved henabled).mpr fun rule => ⟨fun hmem => ?_, fun hmem => ?_⟩
    · have hentry := hentries.mem_iff.mpr (List.mem_map_of_mem hmem)
      obtain ⟨entry, hentry, heq⟩ := List.mem_map.mp hentry
      obtain ⟨stored, hstored, henabled, -, hmatcher⟩ := h.stored entry hentry
      have hsame : stored = rule :=
        congrArg Matcher.rule (hmatcher.symm.trans (Prod.mk.inj heq).2)
      exact hsame ▸ List.mem_filter.mpr ⟨hstored, henabled⟩
    · obtain ⟨hstored, henabled⟩ := List.mem_filter.mp hmem
      obtain ⟨other, hother, -, hmatcher⟩ := hserves.get?_eq_some_iff.mp (h.served rule hstored henabled)
      have hsame : other = rule := congrArg Matcher.rule hmatcher
      exact hsame ▸ hother
  · intro h
    refine ⟨fun rule hstored henabled => ?_, fun entry hentry => ?_, ?_, fun env hreads => ?_⟩
    · have hmem := h.mem_iff.mpr (List.mem_filter.mpr ⟨hstored, henabled⟩)
      exact hserves.get?_eq_some_iff.mpr ⟨rule, hmem, rfl, rfl⟩
    · obtain ⟨rule, hmem, heq⟩ :=
        List.mem_map.mp (hentries.mem_iff.mp (List.mem_map_of_mem hentry))
      obtain ⟨hstored, henabled⟩ := List.mem_filter.mp (h.mem_iff.mp hmem)
      obtain ⟨hkey, hmatcher⟩ := Prod.mk.inj heq
      exact ⟨rule, hstored, henabled, hkey.symm, hmatcher.symm⟩
    · exact hserves.keys_perm.nodup_iff.mpr hserves.nodup_keys
    · rw [statistics_enabled hreads, hserves.size_eq, h.length_eq]
      rfl

/-! ### What a call does to it -/

section Effects

variable {table after : Table} {brought created : List Rule} {existing : Rule}
  {replacement : Option Rule} {id : Int} {call : Call} {succeeded : Bool} {edits : List Edit}

/-- Filling the index from the table puts the two together. -/
theorem agrees_filled (hdistinct : (table.all.map Rule.key).Nodup) (served : List Rule) :
    table.Agrees ([Edit.reload table.all].foldl serving served) := by
  have hnodup : (([] ++ table.all.filter Rule.enabled).map Rule.key).Nodup :=
    hdistinct.sublist (List.filter_sublist.map _)
  have hserved : [Edit.reload table.all].foldl serving served = table.all.filter Rule.enabled :=
    Index.foldl_enlist hnodup
  rw [hserved]
  exact .refl _

/-- Replacing a rule, and its entry, keeps the two together. -/
theorem agrees_replaced (h : table.Replaces id existing replacement after) (hwf : table.WellFormed)
    (hdistinct : (table.all.map Rule.key).Nodup) (hagrees : table.Agrees served) :
    after.Agrees (served.filter (fun rule => rule.key != existing.key) ++
      replacement.toList.filter Rule.enabled) := by
  have hbefore := h.perm_before hwf
  have hnew : ∀ rule ∈ table.apart id, rule.key ≠ existing.key := by
    have hnodup := (hbefore.map Rule.key).nodup_iff.mp hdistinct
    intro rule hmem heq
    exact (List.nodup_cons.mp hnodup).1 (heq ▸ List.mem_map_of_mem hmem)
  have hothers : (existing :: table.apart id).filter (fun rule => rule.key != existing.key) =
      table.apart id := by
    rw [List.filter_cons_of_neg (by simp)]
    exact List.filter_eq_self.mpr fun rule hmem => bne_iff_ne.mpr (hnew rule hmem)
  have hkept : (served.filter fun rule => rule.key != existing.key).Perm
      ((table.apart id).filter Rule.enabled) := by
    have hserved := (hagrees.trans (hbefore.filter _)).filter fun rule => rule.key != existing.key
    rwa [List.filter_comm, hothers] at hserved
  refine List.Perm.trans ?_ (h.rules.filter _).symm
  rw [List.filter_append]
  exact (hkept.append_right _).trans List.perm_append_comm

/-- The served rules and more enabled rules are the enabled ones of all. -/
theorem agrees_append (hagrees : table.Agrees served) (created : List Rule) :
    (served ++ created.filter Rule.enabled).Perm ((table.all ++ created).filter Rule.enabled) := by
  rw [List.filter_append]
  exact hagrees.append_right _

/-- The entries of created rules come behind those of the others. -/
theorem serving_created (h : Plan.Creates table.all brought table created after)
    (hkeyed : Keyed table.all) (hagrees : table.Agrees served) :
    (created.map Edit.add).foldl serving served = served ++ created.filter Rule.enabled := by
  rw [Index.foldl_serving_add]
  refine Index.foldl_enlist ((((agrees_append hagrees created).map Rule.key).nodup_iff).mpr ?_)
  exact (h.keyed hkeyed).nodup_keys.sublist (List.filter_sublist.map _)

/-- **Creating rules** keeps the two together exactly if all enabled rules stay stored. -/
theorem agrees_created_iff (h : Plan.Creates table.all brought table created after)
    (hwf : table.WellFormed) (hkeyed : Keyed table.all) (hlength : brought.length ≤ 18446744073709551616)
    (hagrees : table.Agrees served) :
    after.Agrees ((created.map Edit.add).foldl serving served) ↔
      ∀ rule ∈ table.all, rule.enabled = true → rule ∈ after.all := by
  have hboth := h.keyed hkeyed
  have hsubset := h.subset hwf (List.Subset.refl _)
  have hstored := h.created_subset hwf hlength
  -- The entries after creating are those of all enabled rules, the old ones and the new ones.
  have hperm := agrees_append hagrees created
  rw [serving_created h hkeyed hagrees]
  have hafter : (after.all.filter Rule.enabled).Nodup := (h.wellFormed hwf).nodup_ids.of_map.filter _
  constructor
  · intro hagrees' rule hmem henabled
    have hserved := hperm.mem_iff.mpr
      (List.mem_filter.mpr ⟨List.mem_append_left created hmem, henabled⟩)
    exact (List.mem_filter.mp (hagrees'.mem_iff.mp hserved)).1
  · intro hkept
    refine hperm.trans ((List.perm_ext_iff_of_nodup ?_ hafter).mpr fun rule => ?_)
    · exact hboth.nodup_keys.of_map.filter _
    · rw [List.mem_filter, List.mem_filter]
      refine ⟨fun ⟨hmem, henabled⟩ => ⟨?_, henabled⟩, fun ⟨hmem, henabled⟩ => ⟨hsubset hmem, henabled⟩⟩
      rcases List.mem_append.mp hmem with hmem | hmem
      · exact hkept rule hmem henabled
      · exact hstored hmem

/-- A call that creates nothing keeps the two together. -/
theorem Effect.agrees (h : Effect table call succeeded after edits) (hwf : table.WellFormed)
    (hcreates : call.creates = false) (hdistinct : (table.all.map Rule.key).Nodup)
    (hagrees : table.Agrees served) : after.Agrees (edits.foldl serving served) := by
  cases h with
  | kept h => exact hagrees
  | filled hfills => exact agrees_filled hdistinct served
  | created hcreates' h => exact absurd (hcreates.symm.trans hcreates') Bool.false_ne_true
  | replaced htarget hdelete h hserving hkey =>
      rw [hserving]
      exact agrees_replaced h hwf hdistinct hagrees

/-- **A call** keeps the two together exactly if no enabled rule is lost by creating others. -/
theorem Effect.agrees_iff (h : Effect table call succeeded after edits) (hwf : table.WellFormed)
    (hkeyed : Keyed table.all) (hlength : call.brought.length ≤ 18446744073709551616)
    (hagrees : table.Agrees served) :
    after.Agrees (edits.foldl serving served) ↔
      ¬ (call.creates = true ∧ ∃ rule ∈ table.all, rule.enabled = true ∧ rule ∉ after.all) := by
  by_cases hcreates : call.creates = true
  · cases h with
    | kept h => exact iff_of_true hagrees fun ⟨_, rule, hmem, _, hlost⟩ => hlost hmem
    | filled hfills => cases call <;> simp [Call.fills, Call.creates] at hfills hcreates
    | created _ h =>
        rw [agrees_created_iff h hwf hkeyed hlength hagrees]
        simp only [hcreates, true_and, not_exists, not_and, not_not]
    | replaced htarget hdelete h hserving hkey =>
        cases call <;> simp [Call.target?, Call.creates] at htarget hcreates
  · have hnot := eq_false_of_ne_true hcreates
    exact iff_of_true (h.agrees hwf hnot hkeyed.nodup_keys hagrees) fun h => hcreates h.1

end Effects

/-! ### Runs -/

section Runs

variable {step : Step} {run : List Step} {store : Store}

/-- Whether a call creates a rule under the number of an enabled one, which is lost by that. -/
def Overwrites (engine : Engine) (step : Step) : Prop :=
  step.call.creates = true ∧ ∃ rule ∈ engine.store.table.all, rule.enabled = true ∧
    rule ∉ (engine.after [step]).store.table.all

/-- Stored rules are keyed, and what the index holds are compiled rules. -/
structure Orderly (engine : Engine) : Prop where
  wellFormed : engine.store.table.WellFormed
  keyed : Keyed engine.store.table.all
  serves : ∃ served, engine.index.Serves served

/-- Every call leaves an engine orderly. -/
theorem Orderly.next (h : engine.Orderly)
    (hfresh : step.call.DrawsFresh step.env engine.store.table) : (engine.after [step]).Orderly := by
  obtain ⟨served, hserves⟩ := h.serves
  obtain ⟨edits, heffect, hindex⟩ := engine.call_effect step.env step.call h.wellFormed hfresh
  exact ⟨heffect.wellFormed h.wellFormed, heffect.keyed h.wellFormed h.keyed, edits.foldl serving served,
    hindex ▸ hserves.foldl_apply edits⟩

/-- Every run leaves an engine orderly. -/
theorem Orderly.after (h : engine.Orderly) (hfresh : engine.DrawsFresh run) :
    (engine.after run).Orderly := by
  induction run generalizing engine with
  | nil => exact h
  | cons step rest ih => exact ih (h.next hfresh.1) hfresh.2

/-- After a call the two are still together exactly if it overwrites nothing. -/
theorem Orderly.inSync_step_iff (h : engine.Orderly)
    (hfresh : step.call.DrawsFresh step.env engine.store.table)
    (hlength : step.call.brought.length ≤ 18446744073709551616) (hsync : engine.InSync) :
    (engine.after [step]).InSync ↔ ¬ engine.Overwrites step := by
  obtain ⟨served, hserves⟩ := h.serves
  obtain ⟨edits, heffect, hindex⟩ := engine.call_effect step.env step.call h.wellFormed hfresh
  have hagrees := (inSync_iff h.wellFormed hserves).mp hsync
  have hafter := hserves.foldl_apply edits
  rw [← hindex] at hafter
  exact (inSync_iff (heffect.wellFormed h.wellFormed) hafter).trans
    (heffect.agrees_iff h.wellFormed h.keyed hlength hagrees)

/-- A successful start leaves the table and puts the index together with it. -/
theorem agrees_start {env : Surroundings} (hstart : (engine.start env).1.isOk = true)
    (hwf : engine.store.table.WellFormed) (hdistinct : (engine.store.table.all.map Rule.key).Nodup)
    (hserves : engine.index.Serves served) :
    (engine.start env).2.store.table = engine.store.table ∧
      ∃ served, (engine.start env).2.index.Serves served ∧ engine.store.table.Agrees served := by
  have hcall : (engine.call env .start).1 = true := hstart
  obtain ⟨htable, hindex⟩ := index_of_fills rfl hwf hcall
  refine ⟨htable, _, ?_, agrees_filled hdistinct served⟩
  exact hindex ▸ hserves.apply (.reload engine.store.table.all)

/-- **Store and index stay together** from a successful start on, in whatever way the calls of a run
fail, exactly if no call of the run overwrites an enabled rule. -/
theorem inSync_after_iff (hstore : store.Reachable) (hkeyed : Keyed store.table.all)
    (limit : Option Nat) (uses : List Regex.Cache.Use) (env : Surroundings)
    (hstart : ((fresh store limit uses).start env).1.isOk = true)
    (hfresh : ((fresh store limit uses).start env).2.DrawsFresh run)
    (hlength : ∀ step ∈ run, step.call.brought.length ≤ 18446744073709551616) :
    let started := ((fresh store limit uses).start env).2
    (∀ done, done <+: run → (started.after done).InSync) ↔
      ∀ done step, done ++ [step] <+: run → ¬ (started.after done).Overwrites step := by
  intro started
  obtain ⟨htable, served, hserves, hagrees⟩ := agrees_start hstart hstore.wellFormed
    hkeyed.nodup_keys (Index.serves_fresh limit uses)
  have hwf : started.store.table.WellFormed := htable ▸ hstore.wellFormed
  have horderly : started.Orderly := ⟨hwf, htable ▸ hkeyed, served, hserves⟩
  have hsync : started.InSync := (inSync_iff hwf hserves).mpr (htable ▸ hagrees)
  -- One call of the run, from the state that those before it lead to.
  have hstep : ∀ done step, done ++ [step] <+: run → (started.after done).InSync →
      ((started.after (done ++ [step])).InSync ↔ ¬ (started.after done).Overwrites step) := by
    rintro done step ⟨rest, rfl⟩ hdone
    rw [drawsFresh_append, drawsFresh_append] at hfresh
    rw [after_append]
    exact (horderly.after hfresh.1.1).inSync_step_iff hfresh.1.2.1 (hlength step (by simp)) hdone
  constructor
  · intro hall done step hprefix
    have hdone := hall done ((List.prefix_append _ _).trans hprefix)
    exact (hstep done step hprefix hdone).mp (hall _ hprefix)
  · intro hnone done
    induction done using List.reverseRecOn with
    | nil => exact fun _ => hsync
    | append_singleton done step ih =>
        intro hprefix
        exact (hstep done step hprefix (ih ((List.prefix_append _ _).trans hprefix))).mpr
          (hnone done step hprefix)

end Runs

/-! ### The numbers run full circle -/

/-- A rule that greets, with a key of its own. -/
def greeting (id : Option Int) (key : String) : Rule :=
  { Rule.new "greeting" "GET" "/greeting" with id, externalKey := some key }

/-- A store with the rules under the least and the greatest number. -/
def fullCircle : Store where
  table :=
    { rows := [
        (-9223372036854775808, greeting (some (-9223372036854775808)) "first"),
        (9223372036854775807, greeting (some 9223372036854775807) "last")]
      lastId := 9223372036854775807 }

/-- Such a store comes about. -/
theorem reachable_fullCircle : fullCircle.Reachable := by
  have hrules : Store.ofRules [greeting (some 9223372036854775807) "last",
      greeting (some (-9223372036854775808)) "first"] = .ok fullCircle := rfl
  exact .ofRules hrules

/-- Its rules have keys of their own. -/
theorem keyed_fullCircle : Keyed fullCircle.table.all where
  keyed := by decide
  distinct := by decide

/-- The call that creates one more greeting. -/
def oneMore : Step where
  env := calm
  call := .create (greeting none "more")

/-- The condition can be met and missed: one more rule in that store. -/
theorem inSync_after_iff_oneMore :
    let started := ((fresh fullCircle none []).start calm).2
    (∀ done, done <+: [oneMore] → (started.after done).InSync) ↔
      ∀ done step, done ++ [step] <+: [oneMore] → ¬ (started.after done).Overwrites step :=
  inSync_after_iff reachable_fullCircle keyed_fullCircle none [] calm rfl
    ⟨nofun, trivial⟩ (by decide)

/-- **Not every run keeps store and index together.** After the greatest number comes the least, and the
rule that is stored under it is lost, but still served. -/
theorem not_forall_inSync_after :
    ¬ ∀ (store : Store) (limit : Option Nat) (uses : List Regex.Cache.Use) (env : Surroundings)
        (run : List Step), store.Reachable → Keyed store.table.all →
      ((fresh store limit uses).start env).1.isOk = true →
      ((fresh store limit uses).start env).2.DrawsFresh run →
      (((fresh store limit uses).start env).2.after run).InSync := by
  intro hall
  have hsync := hall fullCircle none [] calm [oneMore] reachable_fullCircle keyed_fullCircle rfl
    ⟨nofun, trivial⟩
  have hcounted := hsync.counted calm fun _ => rfl
  rw [statistics_enabled fun _ => rfl] at hcounted
  -- Two rules are stored, and three are served.
  have hstored : (((fresh fullCircle none []).start calm).2.after [oneMore]).store.table.enabledCount = 2 :=
    rfl
  have hserved : (((fresh fullCircle none []).start calm).2.after [oneMore]).index.size = 3 := rfl
  rw [hstored, hserved] at hcounted
  exact absurd (Except.ok.inj hcounted) (by decide)

end Engine

end StubServer
