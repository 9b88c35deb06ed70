import StubServer.Proofs.Engine.Sync

/-!
# Rules that shadow one another

A file may hold rules with and without keys of their own, and nothing keeps two of them from having the
same key: one may bring as its own key just the text that another gets from its number. Of two such rules
the index serves only one, and what happens to the one happens to the entry of the other.

## Main statements

* `Engine.serves_own_rules_iff`: from a start with an opened file on, every enabled rule keeps an entry of
  its own, which no change of another rule touches, exactly if the keys are distinct.
-/

namespace StubServer

namespace Engine

open Index (Edit serving)

/-! ### Changes -/

/-- The calls that change what is stored already, and the one that fills the index anew. -/
def Call.IsChange : Call → Prop
  | .update _ _ | .delete _ | .toggle _ | .reload => True
  | _ => False

/-- Such a call creates nothing. -/
theorem Call.IsChange.creates_eq_false {call : Call} (h : call.IsChange) : call.creates = false := by
  cases call <;> first | rfl | exact h.elim

/-- Such a call draws no keys. -/
theorem Call.IsChange.drawsFresh {call : Call} (h : call.IsChange) (env : Surroundings) (table : Table) :
    call.DrawsFresh env table := by
  cases call <;> trivial

/-- A call for the rule with a number leaves the entries of all other rules as they are. -/
def LeavesOthers (engine : Engine) (step : Step) : Prop :=
  ∀ id, step.call.target? = some id → ∀ other ∈ engine.store.table.all, other.id ≠ some id →
    (engine.after [step]).index.snapshot.byKey.find? other.key =
      engine.index.snapshot.byKey.find? other.key

/-- The keys of stored rules are distinct, and the served rules are the enabled ones. -/
structure Unshadowed (engine : Engine) : Prop where
  wellFormed : engine.store.table.WellFormed
  distinct : (engine.store.table.all.map Rule.key).Nodup
  agrees : ∃ served, engine.index.Serves served ∧ engine.store.table.Agrees served

variable {engine : Engine} {step : Step} {run : List Step} {store : Store}

/-- An engine whose rules are not shadowed has store and index together. -/
theorem Unshadowed.inSync (h : engine.Unshadowed) : engine.InSync := by
  obtain ⟨served, hserves, hagrees⟩ := h.agrees
  exact (inSync_iff h.wellFormed hserves).mpr hagrees

/-- No change shadows a rule. -/
theorem Unshadowed.next (h : engine.Unshadowed) (hchange : step.call.IsChange) :
    (engine.after [step]).Unshadowed := by
  obtain ⟨served, hserves, hagrees⟩ := h.agrees
  obtain ⟨edits, heffect, hindex⟩ := engine.call_effect step.env step.call h.wellFormed
    (hchange.drawsFresh _ _)
  refine ⟨heffect.wellFormed h.wellFormed,
    heffect.nodup_keys h.wellFormed hchange.creates_eq_false h.distinct, edits.foldl serving served, ?_,
    heffect.agrees h.wellFormed hchange.creates_eq_false h.distinct hagrees⟩
  exact hindex ▸ hserves.foldl_apply edits

/-- No changes shadow a rule. -/
theorem Unshadowed.after (h : engine.Unshadowed) (hchanges : ∀ step ∈ run, step.call.IsChange) :
    (engine.after run).Unshadowed := by
  induction run generalizing engine with
  | nil => exact h
  | cons step rest ih =>
      obtain ⟨hchange, hrest⟩ := List.forall_mem_cons.mp hchanges
      exact ih (h.next hchange) hrest

/-- What a change does for a rule with a number leaves the entries of all other rules. -/
theorem Effect.find?_byKey {table after : Table} {call : Call} {succeeded : Bool} {edits : List Edit}
    (h : Effect table call succeeded after edits) (hwf : table.WellFormed)
    (hdistinct : (table.all.map Rule.key).Nodup) (hchange : call.IsChange) {id : Int}
    (htarget : call.target? = some id) {other : Rule} (hother : other ∈ table.all)
    (hne : other.id ≠ some id) (index : Index) :
    (edits.foldl Index.apply index).snapshot.byKey.find? other.key =
      index.snapshot.byKey.find? other.key := by
  cases h with
  | kept h => rfl
  | filled hfills => cases call <;> simp [Call.fills, Call.target?] at hfills htarget
  | created hcreates h =>
      exact absurd (hchange.creates_eq_false.symm.trans hcreates) Bool.false_ne_true
  | replaced htarget' hdelete hreplaces hserving hkey =>
      obtain rfl : id = _ := Option.some.inj (htarget.symm.trans htarget')
      refine Index.find?_byKey_foldl_apply index hkey fun heq => ?_
      obtain ⟨hexisting, hid⟩ := hwf.find?_eq_some_iff.mp hreplaces.found
      have hsame := List.inj_on_of_nodup_map hdistinct hother hexisting heq
      exact hne (hsame ▸ hid)

/-- **A change of one rule** leaves the entries of the others. -/
theorem Unshadowed.leavesOthers (h : engine.Unshadowed) (hchange : step.call.IsChange) :
    engine.LeavesOthers step := by
  intro id htarget other hother hne
  obtain ⟨edits, heffect, hindex⟩ := engine.call_effect step.env step.call h.wellFormed
    (hchange.drawsFresh _ _)
  have hafter : (engine.after [step]).index = edits.foldl Index.apply engine.index := hindex
  rw [hafter]
  exact heffect.find?_byKey h.wellFormed h.distinct hchange htarget hother hne engine.index

/-! ### Enabling a rule -/

/-- The engine is running, and its store can be written. -/
structure Ready (engine : Engine) : Prop where
  wellFormed : engine.store.table.WellFormed
  running : engine.running = true
  writable : engine.store.Writable

/-- If nothing goes wrong, toggling replaces a stored rule by the toggled one. -/
theorem Ready.toggle (h : engine.Ready) {id : Int} {existing : Rule}
    (hfind : engine.store.table.find? id = some existing) :
    (engine.after [⟨calm, .toggle id⟩]).Ready ∧ engine.store.table.Replaces id existing
      (some (Plan.toggled existing default)) (engine.after [⟨calm, .toggle id⟩]).store.table := by
  obtain ⟨hmem, hid⟩ := h.wellFormed.find?_eq_some_iff.mp hfind
  have hcontains := h.wellFormed.contains_iff.mpr ⟨existing, hmem, hid⟩
  set rule := Plan.toggled existing default
  have hsave : engine.store.table.save rule = .ok (rule, _) := Table.save_stored hid hcontains
  obtain ⟨-, hreplaces⟩ := h.wellFormed.replaces_of_save hfind hsave rfl rfl fun hvalid => hvalid
  obtain ⟨after, hcall, htable, hwritable⟩ := h.writable.save hsave
  have hload : engine.store.load (calm.condition 0) id = .ok (some existing) := by
    rw [← hfind]
    rfl
  have hplan : (engine.ifRunning (Plan.toggle calm id)).store = after := by
    unfold ifRunning
    rw [if_pos h.running]
    unfold Plan.toggle Plan.withExisting Plan.withRead
    rw [hload]
    change (Plan.endingWith (engine.store.save {} rule) _ _).store = after
    rw [hcall]
    rfl
  obtain ⟨hstore, -, hrunning⟩ := foldl_edit (engine.ifRunning (Plan.toggle calm id)).edits
    { engine with store := (engine.ifRunning (Plan.toggle calm id)).store }
  have hafter : (engine.after [⟨calm, .toggle id⟩]).store = after := hstore.trans hplan
  rw [hafter, htable]
  refine ⟨⟨?_, hrunning.trans h.running, hafter ▸ hwritable⟩, hreplaces⟩
  rw [hafter, htable]
  exact hreplaces.wellFormed

/-- A rule can be enabled, while others stay as they are. -/
theorem Ready.exists_enabled (h : engine.Ready) (id : Int) :
    ∃ run : List Step, (∀ step ∈ run, step.call.IsChange) ∧ (engine.after run).Ready ∧
      ∀ rule ∈ engine.store.table.all, ∃ kept ∈ (engine.after run).store.table.all,
        kept.id = rule.id ∧ kept.key = rule.key ∧
          (rule.enabled = true ∨ rule.id = some id → kept.enabled = true) := by
  by_cases hdisabled : ∃ existing, engine.store.table.find? id = some existing ∧ existing.enabled = false
  · obtain ⟨existing, hfind, hexisting⟩ := hdisabled
    obtain ⟨hready, hreplaces⟩ := h.toggle hfind
    refine ⟨[⟨calm, .toggle id⟩], by simp [Call.IsChange], hready, fun rule hmem => ?_⟩
    rcases List.mem_cons.mp ((hreplaces.perm_before h.wellFormed).mem_iff.mp hmem) with rfl | hapart
    · refine ⟨_, hreplaces.rules.mem_iff.mpr (List.mem_cons_self), rfl, ?_, fun _ => ?_⟩
      · exact hreplaces.key_eq h.wellFormed _ rfl
      · simp [Plan.toggled, hexisting]
    · refine ⟨rule, hreplaces.rules.mem_iff.mpr (List.mem_cons_of_mem _ hapart), rfl, rfl, ?_⟩
      rintro (henabled | hid)
      · exact henabled
      · exact absurd hid (bne_iff_ne.mp (List.mem_filter.mp hapart).2)
  · refine ⟨[], by simp, h, fun rule hmem => ⟨rule, hmem, rfl, rfl, ?_⟩⟩
    rintro (henabled | hid)
    · exact henabled
    · by_contra hnot
      exact hdisabled ⟨rule, h.wellFormed.find?_eq_some_iff.mpr ⟨hmem, hid⟩, eq_false_of_ne_true hnot⟩

/-- **Rules with one key** shadow one another as soon as they are enabled. -/
theorem Ready.nodup_keys (h : engine.Ready)
    (hsync : ∀ run : List Step, (∀ step ∈ run, step.call.IsChange) → (engine.after run).InSync) :
    (engine.store.table.all.map Rule.key).Nodup := by
  refine h.wellFormed.nodup_ids.of_map.map_on fun a ha b hb hkey => ?_
  obtain ⟨i, hi, -⟩ := h.wellFormed.mem_all_iff.mp ha
  obtain ⟨j, hj, -⟩ := h.wellFormed.mem_all_iff.mp hb
  obtain ⟨first, hfirst, hready, hkept⟩ := h.exists_enabled i
  obtain ⟨second, hsecond, -, hkept'⟩ := hready.exists_enabled j
  obtain ⟨a', ha', hida, hkeya, henableda⟩ := hkept a ha
  obtain ⟨b', hb', hidb, hkeyb, -⟩ := hkept b hb
  obtain ⟨a'', ha'', hida', hkeya', henableda'⟩ := hkept' a' ha'
  obtain ⟨b'', hb'', hidb', hkeyb', henabledb'⟩ := hkept' b' hb'
  have hboth := hsync (first ++ second) fun step hstep => by
    rcases List.mem_append.mp hstep with hstep | hstep
    · exact hfirst step hstep
    · exact hsecond step hstep
  rw [after_append] at hboth
  have hentrya := hboth.served a'' ha'' (henableda' (.inl (henableda (.inr hi))))
  have hentryb := hboth.served b'' hb'' (henabledb' (.inr (hidb.trans hj)))
  rw [hkeya', hkeya, hkey, ← hkeyb, ← hkeyb', hentryb] at hentrya
  have hsame : b'' = a'' := congrArg Matcher.rule (Option.some.inj hentrya)
  refine h.wellFormed.eq_of_id_eq ha hb ?_
  rw [← hida, ← hida', ← hsame, hidb', hidb]

/-! ### Opened files -/

/-- A started engine is running, with the store it had. -/
theorem start_ok {env : Surroundings} (hstart : (engine.start env).1.isOk = true) :
    (engine.start env).2.running = true ∧ (engine.start env).2.store = engine.store := by
  set plan := Plan.reload env engine.store
  have hplan : plan.store = engine.store := by
    rcases Plan.reload_cases env engine.store with ⟨error, heq⟩ | heq
    · exact congrArg Plan.store heq
    · exact congrArg Plan.store heq
  have hdone : (withSize (engine.perform plan)).1.isOk = true := hstart
  have heq : (engine.start env).2 = { (engine.perform plan).2 with running := true } := if_pos hdone
  obtain ⟨hstore, -⟩ := foldl_edit plan.edits { engine with store := plan.store }
  rw [heq]
  exact ⟨rfl, hstore.trans hplan⟩

/-- **Every enabled rule has its own entry**, from a start with an opened file on and whatever is changed
after that, and no change of one rule touches the entry of another, exactly if the keys of the rules in
the file are distinct. -/
theorem serves_own_rules_iff {disk : Disk} (hopen : Store.ofDisk disk = .ok store) (limit : Option Nat)
    (uses : List Regex.Cache.Use) (env : Surroundings)
    (hstart : ((fresh store limit uses).start env).1.isOk = true) :
    let started := ((fresh store limit uses).start env).2
    (∀ run : List Step, (∀ step ∈ run, step.call.IsChange) → (started.after run).InSync ∧
        ∀ step : Step, step.call.IsChange → (started.after run).LeavesOthers step) ↔
      (store.table.all.map Rule.key).Nodup := by
  intro started
  have hwf := Store.wellFormed_of_ofDisk hopen
  obtain ⟨hrunning, hstore⟩ := start_ok hstart
  change started.store = store at hstore
  constructor
  · intro hall
    cases hrules : store.table.all with
    | nil => simp
    | cons rule rest =>
        have hmem : rule ∈ store.table.all := hrules ▸ List.mem_cons_self
        have hready : started.Ready :=
          ⟨hstore ▸ hwf, hrunning, hstore ▸ Store.writable_of_ofDisk hopen hmem⟩
        have hnodup := hready.nodup_keys fun run hchanges => (hall run hchanges).1
        rw [hstore, hrules] at hnodup
        exact hnodup
  · intro hdistinct run hchanges
    obtain ⟨htable, served, hserves, hagrees⟩ := agrees_start hstart hwf hdistinct
      (Index.serves_fresh limit uses)
    have hstarted : started.Unshadowed :=
      ⟨htable ▸ hwf, htable ▸ hdistinct, served, hserves, htable ▸ hagrees⟩
    have hafter := hstarted.after hchanges
    exact ⟨hafter.inSync, fun step hchange => hafter.leavesOthers hchange⟩

/-- A file with two rules. The first has as its own key what the second gets from its number. -/
def shadowedFile : Disk where
  target := some ("[\x7b\"id\":1,\"uuid\":\"stub-2\",\"name\":\"a\",\"method\":\"GET\",\"url\":\"/a\"," ++
    "\"responseDefinition\":\"\x7b\x7d\"\x7d,\x7b\"id\":2,\"name\":\"b\",\"method\":\"GET\"," ++
    "\"url\":\"/b\",\"responseDefinition\":\"\x7b\x7d\"\x7d]")

/-- The store that is opened with this file. -/
def shadowed : Store where
  table :=
    { rows := [
        (1, { Rule.new "a" "GET" "/a" with id := some 1, externalKey := some "stub-2" }),
        (2, { Rule.new "b" "GET" "/b" with id := some 2 })]
      lastId := 2 }
  disk := some shadowedFile

/-- It is opened with this file. -/
theorem ofDisk_shadowedFile : Store.ofDisk shadowedFile = .ok shadowed := by decide +kernel

/-- The condition for the rules of this file. -/
theorem serves_own_rules_iff_shadowed :
    let started := ((fresh shadowed none []).start calm).2
    (∀ run : List Step, (∀ step ∈ run, step.call.IsChange) → (started.after run).InSync ∧
        ∀ step : Step, step.call.IsChange → (started.after run).LeavesOthers step) ↔
      (shadowed.table.all.map Rule.key).Nodup :=
  serves_own_rules_iff ofDisk_shadowedFile none [] calm rfl

/-- **Not every opened file has its rules served.** Of two enabled rules with one key only one is. -/
theorem not_forall_inSync_of_ofDisk :
    ¬ ∀ (disk : Disk) (store : Store) (limit : Option Nat) (uses : List Regex.Cache.Use)
        (env : Surroundings), Store.ofDisk disk = .ok store →
      ((fresh store limit uses).start env).1.isOk = true →
      ((fresh store limit uses).start env).2.InSync := by
  intro hall
  have hsync := hall shadowedFile shadowed none [] calm ofDisk_shadowedFile rfl
  have hcounted := hsync.counted calm fun _ => rfl
  rw [statistics_enabled fun _ => rfl] at hcounted
  -- Two rules are enabled, and one is served.
  have hstored : ((fresh shadowed none []).start calm).2.store.table.enabledCount = 2 := rfl
  have hserved : ((fresh shadowed none []).start calm).2.index.size = 1 := rfl
  rw [hstored, hserved] at hcounted
  exact absurd (Except.ok.inj hcounted) (by decide)

end Engine

end StubServer
