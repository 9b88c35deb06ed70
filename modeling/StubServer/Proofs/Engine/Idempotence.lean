import StubServer.Proofs.Engine.Restart
import StubServer.Proofs.Engine.Seeding

/-!
# Creating the same rules twice

A list of rules that was created once does nothing when it is created again: each of its rules is for a method and
a URL pattern for which something is stored by then, and is skipped. What is stored for a method and a URL pattern
stays so when rules are toggled, when others are created, when the index is made anew, and when the file of the
store is opened again. Only one thing takes it away: the numbers, which begin again after the greatest one, reach
the number of the rule, and another rule is stored in its place (`Engine.Displaces`).

## Main statements

* `Plan.any_sameRoute_of_createEach`: what creating rules leaves known.
* `Engine.idle_iff`: creating rules does nothing exactly if something is stored for each of them.
* `Engine.call_covers_iff`, `Engine.covers_restart`: what is stored for rules after a call and after a restart.
* `Engine.Displaces.recycles`: a rule is displaced only if a number in use is given anew.
* `Engine.idle_after_iff`: when creating the same rules again does nothing, after any run.
-/

namespace StubServer

/-! ### Methods and URL patterns -/

namespace Plan

variable {env : Surroundings} {i : Nat} {known rules saved : List Rule} {store : Store}

/-- Rules for known methods and URL patterns are skipped. -/
theorem createEach_of_known (h : ∀ rule ∈ rules, (known.any fun other => other.sameRoute rule) = true)
    (env : Surroundings) (i : Nat) (store : Store) :
    createEach env i known rules store = { result := .ok [], store } := by
  induction rules generalizing i with
  | nil => rfl
  | cons rule rest ih =>
      obtain ⟨hrule, hrest⟩ := List.forall_mem_cons.mp h
      rw [createEach, if_pos hrule, ih hrest]

/-- **When rules were created**, their methods and URL patterns are those of rules that were known or are now. -/
theorem any_sameRoute_of_createEach (hok : (createEach env i known rules store).result = .ok saved) :
    ∀ rule ∈ rules, ((known ++ saved).any fun other => other.sameRoute rule) = true := by
  induction rules generalizing i known store saved with
  | nil => simp
  | cons rule rest ih =>
      rw [createEach] at hok
      split at hok
      · rename_i hroute
        refine List.forall_mem_cons.mpr ⟨?_, ih hok⟩
        rw [List.any_append, hroute, Bool.true_or]
      · rcases createOne_cases env i known rule store with
          ⟨error, after, heq, -⟩ | ⟨first, after, -, -, hsave, heq⟩
        · simp [heq, fail] at hok
        · simp only [heq] at hok
          obtain ⟨others, hothers, rfl⟩ := exists_of_map_eq_ok hok
          obtain ⟨id, rfl, -⟩ := Table.rows_of_save hsave
          have hrest := ih hothers
          rw [List.append_assoc, List.singleton_append] at hrest
          refine List.forall_mem_cons.mpr ⟨?_, hrest⟩
          refine List.any_eq_true.mpr ⟨_, List.mem_append_right known List.mem_cons_self, ?_⟩
          simp [Rule.sameRoute, Rule.normalizedMethod, prepared]

end Plan

namespace Table

/-- Something is stored for the method and the URL pattern of each rule. -/
def Covers (table : Table) (rules : List Rule) : Prop :=
  ∀ rule ∈ rules, ∃ stored ∈ table.all, stored.sameRoute rule = true

/-- Whatever something was stored for, something is stored for. -/
def KeepsRoutes (table after : Table) : Prop :=
  ∀ other ∈ table.all, ∃ stored ∈ after.all, ∀ rule, stored.sameRoute rule = other.sameRoute rule

variable {table after : Table} {existing replacement : Rule} {rules : List Rule} {id : Int}

/-- A table with the same rules keeps what it has something stored for. -/
theorem keepsRoutes_of_all_eq (h : after.all = table.all) : table.KeepsRoutes after :=
  fun other hother => ⟨other, h ▸ hother, fun _ => rfl⟩

/-- What was covered stays covered. -/
theorem KeepsRoutes.covers (h : table.KeepsRoutes after) (hcovers : table.Covers rules) : after.Covers rules := by
  intro rule hrule
  obtain ⟨other, hother, hsame⟩ := hcovers rule hrule
  obtain ⟨stored, hstored, hroute⟩ := h other hother
  exact ⟨stored, hstored, (hroute rule).trans hsame⟩

/-- A rule that is replaced by one for the same method and URL pattern. -/
theorem Replaces.keepsRoutes (h : table.Replaces id existing (some replacement) after) (hwf : table.WellFormed)
    (hroute : ∀ rule, replacement.sameRoute rule = existing.sameRoute rule) : table.KeepsRoutes after := by
  intro other hother
  rcases List.mem_cons.mp ((hwf.perm_of_find? h.found).mem_iff.mp hother) with rfl | hother
  · exact ⟨replacement, h.rules.mem_iff.mpr List.mem_cons_self, hroute⟩
  · exact ⟨other, h.rules.mem_iff.mpr (List.mem_cons_of_mem _ hother), fun _ => rfl⟩

end Table

/-! ### Calls -/

namespace Engine

variable {engine : Engine} {env : Surroundings} {call : Call} {step : Step} {rules created : List Rule}

/-- Creating the rules does nothing. -/
structure Idle (engine : Engine) (env : Surroundings) (rules : List Rule) : Prop where
  /-- It succeeds, and no rule is created. -/
  result : (engine.createBatch env rules).1 = .ok []
  /-- The stored rules and the file stay, -/
  store : (engine.createBatch env rules).2.store = engine.store
  /-- and so do the entries of the index and its generation. -/
  index : (engine.createBatch env rules).2.index = engine.index

/-- **Creating valid rules does nothing** exactly if something is stored for each of them. -/
theorem idle_iff (hrunning : engine.running = true) (hreads : ∀ k, (env.condition k).noReads = none)
    (hvalid : ∀ rule ∈ rules, rule.validate = .ok ()) :
    engine.Idle env rules ↔ engine.store.table.Covers rules := by
  have hbatch := carriesOut_createBatch hrunning hreads hvalid
  constructor
  · intro h rule hrule
    have hknown := Plan.any_sameRoute_of_createEach (hbatch.result.symm.trans h.result) rule hrule
    rw [List.append_nil] at hknown
    exact List.any_eq_true.mp hknown
  · intro h
    rw [Plan.createEach_of_known fun rule hrule => List.any_eq_true.mpr (h rule hrule)] at hbatch
    exact ⟨hbatch.result, hbatch.store, hbatch.index⟩

/-- A call gives the number of a stored rule to a new one, and nothing is stored after it for the method and the URL
pattern of that rule, which are those of a given one. -/
def Displaces (engine : Engine) (rules : List Rule) (step : Step) : Prop :=
  ∃ lost ∈ engine.store.table.all, (∃ saved ∈ engine.created step.env step.call, saved.id = lost.id) ∧
    ∃ rule ∈ rules, lost.sameRoute rule = true ∧
      ∀ stored ∈ (engine.call step.env step.call).2.store.table.all, stored.sameRoute rule = false

/-- **Only if a number in use is given anew**, a rule is displaced. -/
theorem Displaces.recycles (h : engine.Displaces rules step) (hwf : engine.store.table.WellFormed) :
    engine.Recycles step := by
  obtain ⟨lost, hlost, ⟨saved, hsaved, hnumber⟩, -⟩ := h
  obtain ⟨id, hid, -⟩ := hwf.mem_all_iff.mp hlost
  have hcreates : step.call.creates = true := by
    by_contra hnot
    rw [created, if_neg hnot] at hsaved
    cases hsaved
  obtain ⟨hreceives, -⟩ := call_receives engine step.env hcreates
  obtain ⟨k, hpos, hle, rfl⟩ := hreceives.exists_id_iff.mp ⟨saved, hsaved, hnumber.trans hid⟩
  exact ⟨k, hpos, hle, hwf.contains_iff.mpr ⟨lost, hlost, hid⟩⟩

/-- A call that displaces a rule leaves that without anything. -/
theorem Displaces.not_covers (h : engine.Displaces rules step) :
    ¬ (engine.call step.env step.call).2.store.table.Covers rules := by
  obtain ⟨-, -, -, rule, hrule, -, hnone⟩ := h
  intro hcovers
  obtain ⟨stored, hstored, hsame⟩ := hcovers rule hrule
  exact Bool.false_ne_true ((hnone stored hstored).symm.trans hsame)

/-- A call that creates rules keeps stored what was stored or is created, unless it displaces a rule. -/
theorem covers_of_creates (hwf : engine.store.table.WellFormed) (hcreates : step.call.creates = true)
    (hlength : step.call.brought.length ≤ 18446744073709551616)
    (hknown : ∀ rule ∈ rules, ∃ other ∈ engine.store.table.all ++ engine.created step.env step.call,
      other.sameRoute rule = true)
    (hnot : ¬ engine.Displaces rules step) : (engine.call step.env step.call).2.store.table.Covers rules := by
  obtain ⟨hreceives, hle⟩ := call_receives engine step.env hcreates
  obtain ⟨hstored, -⟩ := hreceives.stored hwf (Nat.le_trans hle hlength)
  intro rule hrule
  obtain ⟨other, hother, hsame⟩ := hknown rule hrule
  rcases List.mem_append.mp hother with hother | hother
  · by_contra hnone
    have hnone : ∀ stored ∈ (engine.call step.env step.call).2.store.table.all, stored.sameRoute rule = false :=
      fun stored hmem => eq_false_of_ne_true fun hroute => hnone ⟨stored, hmem, hroute⟩
    obtain ⟨id, hid, -⟩ := hwf.mem_all_iff.mp hother
    -- The rule is gone, so its number was given to another one.
    have hgiven : ∃ saved ∈ engine.created step.env step.call, saved.id = some id := by
      by_contra hunused
      have hfind := hreceives.find?_eq hwf fun k hpos hle hk =>
        hunused (hreceives.exists_id_iff.mpr ⟨k, hpos, hle, hk⟩)
      have hkept := (hreceives.wellFormed hwf).find?_eq_some_iff.mp
        (hfind.trans (hwf.find?_eq_some_iff.mpr ⟨hother, hid⟩))
      exact Bool.false_ne_true ((hnone other hkept.1).symm.trans hsame)
    exact hnot ⟨other, hother, hid ▸ hgiven, rule, hrule, hsame, hnone⟩
  · exact ⟨other, hstored hother, hsame⟩

/-- Calls that neither change what a rule is for nor delete or stop anything. -/
def Call.spares : Call → Bool
  | .stop | .update _ _ | .delete _ => false
  | .start | .create _ | .createBatch _ | .toggle _ | .reload => true

/-- Of these, those that create nothing keep what there is something stored for. -/
theorem call_keepsRoutes (env : Surroundings) (hwf : engine.store.table.WellFormed) (hspares : call.spares = true)
    (hcreates : call.creates = false) :
    engine.store.table.KeepsRoutes (engine.call env call).2.store.table := by
  have hkept := Table.keepsRoutes_of_all_eq (rfl : engine.store.table.all = engine.store.table.all)
  refine call_induction (P := fun store _ => engine.store.table.KeepsRoutes store.table) engine env call
    hkept (fun _ => hkept) ?_ ?_ ?_ ?_ ?_
  · rintro rule rfl
    cases hcreates
  · rintro rules rfl
    cases hcreates
  · rintro id changes rfl
    cases hspares
  · rintro id rfl
    cases hspares
  · rintro id -
    rcases Plan.toggle_cases env id engine.store with
      ⟨error, after, heq, htable⟩ | ⟨existing, saved, after, hfind, hsave, heq⟩
    · rw [heq]
      exact htable ▸ hkept
    · rw [heq]
      obtain ⟨rfl, hreplaces⟩ := hwf.replaces_of_save hfind hsave rfl rfl fun hvalid => hvalid
      exact hreplaces.keepsRoutes hwf fun rule => rfl

/-- **What is stored for rules** is so after such a call, exactly if this displaces none. -/
theorem call_covers_iff (hwf : engine.store.table.WellFormed) (hspares : step.call.spares = true)
    (hlength : step.call.brought.length ≤ 18446744073709551616) (hcovers : engine.store.table.Covers rules) :
    (engine.call step.env step.call).2.store.table.Covers rules ↔ ¬ engine.Displaces rules step := by
  refine ⟨fun h hdisplaces => hdisplaces.not_covers h, fun hnot => ?_⟩
  cases hcreates : step.call.creates with
  | true =>
      refine covers_of_creates hwf hcreates hlength (fun rule hrule => ?_) hnot
      obtain ⟨stored, hstored, hsame⟩ := hcovers rule hrule
      exact ⟨stored, List.mem_append_left _ hstored, hsame⟩
  | false => exact (call_keepsRoutes step.env hwf hspares hcreates).covers hcovers

/-- Such a call leaves the engine running, whether it succeeds or not. -/
theorem running_of_spares (env : Surroundings) (hspares : call.spares = true) (hrunning : engine.running = true) :
    (engine.call env call).2.running = true := by
  have hkept : ∀ {α : Type} (plan : Plan α), (engine.perform plan).2.running = true :=
    fun plan => (engine.running_perform plan).trans hrunning
  cases call with
  | start =>
      change (engine.start env).2.running = true
      unfold start
      dsimp only
      split
      · rfl
      · exact hkept (Plan.reload env engine.store)
  | stop => cases hspares
  | create rule => exact hkept _
  | createBatch rules => exact hkept _
  | update id changes => cases hspares
  | delete id => cases hspares
  | toggle id => exact hkept _
  | reload => exact hkept _

/-! ### Runs with restarts -/

/-- A call, or a new start with the file of the store. -/
inductive Move where
  | call (step : Step)
  | restart (limit : Option Nat) (uses : List Regex.Cache.Use) (env : Surroundings)

/-- The engine after a move. If there is no file, or it cannot be opened, there is no new start. -/
def move (engine : Engine) : Move → Engine
  | .call step => (engine.call step.env step.call).2
  | .restart limit uses env =>
    match engine.store.disk.map Store.ofDisk with
    | some (.ok opened) => ((fresh opened limit uses).start env).2
    | _ => engine

/-- The engine after some moves. -/
def moved (engine : Engine) (moves : List Move) : Engine :=
  moves.foldl move engine

/-- Some moves and then another one. -/
theorem moved_append_singleton (engine : Engine) (moves : List Move) (last : Move) :
    engine.moved (moves ++ [last]) = (engine.moved moves).move last :=
  List.foldl_append

/-- Moves that leave alone what rules are for. There are not more rules than numbers, and a new start can read its
store. -/
def Move.Allowed : Move → Prop
  | .call step => step.call.spares = true ∧ step.call.brought.length ≤ 18446744073709551616
  | .restart _ _ env => (env.condition 0).noReads = none

/-- Whether a move is a new start. -/
def Move.isRestart : Move → Bool
  | .call _ => false
  | .restart _ _ _ => true

/-- An engine that is running and, if it is to be started anew, has its rules in its file. -/
structure Steady (engine : Engine) (restarts : Prop) : Prop where
  running : engine.running = true
  wellFormed : engine.store.table.WellFormed
  written : restarts → engine.store.WrittenThrough

variable {restarts : Prop} {last : Move} {limit : Option Nat} {uses : List Regex.Cache.Use}

/-- **A new start** with the rules in the file has the same rules. -/
theorem Steady.restart (h : engine.Steady restarts) (hrestarts : restarts) (hreads : (env.condition 0).noReads = none)
    (limit : Option Nat) (uses : List Regex.Cache.Use) :
    (engine.move (.restart limit uses env)).Steady restarts ∧
      (engine.move (.restart limit uses env)).store.table.all = engine.store.table.all := by
  obtain ⟨disk, opened, hdisk, hopen, hall⟩ := (h.written hrestarts).reopens
  have hmove : engine.move (.restart limit uses env) = ((fresh opened limit uses).start env).2 := by
    simp only [move, hdisk, Option.map_some, hopen]
  have hok : ((fresh opened limit uses).call env .start).1 = true := isOk_of_fills rfl nofun hreads
  obtain ⟨hrunning, hstore⟩ := start_ok hok
  have hstore : ((fresh opened limit uses).start env).2.store = opened := hstore
  rw [hmove]
  refine ⟨⟨hrunning, ?_, fun _ => ?_⟩, ?_⟩
  · rw [hstore]
    exact Store.wellFormed_of_ofDisk hopen
  · rw [hstore]
    exact Store.writtenThrough_of_ofDisk hopen
  · rw [hstore, hall]

/-- A call of the kind leaves the engine steady. -/
theorem Steady.afterCall (h : engine.Steady restarts) (hspares : step.call.spares = true)
    (hrecordable : restarts → step.Recordable) : (engine.move (.call step)).Steady restarts where
  running := running_of_spares step.env hspares h.running
  wellFormed := wellFormed_call step.env step.call h.wellFormed
  written := fun hrestarts => writtenThrough_call (h.written hrestarts) (hrecordable hrestarts)

/-- **What is stored for rules** is so after an allowed move, exactly if this is no call that displaces one. -/
theorem Steady.covers_move_iff (h : engine.Steady restarts) (hallowed : last.Allowed)
    (hrestarts : last.isRestart = true → restarts) (hcovers : engine.store.table.Covers rules) :
    (engine.move last).store.table.Covers rules ↔ ∀ step, last = .call step → ¬ engine.Displaces rules step := by
  cases last with
  | call step =>
      have hcall : (engine.move (.call step)).store.table.Covers rules ↔ ¬ engine.Displaces rules step :=
        call_covers_iff h.wellFormed hallowed.1 hallowed.2 hcovers
      rw [hcall]
      constructor
      · rintro hnot _ ⟨⟩
        exact hnot
      · exact fun hnone => hnone step rfl
  | restart limit uses env =>
      obtain ⟨-, hall⟩ := h.restart (hrestarts rfl) hallowed limit uses
      refine iff_of_true ((Table.keepsRoutes_of_all_eq hall).covers hcovers) fun step hstep => ?_
      cases hstep

/-- An engine for some moves: all are allowed and, if one is a new start, the rules are in the file and what is
written can be read back. -/
structure Withstands (engine : Engine) (moves : List Move) : Prop where
  running : engine.running = true
  wellFormed : engine.store.table.WellFormed
  allowed : ∀ move ∈ moves, move.Allowed
  written : (∃ move ∈ moves, move.isRestart = true) → engine.store.WrittenThrough
  recordable : (∃ move ∈ moves, move.isRestart = true) → ∀ step, .call step ∈ moves → step.Recordable

variable {moves done : List Move} {before : Surroundings}

/-- It stays steady. -/
theorem Withstands.steady (h : engine.Withstands moves) (hpart : done <+: moves) :
    (engine.moved done).Steady (∃ move ∈ moves, move.isRestart = true) := by
  induction done using List.reverseRecOn with
  | nil => exact ⟨h.running, h.wellFormed, h.written⟩
  | append_singleton done last ih =>
      have hsteady := ih ((List.prefix_append done [last]).trans hpart)
      have hmem : last ∈ moves := hpart.subset (List.mem_append_right done (List.mem_singleton_self last))
      rw [moved_append_singleton]
      cases last with
      | call step =>
          exact hsteady.afterCall (h.allowed _ hmem).1 fun hrestarts => h.recordable hrestarts step hmem
      | restart limit uses env =>
          exact (hsteady.restart ⟨_, hmem, rfl⟩ (h.allowed _ hmem) limit uses).1

/-- What several rules come to that were created is to create them beside the stored ones. -/
theorem createEach_of_createBatch (hok : (engine.createBatch env rules).1 = .ok created) :
    (Plan.createEach env 0 engine.store.table.all rules engine.store).result = .ok created := by
  obtain ⟨-, -, hresult⟩ := plan_createBatch_of_ok hok
  rw [Plan.createBatch] at hresult
  rcases Plan.withAll_cases (env.condition 0) engine.store
      fun known => Plan.createEach env 0 known rules engine.store with ⟨error, heq⟩ | heq
  · rw [heq] at hresult
    cases hresult
  · rwa [heq] at hresult

/-- **When rules were created**, something is stored for each, exactly if that displaced none. -/
theorem createBatch_covers_iff (hwf : engine.store.table.WellFormed)
    (hfirst : (engine.createBatch before rules).1 = .ok created)
    (hlength : rules.length ≤ 18446744073709551616) :
    (engine.move (.call ⟨before, .createBatch rules⟩)).store.table.Covers rules ↔
      ¬ engine.Displaces rules ⟨before, .createBatch rules⟩ := by
  refine ⟨fun h hdisplaces => hdisplaces.not_covers h, covers_of_creates hwf rfl hlength fun rule hrule => ?_⟩
  have hknown := Plan.any_sameRoute_of_createEach (createEach_of_createBatch hfirst) rule hrule
  have hcreated : engine.created before (.createBatch rules) = created := created_createBatch hfirst
  rw [hcreated]
  exact List.any_eq_true.mp hknown

/-- **Creating the same rules twice.** After rules were created, and at any time in a run of calls that neither change
what a rule is for nor delete one, and of new starts with the file of the store, creating them again does nothing,
exactly if no call displaced one of them. -/
theorem idle_after_iff (hfirst : (engine.createBatch before rules).1 = .ok created)
    (hmoves : engine.Withstands (.call ⟨before, .createBatch rules⟩ :: moves)) :
    (∀ done, done <+: moves → ∀ env : Surroundings, (∀ k, (env.condition k).noReads = none) →
        (engine.moved (.call ⟨before, .createBatch rules⟩ :: done)).Idle env rules) ↔
      ∀ done step, done ++ [.call step] <+: .call ⟨before, .createBatch rules⟩ :: moves →
        ¬ (engine.moved done).Displaces rules step := by
  have hvalid := Plan.valid_of_withAllValid hfirst
  have hlength : rules.length ≤ 18446744073709551616 := (hmoves.allowed _ List.mem_cons_self).2
  have hidle : ∀ done, done <+: moves → ∀ env : Surroundings, (∀ k, (env.condition k).noReads = none) →
      ((engine.moved (.call ⟨before, .createBatch rules⟩ :: done)).Idle env rules ↔
        (engine.moved (.call ⟨before, .createBatch rules⟩ :: done)).store.table.Covers rules) :=
    fun done hdone env hreads =>
      idle_iff (hmoves.steady (List.cons_prefix_cons.mpr ⟨rfl, hdone⟩)).running hreads hvalid
  constructor
  · intro h done step hpart hdisplaces
    rcases List.prefix_cons_iff.mp hpart with hnil | ⟨later, heq, hlater⟩
    · exact absurd hnil (List.append_ne_nil_of_right_ne_nil done (List.cons_ne_nil _ _))
    · have hcovers := (hidle later hlater calm fun _ => rfl).mp (h later hlater calm fun _ => rfl)
      rw [← heq, moved_append_singleton] at hcovers
      exact hdisplaces.not_covers hcovers
  · intro hnone done hdone env hreads
    refine (hidle done hdone env hreads).mpr ?_
    induction done using List.reverseRecOn with
    | nil => exact (createBatch_covers_iff hmoves.wellFormed hfirst hlength).mpr (hnone [] _ (by simp))
    | append_singleton done last ih =>
        have hbefore := (List.prefix_append done [last]).trans hdone
        have hmem : last ∈ moves := hdone.subset (List.mem_append_right done (List.mem_singleton_self last))
        have hsteady := hmoves.steady (List.cons_prefix_cons.mpr ⟨rfl, hbefore⟩)
        rw [← List.cons_append, moved_append_singleton]
        refine (hsteady.covers_move_iff (hmoves.allowed last (List.mem_cons_of_mem _ hmem))
          (fun hrestart => ⟨last, List.mem_cons_of_mem _ hmem, hrestart⟩) (ih hbefore)).mpr ?_
        rintro step rfl
        exact hnone _ step (List.cons_prefix_cons.mpr ⟨rfl, hdone⟩)

/-- The empty engine with a file, started. -/
def startedFile : Engine :=
  ((fresh { disk := some {} } none []).start calm).2

/-- A rule for other requests. -/
def unrelated : Rule :=
  Rule.new "unrelated" "GET" "/unrelated"

/-- The first rule is disabled, another one is created, and the engine is started anew. -/
def meanwhile : List Move :=
  [.call ⟨calm, .toggle 1⟩, .call ⟨calm, .create unrelated⟩, .restart none [] calm]

/-- This run is allowed after the rules were created, and the rules are in the file. -/
theorem withstands_meanwhile : startedFile.Withstands (.call ⟨calm, .createBatch seeds⟩ :: meanwhile) := by
  have hopen : Store.ofDisk {} = .ok startedFile.store := rfl
  have hzero : ∀ rule : Rule, rule.priority = 0 → rule.InPriorities := by
    rintro rule hrule
    rw [Rule.InPriorities, hrule]
    decide
  have hseeds : ∀ rule ∈ seeds, rule.priority = 0 := by decide
  refine ⟨rfl, Store.wellFormed_of_ofDisk hopen, ?_, fun _ => Store.writtenThrough_of_ofDisk hopen,
    fun _ step hstep => ?_⟩
  · simp [meanwhile, Move.Allowed, Call.spares, Call.brought, seeds, calm]
  · simp only [meanwhile, List.mem_cons, Move.call.injEq, reduceCtorEq, List.not_mem_nil, or_false] at hstep
    rcases hstep with rfl | rfl | rfl
    · exact recordable_calm fun rule hrule => hzero rule (hseeds rule hrule)
    · exact recordable_calm (by simp [Call.given])
    · exact recordable_calm (List.forall_mem_singleton.mpr (hzero unrelated rfl))

/-- In this run no number is given anew. -/
theorem not_displaces_meanwhile {done : List Move} {step : Step}
    (hpart : done ++ [.call step] <+: .call ⟨calm, .createBatch seeds⟩ :: meanwhile) :
    ¬ (startedFile.moved done).Displaces seeds step := by
  have hwf := (withstands_meanwhile.steady ((List.prefix_append done [.call step]).trans hpart)).wellFormed
  intro hdisplaces
  have hrecycles := hdisplaces.recycles hwf
  obtain ⟨rest, hrun⟩ := hpart
  rcases done with _ | ⟨first, _ | ⟨second, _ | ⟨third, done⟩⟩⟩ <;>
    simp only [meanwhile, List.nil_append, List.cons_append, List.append_assoc, List.cons.injEq,
      Move.call.injEq] at hrun
  · obtain ⟨rfl, -⟩ := hrun
    exact not_recycles_of_numbered numbered_startedEmpty hwf (by decide) hrecycles
  · obtain ⟨rfl, rfl, -⟩ := hrun
    exact Bool.noConfusion hrecycles.creates
  · obtain ⟨rfl, rfl, rfl, -⟩ := hrun
    have hnumbered : (startedFile.moved
        [.call ⟨calm, .createBatch seeds⟩, .call ⟨calm, .toggle 1⟩]).store.table.Numbered 1 :=
      ⟨by decide, by decide, by decide⟩
    exact not_recycles_of_numbered hnumbered hwf (by decide) hrecycles
  · -- After these comes the new start.
    obtain ⟨-, -, -, hlast⟩ := hrun
    have hmem : Move.call step ∈ [Move.restart none [] calm] :=
      hlast ▸ List.mem_append_right done List.mem_cons_self
    cases List.mem_singleton.mp hmem

/-- **After all of this** the same rules are not created again. -/
theorem idle_after_iff_meanwhile :
    (∃ created, (startedFile.createBatch calm seeds).1 = .ok created) ∧
      startedFile.Withstands (.call ⟨calm, .createBatch seeds⟩ :: meanwhile) ∧
      (startedFile.moved (.call ⟨calm, .createBatch seeds⟩ :: meanwhile)).Idle calm seeds := by
  obtain ⟨created, hfirst⟩ : ∃ created, (startedFile.createBatch calm seeds).1 = .ok created := ⟨_, rfl⟩
  have hidle := (idle_after_iff hfirst withstands_meanwhile).mpr fun done step hpart => not_displaces_meanwhile hpart
  exact ⟨⟨created, hfirst⟩, withstands_meanwhile, hidle meanwhile (List.prefix_refl _) calm fun _ => rfl⟩

/-- A rule for the requests of its name, with a key. -/
def lettered (name : String) : Rule :=
  { Rule.new name "GET" ("/" ++ name) with externalKey := some name }

/-- A store with different rules under the least and the greatest number. -/
def apartCircle : Store where
  table :=
    { rows := [
        (-9223372036854775808, { lettered "b" with id := some (-9223372036854775808) }),
        (9223372036854775807, { lettered "a" with id := some 9223372036854775807 })]
      lastId := 9223372036854775807 }

/-- **Creating the same rules twice is not always idle.** The first time, the rule for the requests of the one under
the least number is skipped, and the other one takes that number. Then nothing is stored for the first, and it is
created. -/
theorem not_forall_idle :
    ¬ ∀ (engine : Engine) (before env : Surroundings) (rules created : List Rule), engine.store.Reachable →
      engine.running = true → (∀ k, before.condition k = {}) → (∀ k, env.condition k = {}) →
      (engine.createBatch before rules).1 = .ok created →
      (engine.createBatch before rules).2.Idle env rules := by
  intro hall
  have hrules : Store.ofRules [{ lettered "a" with id := some 9223372036854775807 },
      { lettered "b" with id := some (-9223372036854775808) }] = .ok apartCircle := rfl
  have hidle := hall ((fresh apartCircle none []).start calm).2 calm calm
    [{ lettered "b" with externalKey := none }, lettered "c"] _ (.ofRules hrules) rfl (fun _ => rfl) (fun _ => rfl) rfl
  have hlength := congrArg (Except.map List.length) hidle.result
  exact Nat.noConfusion (Except.ok.inj hlength)

end Engine

end StubServer
