import StubServer.Proofs.Engine.Publication
import StubServer.Proofs.Engine.Repair
import StubServer.Proofs.Engine.Service

/-!
# Rules do not interfere

Creating, updating, deleting and toggling concern one rule. A call that succeeds puts a new version of it in
the place of the old one, in the list of all rules and under its key in the index; a rule that is created has
no old version, and one that is deleted no new one. All other rules stay as they are, and so do the answers to
all requests that neither version accepts.

## Main statements

* `Table.Replaces.spliced`: the list of all rules after one was replaced.
* `Plan.Concerns`: what an operation comes to that concerns one rule.
* `Engine.changesOnly_after`: such calls, in every state that a run leads to.
-/

namespace StubServer

/-! ### The list of all rules -/

/-- **A stored rule is replaced** in its place, and the order stays. -/
theorem Table.Replaces.spliced {table after : Table} {id : Int} {existing : Rule} {replacement : Option Rule}
    (h : table.Replaces id existing replacement after) (hwf : table.WellFormed) :
    ∃ before behind, table.all = before ++ existing :: behind ∧
      after.all = before ++ replacement.toList ++ behind := by
  obtain ⟨hmem, hid⟩ := hwf.find?_eq_some_iff.mp h.found
  obtain ⟨before, behind, hall⟩ := List.append_of_mem hmem
  refine ⟨before, behind, hall, ?_⟩
  have hids := hwf.nodup_ids
  have horder := hwf.pairwise_below
  have hapart : table.apart id = before ++ behind := by
    rw [hall, List.map_append, List.map_cons, List.nodup_middle, hid] at hids
    rw [Table.apart, hall, List.filter_append, List.filter_cons_of_neg (by simp [hid]),
      ← List.filter_append]
    refine List.filter_eq_self.mpr fun rule hrule => bne_iff_ne.mpr fun heq => ?_
    refine (List.nodup_cons.mp hids).1 ?_
    rw [← heq, ← List.map_append]
    exact List.mem_map_of_mem hrule
  -- The order depends on the numbers alone, and the replacement has that of the replaced rule.
  have hnumbers : ((before ++ replacement.toList ++ behind).map Rule.id).Sublist (table.all.map Rule.id) := by
    rw [hall]
    cases hreplacement : replacement with
    | none => simp
    | some saved => simp [h.sameId saved hreplacement]
  have hspliced : (before ++ replacement.toList ++ behind).Pairwise Rule.Below := by
    have hbelow : (table.all.map Rule.id).Pairwise fun x y => ∃ i j, x = some i ∧ y = some j ∧ i < j :=
      List.pairwise_map.mpr horder
    have hfewer := hbelow.sublist hnumbers
    rwa [List.pairwise_map] at hfewer
  have hperm : after.all.Perm (before ++ replacement.toList ++ behind) := by
    refine (hapart ▸ h.rules).trans ?_
    rw [← List.append_assoc]
    exact List.perm_append_comm.append_right behind
  exact hperm.eq_of_pairwise (fun a b _ _ hab hba => absurd hba hab.asymm) h.wellFormed.pairwise_below
    hspliced

/-! ### Operations on one rule -/

namespace Plan

variable {α : Type} {plan : Plan α} {env : Surroundings} {store : Store} {id : Int} {key : String}
  {old new : Option Rule} {existing rule saved : Rule}

/-- An operation concerns one rule. -/
structure Concerns (store : Store) (id : Int) (key : String) (old new : Option Rule) (plan : Plan α) :
    Prop where
  /-- In the list of all rules, the new version stands in the place of the old one. -/
  spliced : ∃ before behind, store.table.all = before ++ old.toList ++ behind ∧
    plan.store.table.all = before ++ new.toList ++ behind
  /-- There is an old version or a new one. -/
  exists_version : ∃ version, version ∈ old ∨ version ∈ new
  /-- Both have the number and the key. -/
  identified : ∀ version, version ∈ old ∨ version ∈ new → version.id = some id ∧ version.key = key
  /-- The index changes under this key only. -/
  edits : ∀ edit ∈ plan.edits, edit.key? = some key

/-- An operation that replaces a stored rule concerns that rule. -/
theorem concerns_of_replaces {replacement : Option Rule}
    (h : store.table.Replaces id existing replacement plan.store.table) (hwf : store.table.WellFormed)
    (hedits : ∀ edit ∈ plan.edits, edit.key? = some existing.key) :
    plan.Concerns store id existing.key (some existing) replacement := by
  refine ⟨?_, ⟨existing, .inl rfl⟩, ?_, hedits⟩
  · obtain ⟨before, behind, hbefore, hafter⟩ := h.spliced hwf
    exact ⟨before, behind, by rw [hbefore]; simp, hafter⟩
  · rintro version (hversion | hversion)
    · obtain rfl : existing = version := Option.some.inj hversion
      exact ⟨h.id_eq hwf, rfl⟩
    · exact ⟨(h.sameId version hversion).trans (h.id_eq hwf), h.key_eq hwf version hversion⟩

/-- Creating a rule that succeeds puts it behind all others. -/
theorem create_concerns {left : Nat} (hwf : store.table.WellFormed)
    (hnumbered : store.table.Numbered (left + 1)) (hok : (create env rule store).result = .ok saved) :
    ∃ id, (create env rule store).Concerns store id saved.key none (some saved) := by
  rcases create_cases env rule store with ⟨error, after, heq, -⟩ | ⟨given, after, -, -, hsave, heq⟩
  · rw [heq] at hok
    cases hok
  · rw [heq] at hok ⊢
    obtain rfl : given = saved := Except.ok.inj hok
    obtain ⟨hall, -⟩ := hnumbered.save_draft hwf rfl hsave
    obtain ⟨id, hsaved, -⟩ := Table.rows_of_save hsave
    have hid : given.id = some id := by rw [hsaved]
    refine ⟨id, ⟨store.table.all, [], by simp, by simpa using hall⟩, ⟨given, .inr rfl⟩, ?_, ?_⟩
    · rintro version (hversion | hversion)
      · cases hversion
      · obtain rfl : given = version := Option.some.inj hversion
        exact ⟨hid, rfl⟩
    · exact List.forall_mem_singleton.mpr rfl

/-- An operation that saves a rule with the identity of a stored one concerns that rule. -/
theorem concerns_of_save (hwf : store.table.WellFormed) (hfind : store.table.find? id = some existing)
    (hsave : store.table.save rule = .ok (saved, plan.store.table)) (hid : rule.id = existing.id)
    (hkey : rule.externalKey = existing.externalKey)
    (hvalid : existing.validate = .ok () → rule.validate = .ok ())
    (hedits : ∀ edit ∈ plan.edits, edit.key? = some existing.key ∨ edit.key? = some saved.key) :
    plan.Concerns store id existing.key (some existing) (some saved) := by
  obtain ⟨rfl, hreplaces⟩ := hwf.replaces_of_save hfind hsave hid hkey hvalid
  refine concerns_of_replaces hreplaces hwf fun edit hedit => ?_
  rcases hedits edit hedit with hold | hnew
  · exact hold
  · exact hnew.trans (congrArg some (hreplaces.key_eq hwf _ rfl))

/-- Updating a rule that succeeds concerns that rule. -/
theorem update_concerns {changes : Rule} (hwf : store.table.WellFormed)
    (hok : (update env id changes store).result = .ok saved) :
    ∃ existing, (update env id changes store).Concerns store id existing.key (some existing) (some saved) := by
  rcases update_cases env id changes store with
    ⟨error, after, heq, -⟩ | ⟨existing, given, after, hfind, hvalid, hsave, heq⟩
  · rw [heq] at hok
    cases hok
  · rw [heq] at hok ⊢
    obtain rfl : given = saved := Except.ok.inj hok
    refine ⟨existing, concerns_of_save hwf hfind hsave rfl rfl (fun _ => hvalid) fun edit hedit => ?_⟩
    rcases List.mem_append.mp hedit with hremove | hadd
    · split at hremove
      · exact .inl (List.mem_singleton.mp hremove ▸ rfl)
      · cases hremove
    · exact .inr (List.mem_singleton.mp hadd ▸ rfl)

/-- Toggling a rule that succeeds concerns that rule. -/
theorem toggle_concerns (hwf : store.table.WellFormed)
    (hok : (toggle env id store).result = .ok saved) :
    ∃ existing, (toggle env id store).Concerns store id existing.key (some existing) (some saved) := by
  rcases toggle_cases env id store with
    ⟨error, after, heq, -⟩ | ⟨existing, given, after, hfind, hsave, heq⟩
  · rw [heq] at hok
    cases hok
  · rw [heq] at hok ⊢
    obtain rfl : given = saved := Except.ok.inj hok
    refine ⟨existing, concerns_of_save hwf hfind hsave rfl rfl (fun hvalid => hvalid) ?_⟩
    refine List.forall_mem_singleton.mpr (.inr ?_)
    split <;> rfl

/-- Deleting a rule that succeeds concerns that rule, and leaves no version of it. -/
theorem delete_concerns (hwf : store.table.WellFormed) (hok : (delete env id store).result = .ok ()) :
    ∃ existing, (delete env id store).Concerns store id existing.key (some existing) none := by
  rcases delete_cases env id store with ⟨error, after, heq, -⟩ | ⟨existing, after, hfind, htable, heq⟩
  · rw [heq] at hok
    cases hok
  · have hreplaces := hwf.replaces_of_delete hfind
    rw [← htable] at hreplaces
    rw [heq]
    exact ⟨existing, concerns_of_replaces hreplaces hwf (List.forall_mem_singleton.mpr rfl)⟩

/-- No rule beside another has its key, if the keys are distinct. -/
theorem key_ne_of_nodup {version : Rule} {before behind : List Rule}
    (h : ((before ++ (some version).toList ++ behind).map Rule.key).Nodup) :
    ∀ other ∈ before ++ behind, other.key ≠ version.key := by
  rw [Option.toList_some, List.append_assoc, List.singleton_append, List.map_append, List.map_cons,
    List.nodup_middle, ← List.map_append] at h
  intro other hother heq
  exact (List.nodup_cons.mp h).1 (heq ▸ List.mem_map_of_mem hother)

/-- The rules with the key that an operation concerns are the versions of the rule. -/
theorem Concerns.mem_of_key (h : plan.Concerns store id key old new)
    (hbefore : (store.table.all.map Rule.key).Nodup) (hafter : (plan.store.table.all.map Rule.key).Nodup)
    (hkey : rule.key = key) :
    (rule ∈ store.table.all → rule ∈ old) ∧ (rule ∈ plan.store.table.all → rule ∈ new) := by
  obtain ⟨before, behind, hall, hall'⟩ := h.spliced
  rw [hall] at hbefore
  rw [hall'] at hafter
  -- Beside the versions, it would share its key with one of them, in the list before or in the one after.
  have hnot : rule ∉ before ++ behind := by
    intro hmem
    obtain ⟨version, hversion⟩ := h.exists_version
    have hsame := (h.identified version hversion).2
    rcases hversion with rfl | rfl
    · exact key_ne_of_nodup hbefore rule hmem (hkey.trans hsame.symm)
    · exact key_ne_of_nodup hafter rule hmem (hkey.trans hsame.symm)
  rw [hall, hall']
  simp only [List.mem_append, Option.mem_toList] at hnot ⊢
  tauto

end Plan

/-! ### Answers to other requests -/

namespace Engine

variable {α : Type} {engine after : Engine} {plan : Plan α} {env : Surroundings} {id : Int} {key : String}
  {old new : Option Rule} {log more : List (Option Int)} {left fewer : Nat} {request : Request}
  {matcher : Matcher}

/-- The version of a rule that is indexed accepts a request. -/
def Matches (engine : Engine) (request : Request) (rule : Rule) : Prop :=
  ∃ matcher, engine.index.get? rule.key = some matcher ∧ matcher.accepts request = true

/-- A call changed a single rule: there is a new version of it, or none, in the place of the old one, if there
was one. -/
structure ChangesOnly (engine after : Engine) (id : Int) (old new : Option Rule) : Prop where
  /-- Both versions have the number. -/
  numbered : ∀ version, version ∈ old ∨ version ∈ new → version.id = some id
  /-- The list of all rules is the one from before with the new version in the place of the old one, and still
  ascends. -/
  listed : ∃ before behind, (before ++ new.toList ++ behind).Pairwise Rule.Below ∧
    ∀ env : Surroundings, (env.condition 0).noReads = none →
      engine.list env = .ok (before ++ old.toList ++ behind) ∧
        after.list env = .ok (before ++ new.toList ++ behind)
  /-- A request that neither version accepts, as they are indexed before and after, gets the same response at
  whatever time. -/
  answers : ∀ (now later : Timestamp) method url headers body,
    let request := Request.received method url headers body
    (∀ version ∈ old, ¬ engine.Matches request version) →
    (∀ version ∈ new, ¬ after.Matches request version) →
    (after.dispatch later request).1 = (engine.dispatch now request).1

/-- An entry is that of a stored rule. -/
theorem Answerable.stored_of_get? (h : engine.Answerable log left)
    (hget : engine.index.get? key = some matcher) :
    ∃ rule ∈ engine.store.table.all, rule.key = key := by
  obtain ⟨served, hserves, hagrees, -⟩ := h.served
  obtain ⟨rule, hrule, hkey, -⟩ := hserves.get?_eq_some_iff.mp hget
  exact ⟨rule, (List.mem_filter.mp (hagrees.mem_iff.mp hrule)).1, hkey⟩

/-- What is found alike is answered alike, at whatever time: the stored rules have responses of their own. -/
theorem Answerable.dispatch_congr (h : engine.Answerable log left) (hrunning : after.running = engine.running)
    (hmethod : asciiUpper request.method = request.method)
    (hlookup : after.index.lookup? request = engine.index.lookup? request) (now later : Timestamp) :
    (after.dispatch later request).1 = (engine.dispatch now request).1 := by
  unfold dispatch respond
  dsimp only
  rw [hrunning, hlookup]
  cases hfound : engine.index.lookup? request with
  | none => rfl
  | some matcher =>
      obtain ⟨served, hserves, hagrees, horder⟩ := h.served
      obtain ⟨winner, hwinner, rfl, -⟩ := hserves.of_lookup? horder hmethod hfound
      have hstored := (List.mem_filter.mp (hagrees.mem_iff.mp hwinner)).1
      have hresponse := Rule.isBlankText_response (h.valid winner hstored)
      simp [Response.ofRule, hresponse]

/-- **What concerns one rule** changes only that rule. -/
theorem Answerable.changesOnly (h : engine.Answerable log left)
    (hconcerns : plan.Concerns engine.store id key old new) (hafter : after.Answerable more fewer)
    (hstore : after.store = (engine.perform plan).2.store)
    (hindex : after.index = (engine.perform plan).2.index)
    (hrunning : after.running = (engine.perform plan).2.running) : engine.ChangesOnly after id old new := by
  obtain ⟨hperformed, hchanged, hkept⟩ := foldl_edit plan.edits { engine with store := plan.store }
  replace hstore : after.store = plan.store := hstore.trans hperformed
  replace hindex : after.index = plan.edits.foldl Index.apply engine.index := hindex.trans hchanged
  replace hrunning : after.running = engine.running := hrunning.trans hkept
  have hbefore := h.keyed.nodup_keys
  have hnodup := hafter.keyed.nodup_keys
  rw [hstore] at hnodup
  obtain ⟨served, hserves, -⟩ := h.served
  refine ⟨fun version hversion => (hconcerns.identified version hversion).1, ?_, ?_⟩
  · obtain ⟨before, behind, hall, hall'⟩ := hconcerns.spliced
    rw [← hstore] at hall'
    refine ⟨before, behind, hall' ▸ hafter.wellFormed.pairwise_below, fun env hreads => ?_⟩
    rw [← hall, ← hall']
    simp [list, asked, Store.loadAll, Store.reading, hreads, Except.mapError]
  · intro now later method url headers body request hold hnew
    have hmethod := Request.asciiUpper_received_method method url headers body
    refine h.dispatch_congr hrunning hmethod ?_ now later
    rw [hindex]
    refine hserves.lookup?_eq_of_edits hconcerns.edits hmethod (fun matcher hget => ?_) fun matcher hget => ?_
    · obtain ⟨rule, hrule, hkey⟩ := h.stored_of_get? hget
      have hversion := (hconcerns.mem_of_key hbefore hnodup hkey).1 hrule
      exact eq_false_of_ne_true fun haccepts => hold rule hversion ⟨matcher, hkey ▸ hget, haccepts⟩
    · rw [← hindex] at hget
      obtain ⟨rule, hrule, hkey⟩ := hafter.stored_of_get? hget
      have hversion := (hconcerns.mem_of_key hbefore hnodup hkey).2 (hstore ▸ hrule)
      exact eq_false_of_ne_true fun haccepts => hnew rule hversion ⟨matcher, hkey ▸ hget, haccepts⟩

/-- Every call leaves an engine answerable, with numbers left but for the rules that it brings. -/
theorem Answerable.call {call : Call} (h : engine.Answerable log left)
    (hleft : left = call.brought.length + fewer) (hfresh : call.DrawsFresh env engine.store.table) :
    ∃ more, (engine.call env call).2.Answerable more fewer := by
  subst hleft
  exact ⟨_, @Answerable.next engine log fewer ⟨env, call⟩ h hfresh⟩

/-! ### Every call -/

/-- **Rules do not interfere.** From an empty store on, after any run, whatever failed of it, a call that
creates, updates, deletes or toggles a rule and succeeds changes that rule only, as long as the numbers are not
used up. -/
theorem changesOnly_after (disk : Option Disk) (limit : Option Nat) (uses : List Regex.Cache.Use)
    (run : List Step) (hfresh : (fresh { disk } limit uses).DrawsFresh run)
    (hleft : (run.flatMap fun step => step.call.brought).length + 1 < 9223372036854775808)
    (env : Surroundings) :
    let engine := (fresh { disk } limit uses).after run
    (∀ rule saved, (Call.create rule).DrawsFresh env engine.store.table →
      (engine.create env rule).1 = .ok saved →
      ∃ id, engine.ChangesOnly (engine.create env rule).2 id none (some saved)) ∧
    (∀ id changes saved, (engine.update env id changes).1 = .ok saved →
      ∃ existing, engine.ChangesOnly (engine.update env id changes).2 id (some existing) (some saved)) ∧
    (∀ id, (engine.delete env id).1 = .ok () →
      ∃ existing, engine.ChangesOnly (engine.delete env id).2 id (some existing) none) ∧
    ∀ id saved, (engine.toggle env id).1 = .ok saved →
      ∃ existing, engine.ChangesOnly (engine.toggle env id).2 id (some existing) (some saved) := by
  intro engine
  have h : engine.Answerable _ 1 := (answerable_fresh disk limit uses hleft).after rfl hfresh
  refine ⟨fun rule saved hdrawn hok => ?_, fun id changes saved hok => ?_, fun id hok => ?_,
    fun id saved hok => ?_⟩
  · obtain ⟨hplan, hresult⟩ := ifRunning_eq_of_ok hok
    obtain ⟨_, hafter⟩ : ∃ more, (engine.call env (.create rule)).2.Answerable more 0 := h.call rfl hdrawn
    obtain ⟨id, hconcerns⟩ := Plan.create_concerns h.wellFormed h.numbered hresult
    exact ⟨id, h.changesOnly (hplan ▸ hconcerns) hafter rfl rfl rfl⟩
  · obtain ⟨hplan, hresult⟩ := ifRunning_eq_of_ok hok
    obtain ⟨_, hafter⟩ : ∃ more, (engine.call env (.update id changes)).2.Answerable more 1 :=
      h.call rfl trivial
    obtain ⟨existing, hconcerns⟩ := Plan.update_concerns h.wellFormed hresult
    exact ⟨existing, h.changesOnly (hplan ▸ hconcerns) hafter rfl rfl rfl⟩
  · obtain ⟨hplan, hresult⟩ := ifRunning_eq_of_ok hok
    obtain ⟨_, hafter⟩ : ∃ more, (engine.call env (.delete id)).2.Answerable more 1 := h.call rfl trivial
    obtain ⟨existing, hconcerns⟩ := Plan.delete_concerns h.wellFormed hresult
    exact ⟨existing, h.changesOnly (hplan ▸ hconcerns) hafter rfl rfl rfl⟩
  · obtain ⟨hplan, hresult⟩ := ifRunning_eq_of_ok hok
    obtain ⟨_, hafter⟩ : ∃ more, (engine.call env (.toggle id)).2.Answerable more 1 := h.call rfl trivial
    obtain ⟨existing, hconcerns⟩ := Plan.toggle_concerns h.wellFormed hresult
    exact ⟨existing, h.changesOnly (hplan ▸ hconcerns) hafter rfl rfl rfl⟩

/-- A rule for other requests. -/
def farewell : Rule :=
  Rule.new "farewell" "GET" "/farewell"

/-- Each of the calls in an engine with two rules for the same requests. -/
theorem changesOnly_after_twoGreetings :
    let engine := (fresh {} none []).after twoGreetings
    (∃ saved, (engine.create calm (greeting none "third")).1 = .ok saved ∧
      ∃ id, engine.ChangesOnly (engine.create calm (greeting none "third")).2 id none (some saved)) ∧
    (∃ saved, (engine.update calm 1 farewell).1 = .ok saved ∧
      ∃ existing, engine.ChangesOnly (engine.update calm 1 farewell).2 1 (some existing) (some saved)) ∧
    ((engine.delete calm 1).1 = .ok () ∧
      ∃ existing, engine.ChangesOnly (engine.delete calm 1).2 1 (some existing) none) ∧
    ∃ saved, (engine.toggle calm 1).1 = .ok saved ∧
      ∃ existing, engine.ChangesOnly (engine.toggle calm 1).2 1 (some existing) (some saved) := by
  intro engine
  obtain ⟨hcreate, hupdate, hdelete, htoggle⟩ :=
    changesOnly_after none none [] twoGreetings ⟨trivial, nofun, nofun, trivial⟩ (by decide) calm
  obtain ⟨created, hcreated⟩ : ∃ saved, (engine.create calm (greeting none "third")).1 = .ok saved :=
    ⟨_, rfl⟩
  obtain ⟨updated, hupdated⟩ : ∃ saved, (engine.update calm 1 farewell).1 = .ok saved := ⟨_, rfl⟩
  obtain ⟨toggled, htoggled⟩ : ∃ saved, (engine.toggle calm 1).1 = .ok saved := ⟨_, rfl⟩
  exact ⟨⟨created, hcreated, hcreate _ _ nofun hcreated⟩, ⟨updated, hupdated, hupdate _ _ _ hupdated⟩,
    ⟨rfl, hdelete 1 rfl⟩, ⟨toggled, htoggled, htoggle 1 _ htoggled⟩⟩

end Engine

end StubServer
