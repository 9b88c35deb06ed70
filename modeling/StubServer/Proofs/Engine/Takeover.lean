import StubServer.Proofs.Engine.Publication
import StubServer.Proofs.Engine.Sync
import StubServer.Proofs.Store.Numbering

/-!
# Created rules and entries that are there

The index files a rule under its key, which is made of its number if it has no key of its own. Creating a rule
compares its key with the own keys of stored rules only. So a created rule leaves all entries as they are, and can
be deleted again without a trace, exactly if no enabled rule has its key already (`Engine.spares_iff`). Those
that may have it are rules without keys of their own, whose numbers stand in the key that is brought.

## Main statements

* `Engine.create_ok`, `Engine.delete_ok`: what creating and deleting do if they succeed.
* `Engine.delete_calm`: a stored rule can be deleted.
* `Engine.spares_iff`: when a created rule takes nothing over.
-/

namespace StubServer

open Index (Edit)

variable {env : Surroundings} {rule saved stored existing : Rule} {id : Int}

/-! ### Operations -/

namespace Plan

variable {store : Store}

/-- A store in which a rule was created can be written. -/
theorem writable_of_create (hok : (create env rule store).result = .ok saved) :
    (create env rule store).store.Writable := by
  unfold create at hok ⊢
  rcases withAll_cases (env.condition 0) store fun known => createOne env 0 known rule store with
    ⟨error, heq⟩ | heq
  · rw [heq] at hok
    cases hok
  · rw [heq] at hok ⊢
    rcases createOne_ends env 0 store.table.all rule store with ⟨error, heq⟩ | ⟨-, -, heq⟩
    · rw [heq] at hok
      cases hok
    · rw [heq] at hok ⊢
      cases hsave : store.save (env.condition (0 + 1)) (prepared rule (env.freshKey 0) (env.clock 0)) with
      | mk result after =>
          rw [hsave] at hok
          cases result with
          | error e => cases hok
          | ok given => exact Store.writable_of_save hsave

/-- If nothing goes wrong, a stored rule can be deleted. -/
theorem delete_calm (hwritable : store.Writable) (hfind : store.table.find? id = some existing) :
    (delete Engine.calm id store).result = .ok () := by
  have hload : store.load (Engine.calm.condition 0) id = .ok (some existing) := by
    rw [← hfind]
    rfl
  obtain ⟨found, after, heq, -⟩ := hwritable.delete id
  unfold delete withExisting withRead
  rw [hload]
  change (endingWith (store.delete {} id) _ _).result = .ok ()
  rw [heq]
  rfl

end Plan

namespace Engine

variable {engine : Engine}

/-! ### Creating and deleting -/

/-- **A rule that is created** is saved by a running engine and added to its index. -/
theorem create_ok (hok : (engine.create env rule).1 = .ok saved) :
    let after := (engine.create env rule).2
    after.running = true ∧ after.store.Writable ∧ after.index = engine.index.apply (.add saved) ∧
      rule.externalKey.filter (Plan.isTaken engine.store.table.all) = none ∧
      engine.store.table.save (Plan.prepared rule (env.freshKey 0) (env.clock 0)) =
        .ok (saved, after.store.table) := by
  have hresult : (engine.ifRunning (Plan.create env rule)).result = .ok saved := hok
  have hrunning := running_of_ok hresult
  obtain ⟨hplan, hresult⟩ := ifRunning_eq_of_ok hresult
  have hafter : (engine.create env rule).2.store = (Plan.create env rule engine.store).store ∧
      (engine.create env rule).2.index =
        (Plan.create env rule engine.store).edits.foldl Index.apply engine.index ∧
      (engine.create env rule).2.running = engine.running := by
    rw [← hplan]
    exact foldl_edit _ _
  obtain ⟨hstore, hindex, hkept⟩ := hafter
  have hwritable := Plan.writable_of_create hresult
  intro after
  rcases Plan.create_cases env rule engine.store with
    ⟨error, other, heq, -⟩ | ⟨given, other, -, htaken, hsave, heq⟩
  · rw [heq] at hresult
    cases hresult
  · rw [heq] at hresult hstore hindex hwritable
    obtain rfl : given = saved := Except.ok.inj hresult
    refine ⟨hkept.trans hrunning, ?_, hindex, htaken, ?_⟩
    · exact hstore ▸ hwritable
    · rw [hsave, show after.store = other from hstore]

/-- **A rule that is deleted** was stored, and the entry of its key is removed. -/
theorem delete_ok (hok : (engine.delete env id).1 = .ok ()) :
    ∃ existing, engine.store.table.find? id = some existing ∧
      (engine.delete env id).2.index = engine.index.apply (.remove existing.key) := by
  have hresult : (engine.ifRunning (Plan.delete env id)).result = .ok () := hok
  obtain ⟨hplan, hresult⟩ := ifRunning_eq_of_ok hresult
  have hindex : (engine.delete env id).2.index =
      (Plan.delete env id engine.store).edits.foldl Index.apply engine.index := by
    rw [← hplan]
    exact engine.index_perform _
  rcases Plan.delete_cases env id engine.store with
    ⟨error, other, heq, -⟩ | ⟨existing, other, hfind, -, heq⟩
  · rw [heq] at hresult
    cases hresult
  · rw [heq] at hindex
    exact ⟨existing, hfind, hindex⟩

/-- **A stored rule can be deleted** from a running engine whose store can be written. -/
theorem delete_calm (hrunning : engine.running = true) (hwritable : engine.store.Writable)
    (hfind : engine.store.table.find? id = some existing) : (engine.delete calm id).1 = .ok () := by
  change (engine.ifRunning (Plan.delete calm id)).result = .ok ()
  rw [ifRunning, if_pos hrunning]
  exact Plan.delete_calm hwritable hfind

/-! ### Taking nothing over -/

/-- A created rule takes nothing over. -/
structure Spares (engine : Engine) (env : Surroundings) (rule saved : Rule) : Prop where
  /-- Every entry of the index stays as it is under its key, -/
  untouched : ∀ key entry, engine.index.snapshot.byKey.find? key = some entry →
    (engine.create env rule).2.index.snapshot.byKey.find? key = some entry
  /-- and in the bucket of its method. -/
  bucketed : ∀ method, ∀ entry ∈ engine.index.snapshot.bucket method,
    entry ∈ (engine.create env rule).2.index.snapshot.bucket method
  /-- When the created rule is deleted again, the keys are those from before. -/
  deleted : ∀ id later, saved.id = some id → ((engine.create env rule).2.delete later id).1 = .ok () →
    ((engine.create env rule).2.delete later id).2.index.keys.Perm engine.index.keys

/-- A created rule is found under its number. -/
theorem find?_created (hwf : engine.store.table.WellFormed) (hok : (engine.create env rule).1 = .ok saved) :
    ∃ id, saved.id = some id ∧ (engine.create env rule).2.store.table.find? id = some saved := by
  obtain ⟨-, -, -, -, hsave⟩ := create_ok hok
  obtain ⟨id, hsaved, hrows⟩ := Table.rows_of_save hsave
  have hid : saved.id = some id := by rw [hsaved]
  exact ⟨id, hid, hwf.find?_insertRow hid hrows⟩

/-- Deleting a created rule again removes the entry of its key. -/
theorem index_delete_created (hwf : engine.store.table.WellFormed)
    (hok : (engine.create env rule).1 = .ok saved) (hid : saved.id = some id) {later : Surroundings}
    (hdeleted : ((engine.create env rule).2.delete later id).1 = .ok ()) :
    ((engine.create env rule).2.delete later id).2.index =
      (engine.index.apply (.add saved)).apply (.remove saved.key) := by
  obtain ⟨-, -, hindex, -, -⟩ := create_ok hok
  obtain ⟨number, hnumber, hfind⟩ := find?_created hwf hok
  obtain rfl : id = number := Option.some.inj (hid.symm.trans hnumber)
  obtain ⟨existing, hexisting, hafter⟩ := delete_ok hdeleted
  obtain rfl : existing = saved := Option.some.inj (hexisting.symm.trans hfind)
  rw [hafter, hindex]

/-- **A created rule takes nothing over** exactly if no enabled rule has its key. -/
theorem spares_iff (hstore : engine.store.Reachable) (hsync : engine.InSync)
    (hok : (engine.create env rule).1 = .ok saved) :
    engine.Spares env rule saved ↔
      ∀ stored ∈ engine.store.table.all, stored.enabled = true → stored.key ≠ saved.key := by
  have hwf := hstore.wellFormed
  obtain ⟨hrunning, hwritable, hindex, -, -⟩ := create_ok hok
  have hadded : (engine.index.apply (.add saved)).keys.Nodup := Index.nodup_keys_apply hsync.distinct rfl
  have hdistinct : ((engine.index.apply (.add saved)).apply (.remove saved.key)).keys.Nodup :=
    Index.nodup_keys_apply hadded rfl
  constructor
  · intro h stored hstored henabled hkey
    obtain ⟨id, hid, hfind⟩ := find?_created hwf hok
    have hdeleted := delete_calm hrunning hwritable hfind
    have hperm := h.deleted id calm hid hdeleted
    rw [index_delete_created hwf hok hid hdeleted] at hperm
    -- The key of the stored rule is gone with that of the created one.
    obtain ⟨entry, hentry, -⟩ := Option.map_eq_some_iff.mp (hsync.served stored hstored henabled)
    have hmem := hperm.mem_iff.mpr ((Index.mem_keys_iff hsync.distinct).mpr ⟨entry, hentry⟩)
    obtain ⟨other, hother⟩ := (Index.mem_keys_iff hdistinct).mp hmem
    rw [hkey, Index.find?_byKey_remove] at hother
    cases hother
  · intro hnone
    have hnew : engine.index.snapshot.byKey.find? saved.key = none := by
      refine Option.eq_none_iff_forall_ne_some.mpr fun entry hentry => ?_
      obtain ⟨stored, hstored, henabled, hkey, -⟩ := hsync.stored _ (Dictionary.mem_of_find? hentry)
      exact hnone stored hstored henabled hkey.symm
    have hothers : ∀ key, key ≠ saved.key →
        (engine.index.apply (.add saved)).snapshot.byKey.find? key = engine.index.snapshot.byKey.find? key :=
      fun key hne => Index.find?_byKey_apply engine.index rfl hne
    refine ⟨fun key entry hentry => ?_, fun method entry hentry => ?_, fun id later hid hdeleted => ?_⟩
    · rw [hindex, hothers key, hentry]
      rintro rfl
      cases hnew.symm.trans hentry
    · rw [hindex]
      exact Index.mem_bucket_add engine.index hnew hentry
    · rw [index_delete_created hwf hok hid hdeleted]
      refine Index.keys_perm hdistinct hsync.distinct fun key => ?_
      by_cases hkey : key = saved.key
      · rw [hkey, Index.find?_byKey_remove, hnew]
      · rw [Index.find?_byKey_apply _ rfl hkey, hothers key hkey]

/-- The engine that was started with the rule that gets its key from its number. -/
def startedUnkeyed : Engine :=
  ((fresh unkeyed none []).start calm).2

/-- Its store comes about. -/
theorem reachable_startedUnkeyed : startedUnkeyed.store.Reachable := by
  have hrules : Store.ofRules [Rule.new "old" "GET" "/old"] = .ok unkeyed := rfl
  exact .ofRules hrules

/-- Its store and its index are together. -/
theorem inSync_startedUnkeyed : startedUnkeyed.InSync := by
  have hwf := reachable_startedUnkeyed.wellFormed
  have hdistinct : ((fresh unkeyed none []).store.table.all.map Rule.key).Nodup := List.nodup_singleton _
  have hstart : ((fresh unkeyed none []).start calm).1.isOk = true := rfl
  obtain ⟨-, served, hserves, hagrees⟩ := agrees_start hstart hwf hdistinct (Index.serves_fresh none [])
  exact (inSync_iff hwf hserves).mpr hagrees

/-- A rule that brings a key. -/
def bringing (key : String) : Rule :=
  { Rule.new "new" "GET" "/new" with externalKey := some key }

/-- That rule as it is created second. -/
def broughtSecond (key : String) : Rule :=
  { bringing key with id := some 2, createdAt := some default, updatedAt := some default }

/-- A rule that brings the key of no other takes nothing over. -/
theorem spares_iff_bringing :
    startedUnkeyed.store.Reachable ∧ startedUnkeyed.InSync ∧
      (startedUnkeyed.create calm (bringing "other")).1 = .ok (broughtSecond "other") ∧
      startedUnkeyed.Spares calm (bringing "other") (broughtSecond "other") := by
  have hok : (startedUnkeyed.create calm (bringing "other")).1 = .ok (broughtSecond "other") := rfl
  refine ⟨reachable_startedUnkeyed, inSync_startedUnkeyed, hok,
    (spares_iff reachable_startedUnkeyed inSync_startedUnkeyed hok).mpr ?_⟩
  have hall : startedUnkeyed.store.table.all = [{ Rule.new "old" "GET" "/old" with id := some 1 }] := rfl
  rw [hall]
  decide

/-- **Not every created rule** takes nothing over. A rule that brings the key that another gets from its number
replaces its entry, and when it is deleted again, no entry is left. -/
theorem not_forall_spares :
    ¬ ∀ (engine : Engine) (env : Surroundings) (rule saved : Rule), engine.store.Reachable →
      engine.InSync → (engine.create env rule).1 = .ok saved → engine.Spares env rule saved := by
  intro hall
  have h := hall startedUnkeyed calm (bringing "stub-1") (broughtSecond "stub-1") reachable_startedUnkeyed
    inSync_startedUnkeyed rfl
  have hlength := (h.deleted 2 calm rfl rfl).length_eq
  exact absurd hlength (by decide)

end Engine

end StubServer
