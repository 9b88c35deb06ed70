import StubServer.Proofs.Engine.Shadowing
import StubServer.Proofs.Except
import StubServer.Proofs.Index.Reloading

/-!
# Starting and reloading repair the index

The rules of a store may be changed behind the back of the engine, and several of them may have one key. A
start or a reload that succeeds makes the index from the store anew, and nothing is left in it of what it held
before, be that what it may.

## Main statements

* `Engine.repaired_of_ok`: what the index is like after a start or a reload.
-/

namespace StubServer

/-- The numbers of stored rules ascend. -/
theorem Table.WellFormed.pairwise_below {table : Table} (h : table.WellFormed) :
    table.all.Pairwise Rule.Below := by
  refine h.pairwise_all.imp_of_mem fun {a b} ha hb hlt => ?_
  obtain ⟨i, hi, -⟩ := h.mem_all_iff.mp ha
  obtain ⟨j, hj, -⟩ := h.mem_all_iff.mp hb
  exact ⟨i, j, hi, hj, hlt i j hi hj⟩

namespace Engine

variable {engine after : Engine} {env : Surroundings} {count : Nat}

/-- The number that is given as the result is that of the served rules. -/
theorem eq_size_of_withSize {done : Except EngineError Unit × Engine} (h : (withSize done).1 = .ok count) :
    (withSize done).2.index.size = count := by
  obtain ⟨-, -, hcount⟩ := exists_of_map_eq_ok h
  exact hcount

/-- The index is told by the rules of the store alone, which are those from before, and the number of its
entries is reported. -/
structure Repaired (engine after : Engine) (count : Nat) : Prop where
  stored : after.store.table = engine.store.table
  counted : after.index.size = count
  mirrors : after.index.Mirrors engine.store.table.all

/-- **A start or a reload that succeeds** repairs the index, whatever it held and whatever is stored. -/
theorem repaired_of_ok (env : Surroundings) (engine : Engine) (hwf : engine.store.table.WellFormed)
    (hsound : engine.index.cache.Sound) :
    (∀ count, (engine.start env).1 = .ok count → engine.Repaired (engine.start env).2 count) ∧
      ∀ count, (engine.reload env).1 = .ok count → engine.Repaired (engine.reload env).2 count := by
  have hmirrors := Index.mirrors_reload hsound hwf.pairwise_below
  constructor
  · intro count hcount
    have hok : (engine.call env .start).1 = true := congrArg Except.isOk hcount
    obtain ⟨htable, hindex⟩ := index_of_fills rfl hwf hok
    have hstart : (engine.start env).2.index =
        (withSize (engine.perform (Plan.reload env engine.store))).2.index :=
      (apply_ite Engine.index _ _ _).trans (ite_self _)
    refine ⟨htable, ?_, ?_⟩
    · rw [hstart]
      exact eq_size_of_withSize hcount
    · exact hindex ▸ hmirrors
  · intro count hcount
    have hok : (engine.call env .reload).1 = true := congrArg Except.isOk hcount
    obtain ⟨htable, hindex⟩ := index_of_fills rfl hwf hok
    refine ⟨htable, ?_, ?_⟩
    · exact eq_size_of_withSize hcount
    · exact hindex ▸ hmirrors

/-- A running engine whose store has two enabled rules with one key, and whose index has neither of them but
one that is not stored. -/
def neglected : Engine where
  store := shadowed
  index := Index.add (Rule.new "stale" "GET" "/stale") {}
  running := true

/-- Reloading this engine leaves one entry. -/
theorem repaired_of_ok_neglected :
    (neglected.store.table.WellFormed ∧ neglected.index.cache.Sound) ∧
      (neglected.reload calm).1 = .ok 1 ∧ neglected.Repaired (neglected.reload calm).2 1 := by
  have hwf : neglected.store.table.WellFormed := Store.wellFormed_of_ofDisk ofDisk_shadowedFile
  have hsound : neglected.index.cache.Sound :=
    ((Index.serves_fresh none []).apply (.add (Rule.new "stale" "GET" "/stale"))).sound
  exact ⟨⟨hwf, hsound⟩, rfl, (repaired_of_ok calm neglected hwf hsound).2 1 rfl⟩

end Engine

end StubServer
