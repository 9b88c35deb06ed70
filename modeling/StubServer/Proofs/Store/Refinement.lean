import StubServer.Proofs.Store.Call
import StubServer.Proofs.Store.File
import StubServer.Proofs.Store.Numbering

/-!
# Stores with a file and stores in memory

A store with a file answers like one in memory that was opened with the same rules, as long as the file can be
written. A call whose writing fails is as if it had not been made: the table is put back, with the number that was
given last, so that all later calls are answered as in memory without that call.

## Main statements

* `Store.Attempt.fails_or_agrees`: what one call gives with a file and in memory.
* `Store.refines_memory`: what all calls of a run give.
-/

namespace StubServer

/-- A rule is refused by a table only for its number. -/
theorem Table.error_of_save {table : Table} {rule : Rule} {error : StoreError}
    (h : table.save rule = .error error) : ∃ id, error = .unknownId id := by
  unfold save at h
  split at h
  · split at h
    · cases h
    split at h
    · cases h
    · exact ⟨_, (Except.error.inj h).symm⟩
  · cases h

namespace Store

/-! ### Calls and what they give -/

/-- A call of a store. -/
inductive Operation where
  | save (rule : Rule)
  | delete (id : Int)
  | loadAll
  | load (id : Int)
  | count
  | countEnabled

/-- What a call gives if it succeeds. -/
inductive Reply where
  | saved (rule : Rule)
  | deleted (found : Bool)
  | rules (rules : List Rule)
  | found (rule : Option Rule)
  | number (n : Nat)

/-- A call, and where its writing of the file is cut off. -/
structure Attempt where
  operation : Operation
  cut : Option Disk.Cut := none

/-- What a call gives, and the store after it. Nothing but the disk fails. -/
def Attempt.run (store : Store) (attempt : Attempt) : Except StoreError Reply × Store :=
  let condition : Condition := { cut := attempt.cut }
  match attempt.operation with
  | .save rule => ((store.save condition rule).1.map .saved, (store.save condition rule).2)
  | .delete id => ((store.delete condition id).1.map .deleted, (store.delete condition id).2)
  | .loadAll => ((store.loadAll condition).map .rules, store)
  | .load id => ((store.load condition id).map .found, store)
  | .count => ((store.count condition).map .number, store)
  | .countEnabled => ((store.countEnabled condition).map .number, store)

/-- Whether a call failed because the file could not be written. -/
def isWriteFailure : Except StoreError Reply → Bool
  | .error (.io _) => true
  | _ => false

/-- What calls give, one after the other. -/
def replies : Store → List Attempt → List (Except StoreError Reply)
  | _, [] => []
  | store, attempt :: rest => (attempt.run store).1 :: replies (attempt.run store).2 rest

/-- The calls that do not fail because the file could not be written. -/
def completed : Store → List Attempt → List Operation
  | _, [] => []
  | store, attempt :: rest =>
    (if isWriteFailure (attempt.run store).1 then [] else [attempt.operation]) ++
      completed (attempt.run store).2 rest

/-- The rules that a file holds. A file that does not exist holds none. -/
def rulesOfDisk (disk : Disk) : Except StoreError (List Rule) :=
  match disk.content? with
  | none => .ok []
  | some text => rulesOfFile text

variable {file memory store : Store} {disk : Disk} {rules : List Rule} {attempt : Attempt}
  {operation : Operation} {attempts : List Attempt}

/-! ### One call -/

/-- A store in memory takes over every change. -/
theorem commit_memory {α : Type} (h : memory.disk = none) (condition : Condition) (result : α) (table : Table) :
    memory.commit condition result table = (.ok result, { memory with table }) := by
  unfold commit
  rw [h]

/-- **One call** of a store with a file cannot write it and leaves the table alone, or gives what it gives in
memory, and leaves the same table. -/
theorem Attempt.fails_or_agrees (attempt : Attempt) (htable : file.table = memory.table)
    (hmemory : memory.disk = none) :
    (isWriteFailure (attempt.run file).1 = true ∧ (attempt.run file).2.table = memory.table) ∨
      (isWriteFailure (attempt.run file).1 = false ∧
        (attempt.run file).1 = (Attempt.run memory { operation := attempt.operation }).1 ∧
        (attempt.run file).2.table = (Attempt.run memory { operation := attempt.operation }).2.table ∧
        (Attempt.run memory { operation := attempt.operation }).2.disk = none) := by
  obtain ⟨operation, cut⟩ := attempt
  cases operation with
  | save rule =>
      dsimp only [Attempt.run]
      unfold save
      rw [← htable]
      cases hsave : file.table.save rule with
      | error error =>
          obtain ⟨id, rfl⟩ := Table.error_of_save hsave
          exact .inr ⟨rfl, rfl, htable, hmemory⟩
      | ok done =>
          obtain ⟨saved, table⟩ := done
          dsimp only
          rw [commit_memory hmemory]
          rcases commit_cases { cut } saved table file with ⟨reason, after, heq, hafter⟩ | ⟨after, heq, hafter⟩
          · rw [heq]
            exact .inl ⟨rfl, hafter⟩
          · rw [heq]
            exact .inr ⟨rfl, rfl, hafter, hmemory⟩
  | delete id =>
      dsimp only [Attempt.run]
      unfold delete
      rw [← htable]
      dsimp only
      rw [commit_memory hmemory]
      rcases commit_cases { cut } ((file.table.delete id).1 && !false) (file.table.delete id).2 file with
        ⟨reason, after, heq, hafter⟩ | ⟨after, heq, hafter⟩
      · rw [heq]
        exact .inl ⟨rfl, hafter⟩
      · rw [heq]
        exact .inr ⟨rfl, rfl, hafter, hmemory⟩
  | loadAll | load _ | count | countEnabled =>
      refine .inr ⟨rfl, ?_, htable, hmemory⟩
      simp only [Attempt.run, Store.loadAll, Store.load, Store.count, Store.countEnabled, reading, htable]

/-- A call whose writing is not cut off succeeds in writing, and leaves the file within reach. -/
theorem Writable.run (h : store.Writable) (operation : Operation) :
    isWriteFailure (Attempt.run store { operation }).1 = false ∧
      (Attempt.run store { operation }).2.Writable := by
  cases operation with
  | save rule =>
      dsimp only [Attempt.run]
      unfold Store.save
      cases hsave : store.table.save rule with
      | error error =>
          obtain ⟨id, rfl⟩ := Table.error_of_save hsave
          exact ⟨rfl, h⟩
      | ok done =>
          obtain ⟨after, heq, -, hafter⟩ := h.commit done.1 done.2
          dsimp only
          rw [heq]
          exact ⟨rfl, hafter⟩
  | delete id =>
      obtain ⟨found, after, heq, -, hafter⟩ := h.delete id
      dsimp only [Attempt.run]
      rw [heq]
      exact ⟨rfl, hafter⟩
  | loadAll | load _ | count | countEnabled => exact ⟨rfl, h⟩

/-! ### All calls -/

/-- A store with a file answers like one in memory that is not given the calls that fail in writing. -/
structure Refines (file memory : Store) : Prop where
  replies : ∀ attempts, (file.replies attempts).filter (fun reply => !isWriteFailure reply) =
    memory.replies ((file.completed attempts).map fun operation => { operation })
  /-- As long as the file is within reach and no writing is cut off, no call fails in writing. -/
  complete : file.Writable → ∀ operations : List Operation,
    file.completed (operations.map fun operation => { operation }) = operations

/-- Stores with the same table answer alike. -/
theorem replies_eq_of_table (htable : file.table = memory.table) (hmemory : memory.disk = none)
    (attempts : List Attempt) :
    (file.replies attempts).filter (fun reply => !isWriteFailure reply) =
      memory.replies ((file.completed attempts).map fun operation => { operation }) := by
  induction attempts generalizing file memory with
  | nil => rfl
  | cons attempt rest ih =>
      rw [replies, completed]
      rcases attempt.fails_or_agrees htable hmemory with
        ⟨hfails, hafter⟩ | ⟨hwritten, hreply, hafter, hmemory'⟩
      · rw [List.filter_cons_of_neg (by simp [hfails]), if_pos hfails]
        exact ih hafter hmemory
      · rw [List.filter_cons_of_pos (by simp [hwritten]), if_neg (by simp [hwritten]), List.singleton_append,
          List.map_cons, replies, ih hafter hmemory', hreply]

/-- No call fails in writing while nothing goes wrong. -/
theorem Writable.completed (h : store.Writable) (operations : List Operation) :
    store.completed (operations.map fun operation => { operation }) = operations := by
  induction operations generalizing store with
  | nil => rfl
  | cons operation rest ih =>
      obtain ⟨hwritten, hafter⟩ := h.run operation
      rw [List.map_cons, Store.completed, if_neg (by simp [hwritten]), List.singleton_append, ih hafter]

/-- Stores with the same table refine one another. -/
theorem refines_of_table (htable : file.table = memory.table) (hmemory : memory.disk = none) :
    file.Refines memory :=
  ⟨replies_eq_of_table htable hmemory, fun h => h.completed⟩

/-- A file is opened like the rules that it holds. -/
theorem ofDisk_eq (h : rulesOfDisk disk = .ok rules) :
    ofDisk disk = (Table.ofRules rules).map fun table => { table, disk := some disk } := by
  unfold rulesOfDisk at h
  unfold ofDisk
  cases hcontent : disk.content? with
  | none =>
      rw [hcontent] at h
      rw [← Except.ok.inj h]
      rfl
  | some text =>
      rw [hcontent] at h
      dsimp only at h ⊢
      rw [h, ok_bind]
      cases Table.ofRules rules <;> rfl

/-- **A store with a file refines one in memory.** A list of rules can be in a file, and if it is, opening the file
is refused for the same reason as the list, or gives a store that refines the one in memory. -/
theorem refines_memory (rules : List Rule) (h : ∀ rule ∈ rules, rule.Expressible) :
    (∃ disk, disk.blocked = false ∧ rulesOfDisk disk = .ok rules) ∧
      ∀ disk, rulesOfDisk disk = .ok rules →
        (∃ error, ofRules rules = .error error ∧ ofDisk disk = .error error) ∨
          ∃ memory file, ofRules rules = .ok memory ∧ ofDisk disk = .ok file ∧ file.Refines memory := by
  refine ⟨⟨{ target := some (Rule.listToJson rules).renderPretty }, rfl, rulesOfFile_renderPretty h⟩, ?_⟩
  intro disk hdisk
  rw [ofDisk_eq hdisk, ofRules]
  cases Table.ofRules rules with
  | error error => exact .inl ⟨error, rfl, rfl⟩
  | ok table => exact .inr ⟨_, _, rfl, rfl, refines_of_table rfl rfl⟩

/-- A file with rules of which only one has a number refines the store of these rules in memory. -/
theorem refines_memory_unevenly :
    (∀ rule ∈ Table.unevenly, rule.Expressible) ∧
      (∃ disk, disk.blocked = false ∧ rulesOfDisk disk = .ok Table.unevenly) ∧
      ∀ disk, rulesOfDisk disk = .ok Table.unevenly → ∃ memory file, ofRules Table.unevenly = .ok memory ∧
        ofDisk disk = .ok file ∧ file.Refines memory := by
  have hexpressible : ∀ rule ∈ Table.unevenly, rule.Expressible := by
    simp only [Table.unevenly, List.forall_mem_cons]
    exact ⟨⟨by simp, by decide, by simp, by simp⟩, ⟨by simp, by decide, by simp, by simp⟩,
      ⟨by simp, by decide, by simp, by simp⟩, by simp⟩
  obtain ⟨hexists, hrefines⟩ := refines_memory Table.unevenly hexpressible
  refine ⟨hexpressible, hexists, fun disk hdisk => (hrefines disk hdisk).resolve_left ?_⟩
  rintro ⟨error, herror, -⟩
  have hload : ofRules Table.unevenly = .ok { table := Table.unevenTable } := rfl
  rw [hload] at herror
  cases herror

end Store

end StubServer
