import StubServer.Proofs.Store.Table
import StubServer.Store.Basic

/-!
# The calls of a store

Whatever goes wrong with a call, a reading call either fails or gives what the table holds, and a
writing call either fails and leaves the table alone, or does to the table what it is meant to do:
`Store.save_cases` and `Store.delete_cases`.

`Store.Reachable` are the stores that ever come about. Their tables are well-formed.
-/

namespace StubServer.Store

variable {store : Store} {rules : List Rule} {found : Option Rule} {id : Int}

/-! ### Reading -/

/-- What is read are all rules of the table. -/
theorem eq_of_loadAll {condition : Condition} (h : store.loadAll condition = .ok rules) :
    rules = store.table.all := by
  unfold loadAll reading at h
  split at h
  · simp at h
  · exact (Except.ok.inj h).symm

/-- What is read is the rule of the table with the number. -/
theorem eq_of_load {condition : Condition} (h : store.load condition id = .ok found) :
    found = store.table.find? id := by
  unfold load reading at h
  split at h
  · simp at h
  · exact (Except.ok.inj h).symm

/-! ### Writing -/

/-- A changed table is either taken over, or cannot be written to the file and is given up. -/
theorem commit_cases {α : Type} (condition : Condition) (result : α) (table : Table) (store : Store) :
    (∃ reason after, store.commit condition result table = (.error (.io reason), after) ∧
      after.table = store.table) ∨
    ∃ after, store.commit condition result table = (.ok result, after) ∧ after.table = table := by
  unfold commit
  split
  · exact .inr ⟨_, rfl, rfl⟩
  · split
    · exact .inr ⟨_, rfl, rfl⟩
    · exact .inl ⟨_, _, rfl, rfl⟩

/-- **Saving** fails and leaves the table alone, or saves the rule in the table. -/
theorem save_cases (condition : Condition) (rule : Rule) (store : Store) :
    (∃ error after, store.save condition rule = (.error error, after) ∧
      after.table = store.table) ∨
    ∃ saved after, store.save condition rule = (.ok saved, after) ∧
      store.table.save rule = .ok (saved, after.table) := by
  unfold save
  split
  · exact .inl ⟨_, _, rfl, rfl⟩
  · split
    · rename_i saved table hsave
      rcases commit_cases condition saved table store with ⟨reason, after, heq, htable⟩ | ⟨after, heq, htable⟩
      · exact .inl ⟨_, after, heq, htable⟩
      · exact .inr ⟨saved, after, heq, htable ▸ hsave⟩
    · exact .inl ⟨_, _, rfl, rfl⟩

/-- **Deleting** fails and leaves the table alone, or deletes the rule from the table, whatever is
reported about it. -/
theorem delete_cases (condition : Condition) (id : Int) (store : Store) :
    (∃ error after, store.delete condition id = (.error error, after) ∧
      after.table = store.table) ∨
    ∃ found after, store.delete condition id = (.ok found, after) ∧
      after.table = (store.table.delete id).2 := by
  unfold delete
  split
  · exact .inl ⟨_, _, rfl, rfl⟩
  · rcases commit_cases condition ((store.table.delete id).1 && !condition.losesDelete)
      (store.table.delete id).2 store with ⟨reason, after, heq, htable⟩ | ⟨after, heq, htable⟩
    · exact .inl ⟨_, after, heq, htable⟩
    · exact .inr ⟨_, after, heq, htable⟩

/-! ### Stores that can be written -/

/-- The file of a store, if it has one, is within reach. -/
def Writable (store : Store) : Prop :=
  ∀ disk ∈ store.disk, disk.blocked = false

/-- Replacing a file leaves it within reach. -/
theorem blocked_run (steps : List Disk.Step) (disk : Disk) :
    (disk.run steps).blocked = disk.blocked := by
  induction steps generalizing disk with
  | nil => rfl
  | cons step rest ih => exact (ih _).trans (by cases step <;> rfl)

/-- A file that is within reach stays so, whatever becomes of replacing it. -/
theorem blocked_replace (cut : Option Disk.Cut) (text : String) (disk : Disk) :
    (disk.replace cut text).2.blocked = disk.blocked := by
  unfold Disk.replace
  split
  · rfl
  · cases cut <;> exact blocked_run _ disk

/-- The file stays within reach, whether a changed table is taken over or not. -/
theorem Writable.after_commit {α : Type} (h : store.Writable) (condition : Condition) (result : α) (table : Table) :
    (store.commit condition result table).2.Writable := by
  unfold Store.commit
  cases hdisk : store.disk with
  | none => simp [Writable]
  | some disk =>
      have hreplace := (blocked_replace condition.cut (fileText table) disk).trans (h disk hdisk)
      dsimp only
      split <;>
      · rename_i heq
        rw [heq] at hreplace
        rintro _ ⟨⟩
        exact hreplace

/-- If nothing goes wrong, a changed table is taken over. -/
theorem Writable.commit {α : Type} (h : store.Writable) (result : α) (table : Table) :
    ∃ after, store.commit {} result table = (.ok result, after) ∧ after.table = table ∧
      after.Writable := by
  unfold Store.commit
  cases hdisk : store.disk with
  | none => exact ⟨_, rfl, rfl, by simp [Writable]⟩
  | some disk =>
      have hblocked : disk.blocked = false := h disk hdisk
      have hreplace : disk.replace none (fileText table) =
          (none, disk.run (Disk.steps (fileText table))) := by simp [Disk.replace, hblocked]
      dsimp only
      rw [hreplace]
      refine ⟨_, rfl, rfl, ?_⟩
      rintro _ ⟨⟩
      rw [blocked_run, hblocked]

/-- If nothing goes wrong, saving a rule is saving it in the table. -/
theorem Writable.save (h : store.Writable) {rule saved : Rule} {table : Table}
    (hsave : store.table.save rule = .ok (saved, table)) :
    ∃ after, store.save {} rule = (.ok saved, after) ∧ after.table = table ∧ after.Writable := by
  unfold Store.save
  rw [hsave]
  exact h.commit saved table

/-- If nothing goes wrong, deleting a rule is deleting it from the table. -/
theorem Writable.delete (h : store.Writable) (id : Int) :
    ∃ found after, store.delete {} id = (.ok found, after) ∧ after.table = (store.table.delete id).2 ∧
      after.Writable := by
  unfold Store.delete
  obtain ⟨after, heq, htable, hafter⟩ :=
    h.commit ((store.table.delete id).1 && !false) (store.table.delete id).2
  exact ⟨_, after, heq, htable, hafter⟩

/-- A store that took a changed table over can be written. -/
theorem writable_of_commit {α : Type} {condition : Condition} {result value : α} {table : Table}
    {after : Store} (h : store.commit condition result table = (.ok value, after)) : after.Writable := by
  unfold commit at h
  split at h
  · rename_i hdisk
    rw [← (Prod.mk.inj h).2]
    simp [Writable, hdisk]
  · split at h
    · rename_i disk hdisk reached hreplace
      rw [← (Prod.mk.inj h).2]
      rintro _ ⟨⟩
      unfold Disk.replace at hreplace
      split at hreplace
      · cases hreplace
      · rename_i hblocked
        split at hreplace
        · cases hreplace
        · rw [← (Prod.mk.inj hreplace).2, blocked_run]
          exact eq_false_of_ne_true hblocked
    · cases h

/-- A store that saved a rule can be written. -/
theorem writable_of_save {condition : Condition} {rule saved : Rule} {after : Store}
    (h : store.save condition rule = (.ok saved, after)) : after.Writable := by
  unfold save at h
  split at h
  · cases h
  · split at h
    · exact writable_of_commit h
    · cases h

/-! ### Opening files -/

/-- A store that is opened with a file is empty, or holds the rules of a file within reach. -/
theorem ofDisk_cases {disk : Disk} (h : ofDisk disk = .ok store) :
    store = { disk := some disk } ∨
    ∃ rules table, disk.blocked = false ∧ Table.ofRules rules = .ok table ∧
      store = { table, disk := some disk } := by
  unfold ofDisk at h
  split at h
  · exact .inl (Except.ok.inj h).symm
  · rename_i text hcontent
    have hblocked : disk.blocked = false := by
      unfold Disk.content? at hcontent
      split at hcontent
      · simp at hcontent
      · exact eq_false_of_ne_true ‹_›
    cases hrules : rulesOfFile text with
    | error e => simp [hrules, bind, Except.bind] at h
    | ok rules =>
        cases htable : Table.ofRules rules with
        | error e => simp [hrules, htable, bind, Except.bind] at h
        | ok table =>
            simp only [hrules, htable, bind, Except.bind, pure, Except.pure, Except.ok.injEq] at h
            exact .inr ⟨rules, table, hblocked, htable, h.symm⟩

/-- A file with rules in it is within reach. -/
theorem writable_of_ofDisk {disk : Disk} (h : ofDisk disk = .ok store) {rule : Rule}
    (hmem : rule ∈ store.table.all) : store.Writable := by
  rcases ofDisk_cases h with rfl | ⟨rules, table, hblocked, -, rfl⟩
  · simp [Table.all] at hmem
  · rintro _ ⟨⟩
    exact hblocked

/-! ### Stores that come about -/

/-- The stores that come about: opened in memory or with a file, and changed by calls. -/
inductive Reachable : Store → Prop where
  | ofRules {rules : List Rule} {store : Store} (h : Store.ofRules rules = .ok store) : Reachable store
  | ofDisk {disk : Disk} {store : Store} (h : Store.ofDisk disk = .ok store) : Reachable store
  | save {store : Store} (h : Reachable store) (condition : Condition) (rule : Rule) :
      Reachable (store.save condition rule).2
  | delete {store : Store} (h : Reachable store) (condition : Condition) (id : Int) :
      Reachable (store.delete condition id).2

/-- A store that is opened with a file has a well-formed table. -/
theorem wellFormed_of_ofDisk {disk : Disk} (h : ofDisk disk = .ok store) : store.table.WellFormed := by
  rcases ofDisk_cases h with rfl | ⟨rules, table, -, htable, rfl⟩
  · exact Table.wellFormed_empty
  · exact Table.wellFormed_of_ofRules htable

/-- **The tables of stores are well-formed.** -/
theorem Reachable.wellFormed (h : store.Reachable) : store.table.WellFormed := by
  induction h with
  | @ofRules rules store h =>
      unfold Store.ofRules at h
      cases htable : Table.ofRules rules with
      | error e => simp [htable, Except.map] at h
      | ok table =>
          simp only [htable, Except.map, Except.ok.injEq] at h
          subst h
          exact Table.wellFormed_of_ofRules htable
  | ofDisk h => exact wellFormed_of_ofDisk h
  | @save store _ condition rule ih =>
      rcases save_cases condition rule store with ⟨error, after, heq, htable⟩ | ⟨saved, after, heq, hsave⟩
      · rw [heq, htable]
        exact ih
      · rw [heq]
        exact ih.save hsave
  | @delete store _ condition id ih =>
      rcases delete_cases condition id store with ⟨error, after, heq, htable⟩ | ⟨found, after, heq, htable⟩
      · rw [heq, htable]
        exact ih
      · rw [heq, htable]
        exact ih.delete id

end StubServer.Store
