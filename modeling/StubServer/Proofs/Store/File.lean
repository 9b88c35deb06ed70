import StubServer.Proofs.Rule.Reading
import StubServer.Proofs.Rule.RoundTrip
import StubServer.Proofs.Store.Table
import StubServer.Store.Basic

/-!
# The file of a table

The file of a table holds the rules of the table, and a table that is loaded from them has the same rows: all
of its rules have numbers, and they ascend. This takes rules that are `Expressible`, as those of every loaded
file are, and those that are saved or deleted remain so.

## Main statements

* `Table.ofRules_all`: a table is loaded from its own rules.
* `Table.Expressible.save`, `Table.Expressible.delete`: changes keep a table expressible.
* `Store.rulesOfFile_renderPretty`: the pretty text of a list of rules is a file of these rules.
* `Store.ofDisk_fileText`: a file that was written is opened with the same rules.
-/

namespace StubServer

/-! ### Tables -/

namespace Table

variable {table other : Table} {rule saved : Rule} {rules : List Rule} {rows : List (Int × Rule)}

/-- Rows in ascending order are loaded one behind the other. -/
theorem loadNumbered_ascending (rows : List (Int × Rule)) (table : Table)
    (h : (table.rows ++ rows).Pairwise fun a b => a.1 < b.1) :
    ∃ lastId, loadNumbered rows table = .ok { rows := table.rows ++ rows, lastId } := by
  induction rows generalizing table with
  | nil => exact ⟨table.lastId, by simp [loadNumbered]⟩
  | cons row rest ih =>
      obtain ⟨id, rule⟩ := row
      have hgreatest : ∀ row ∈ table.rows, row.1 < id := fun row hrow =>
        (List.pairwise_append.mp h).2.2 row hrow (id, rule) List.mem_cons_self
      have hnew : ¬ table.contains id = true := by
        simp only [contains, List.any_eq_true, beq_iff_eq, not_exists, not_and]
        intro row hrow
        have hlt := hgreatest row hrow
        omega
      rw [loadNumbered, if_neg hnew, insertRow_eq_append hgreatest]
      obtain ⟨lastId, hload⟩ := ih
        { rows := table.rows ++ [(id, rule)], lastId := max table.lastId id } (by simpa using h)
      exact ⟨lastId, by simpa using hload⟩

/-- The rules of a table stand under their numbers. -/
theorem WellFormed.numbered_all (h : table.WellFormed) :
    table.all.filterMap (fun rule => rule.id.map fun id => (id, rule)) = table.rows := by
  unfold all
  rw [List.filterMap_map]
  have hrow : ∀ row ∈ table.rows,
      ((fun rule : Rule => rule.id.map fun id => (id, rule)) ∘ (·.2)) row = some row := by
    intro row hrow
    simp [h.numbered row hrow]
  rw [List.filterMap_congr hrow, List.filterMap_some]

/-- **A table is loaded from its own rules.** -/
theorem WellFormed.ofRules_all (h : table.WellFormed) :
    ∃ loaded, ofRules table.all = .ok loaded ∧ loaded.rows = table.rows := by
  have hnone : table.all.filter (fun rule => rule.id.isNone) = [] := by
    refine List.filter_eq_nil_iff.mpr fun rule hrule => ?_
    obtain ⟨id, hid, -⟩ := h.mem_all_iff.mp hrule
    simp [hid]
  obtain ⟨lastId, hload⟩ := loadNumbered_ascending table.rows {} (by simpa using h.ascending)
  refine ⟨{ rows := table.rows, lastId }, ?_, rfl⟩
  unfold ofRules
  rw [h.numbered_all, hload, hnone]
  rfl

/-! ### Expressible rules -/

/-- All rules of a table can be written. -/
def Expressible (table : Table) : Prop :=
  ∀ row ∈ table.rows, row.2.Expressible

/-- The empty table is expressible. -/
theorem expressible_empty : Expressible {} :=
  fun _ hrow => absurd hrow List.not_mem_nil

/-- The rules that are read from an expressible table can be written. -/
theorem Expressible.all (h : table.Expressible) : ∀ rule ∈ table.all, rule.Expressible := by
  intro rule hrule
  obtain ⟨row, hrow, rfl⟩ := List.mem_map.mp hrule
  exact h row hrow

/-- A rule that is found in an expressible table can be written. -/
theorem Expressible.of_find? (h : table.Expressible) {id : Int} (hfind : table.find? id = some rule) :
    rule.Expressible := by
  obtain ⟨row, hrow, rfl⟩ := Option.map_eq_some_iff.mp hfind
  exact h row (List.mem_of_find?_eq_some hrow)

/-- The number after another has 64 bits. -/
theorem following_bounds (id : Int) :
    -9223372036854775808 ≤ following id ∧ following id ≤ 9223372036854775807 := by
  have hlow := Int.le_bmod (x := id + 1) (show 0 < 18446744073709551616 by decide)
  have hhigh := Int.bmod_lt (x := id + 1) (show 0 < 18446744073709551616 by decide)
  unfold following
  omega

/-- A rule that can be written can be written under the number it is saved under. -/
theorem expressible_of_save (h : rule.Expressible) (hsave : table.save rule = .ok (saved, other)) :
    saved.Expressible := by
  unfold save at hsave
  split at hsave
  · split at hsave
    · exact fst_eq_of_ok_eq hsave ▸ h
    split at hsave
    · exact fst_eq_of_ok_eq hsave ▸ h
    · cases hsave
  · rw [← fst_eq_of_ok_eq hsave]
    refine { h with id := fun id hid => ?_ }
    rw [← Option.some.inj hid]
    exact following_bounds table.lastId

/-- An inserted rule is among the rules. -/
theorem mem_of_mem_insertRow {id : Int} {row : Int × Rule} (h : row ∈ insertRow id rule rows) :
    row = (id, rule) ∨ row ∈ rows := by
  induction rows with
  | nil => exact .inl (List.mem_singleton.mp h)
  | cons first rest ih =>
      rw [insertRow] at h
      split at h
      · exact List.mem_cons.mp h
      split at h
      · exact (List.mem_cons.mp h).imp_right (List.mem_cons_of_mem _)
      · rcases List.mem_cons.mp h with rfl | h
        · exact .inr List.mem_cons_self
        · exact (ih h).imp_right (List.mem_cons_of_mem _)

/-- An expressible table with another rule. -/
theorem Expressible.insertRow (h : table.Expressible) (hrule : rule.Expressible) (id lastId : Int) :
    Expressible { rows := Table.insertRow id rule table.rows, lastId } := by
  intro row hrow
  rcases mem_of_mem_insertRow hrow with rfl | hrow
  · exact hrule
  · exact h row hrow

/-- Saving a rule that can be written keeps a table expressible. -/
theorem Expressible.save (h : table.Expressible) (hrule : rule.Expressible)
    (hsave : table.save rule = .ok (saved, other)) : other.Expressible := by
  obtain ⟨id, -, hrows⟩ := rows_of_save hsave
  intro row hrow
  rw [hrows] at hrow
  exact h.insertRow (expressible_of_save hrule hsave) id other.lastId row hrow

/-- Deleting a rule keeps a table expressible. -/
theorem Expressible.delete (h : table.Expressible) (id : Int) : (table.delete id).2.Expressible :=
  fun row hrow => h row (List.mem_filter.mp hrow).1

/-- Loading rules under their numbers keeps a table expressible. -/
theorem Expressible.loadNumbered (h : table.Expressible) (hrows : ∀ row ∈ rows, row.2.Expressible)
    (hload : loadNumbered rows table = .ok other) : other.Expressible := by
  induction rows generalizing table with
  | nil => exact Except.ok.inj hload ▸ h
  | cons row rest ih =>
      obtain ⟨id, rule⟩ := row
      rw [Table.loadNumbered] at hload
      split at hload
      · cases hload
      · exact ih (h.insertRow (hrows (id, rule) List.mem_cons_self) _ _)
          (fun row hrow => hrows row (List.mem_cons_of_mem _ hrow)) hload

/-- Saving rules one after the other keeps a table expressible. -/
theorem Expressible.saveAll (h : table.Expressible) (hrules : ∀ rule ∈ rules, rule.Expressible)
    (hload : saveAll rules table = .ok other) : other.Expressible := by
  induction rules generalizing table with
  | nil => exact Except.ok.inj hload ▸ h
  | cons rule rest ih =>
      rw [Table.saveAll] at hload
      split at hload
      · rename_i hsave
        exact ih (h.save (hrules rule List.mem_cons_self) hsave)
          (fun rule hrule => hrules rule (List.mem_cons_of_mem _ hrule)) hload
      · cases hload

/-- **A table that is loaded** from rules that can be written is expressible. -/
theorem expressible_of_ofRules (h : ∀ rule ∈ rules, rule.Expressible)
    (hload : ofRules rules = .ok table) : table.Expressible := by
  unfold ofRules at hload
  split at hload
  · rename_i numbered hnumbered
    refine (expressible_empty.loadNumbered (fun row hrow => ?_) hnumbered).saveAll
      (fun rule hrule => h rule (List.mem_filter.mp hrule).1) hload
    obtain ⟨rule, hrule, hmap⟩ := List.mem_filterMap.mp hrow
    obtain ⟨id, -, rfl⟩ := Option.map_eq_some_iff.mp hmap
    exact h rule hrule
  · cases hload

end Table

/-! ### Files -/

namespace Store

variable {disk : Disk} {store : Store} {table : Table} {rules : List Rule} {text : String}

/-- The pretty text of a list of rules starts with a bracket. -/
theorem exists_renderPretty (rules : List Rule) :
    ∃ rest, (Rule.listToJson rules).renderPretty = .ofList ('[' :: rest) := by
  cases hrules : rules with
  | nil => exact ⟨[']'], rfl⟩
  | cons rule others =>
      have hne : rules.map Rule.toJson ≠ [] := by simp [hrules]
      rw [← hrules]
      exact ⟨_, congrArg String.ofList (Json.pretty_array 0 hne)⟩

/-- **The pretty text of a list of rules** is a file of these rules. -/
theorem rulesOfFile_renderPretty (h : ∀ rule ∈ rules, rule.Expressible) :
    rulesOfFile (Rule.listToJson rules).renderPretty = .ok rules := by
  have hblank : isBlankText (Rule.listToJson rules).renderPretty = false := by
    obtain ⟨rest, htext⟩ := exists_renderPretty rules
    rw [htext, isBlankText, String.toList_ofList]
    rfl
  unfold rulesOfFile
  rw [hblank, Rule.listOfText_renderPretty h]
  rfl

/-- The rules of a file are expressible. -/
theorem expressible_of_rulesOfFile (h : rulesOfFile text = .ok rules) :
    ∀ rule ∈ rules, rule.Expressible := by
  unfold rulesOfFile at h
  split at h
  · rw [← Except.ok.inj h]
    simp
  split at h
  · rename_i hread
    exact Except.ok.inj h ▸ Rule.expressible_of_listOfText hread
  · cases h

/-- The table of a store that is opened with a file is expressible. -/
theorem expressible_of_ofDisk (h : ofDisk disk = .ok store) : store.table.Expressible := by
  unfold ofDisk at h
  split at h
  · rw [← Except.ok.inj h]
    exact Table.expressible_empty
  · obtain ⟨rules, hrules, h⟩ := exists_of_bind_eq_ok h
    obtain ⟨table, htable, h⟩ := exists_of_bind_eq_ok h
    rw [← Except.ok.inj h]
    exact Table.expressible_of_ofRules (expressible_of_rulesOfFile hrules) htable

/-- **A file that was written** is opened with the rules that were written. -/
theorem ofDisk_fileText (hwf : table.WellFormed) (h : table.Expressible)
    (hcontent : disk.content? = some (fileText table)) :
    ∃ opened, ofDisk disk = .ok opened ∧ opened.table.rows = table.rows := by
  obtain ⟨loaded, hload, hrows⟩ := hwf.ofRules_all
  refine ⟨{ table := loaded, disk := some disk }, ?_, hrows⟩
  unfold ofDisk
  rw [hcontent]
  dsimp only
  rw [fileText, rulesOfFile_renderPretty h.all, ok_bind, hload]
  rfl

end Store

end StubServer
