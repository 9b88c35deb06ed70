import Mathlib.Data.List.Nodup
import StubServer.Store.Table

/-!
# The table of stored rules

A table is *well-formed* if its rows ascend in their numbers and every rule carries the number of its
row. Every table that is loaded is (`wellFormed_of_ofRules`), and every change keeps it so.

What a table holds is then told by its list of rules alone: `Table.apart` are the rules under other
numbers, and saving and deleting are laws about these.

## Main statements

* `WellFormed.perm_of_find?`: a stored rule and the rules apart from it are all rules.
* `WellFormed.all_insertRow_perm`, `WellFormed.all_delete`: all rules after saving and after deleting.
* `WellFormed.all_insertRow_greatest`: a rule with a number beyond all others comes last.
-/

namespace StubServer.Table

/-- Rows ascend in their numbers, and rules carry the number of their row. -/
structure WellFormed (table : Table) : Prop where
  ascending : table.rows.Pairwise fun a b => a.1 < b.1
  numbered : ∀ row ∈ table.rows, row.2.id = some row.1

/-- The rules under other numbers. -/
def apart (id : Int) (table : Table) : List Rule :=
  table.all.filter fun rule => rule.id != some id

variable {table other : Table} {rule saved : Rule} {id : Int} {rows : List (Int × Rule)}

/-! ### Rows -/

/-- Inserting a row puts it beside the rows under other numbers. -/
theorem insertRow_perm (h : rows.Pairwise fun a b => a.1 < b.1) (id : Int) (rule : Rule) :
    (insertRow id rule rows).Perm ((id, rule) :: rows.filter fun row => row.1 != id) := by
  induction rows with
  | nil => exact .refl _
  | cons row rest ih =>
      obtain ⟨hrow, hrest⟩ := List.pairwise_cons.mp h
      have hkeep : id ≤ row.1 → rest.filter (fun row => row.1 != id) = rest := by
        intro hle
        refine List.filter_eq_self.mpr fun other hother => ?_
        have hlt := hrow other hother
        have hne : other.1 ≠ id := by omega
        simpa using hne
      rw [insertRow]
      split
      · rename_i hlt
        have hne : (row.1 != id) = true := by simpa using (show row.1 ≠ id by omega)
        rw [List.filter_cons, if_pos hne, hkeep (by omega)]
      · split
        · rename_i heq
          have hsame : ¬ (row.1 != id) = true := by simp [heq]
          rw [List.filter_cons, if_neg hsame, hkeep (by omega)]
        · rename_i hne
          have hne : (row.1 != id) = true := by simpa using Ne.symm hne
          rw [List.filter_cons, if_pos hne]
          exact ((ih hrest).cons row).trans (.swap _ _ _)

/-- A row is in the list after an insertion if it was inserted, or was there under another number. -/
theorem mem_insertRow (h : rows.Pairwise fun a b => a.1 < b.1) {row : Int × Rule} :
    row ∈ insertRow id rule rows ↔ row = (id, rule) ∨ (row ∈ rows ∧ row.1 ≠ id) := by
  rw [(insertRow_perm h id rule).mem_iff]
  simp

/-- Inserting a row keeps the order. -/
theorem pairwise_insertRow (h : rows.Pairwise fun a b => a.1 < b.1) (id : Int) (rule : Rule) :
    (insertRow id rule rows).Pairwise fun a b => a.1 < b.1 := by
  induction rows with
  | nil => simp [insertRow]
  | cons row rest ih =>
      obtain ⟨hrow, hrest⟩ := List.pairwise_cons.mp h
      rw [insertRow]
      split
      · rename_i hlt
        refine List.pairwise_cons.mpr ⟨fun other hother => ?_, h⟩
        rcases List.mem_cons.mp hother with rfl | hother
        · exact hlt
        · exact Int.lt_trans hlt (hrow other hother)
      · split
        · rename_i heq
          subst heq
          exact List.pairwise_cons.mpr ⟨hrow, hrest⟩
        · refine List.pairwise_cons.mpr ⟨fun other hother => ?_, ih hrest⟩
          rcases (mem_insertRow hrest).mp hother with rfl | ⟨hother, -⟩
          · dsimp only
            omega
          · exact hrow other hother

/-- A row with a number beyond all others comes last. -/
theorem insertRow_eq_append (h : ∀ row ∈ rows, row.1 < id) (rule : Rule) :
    insertRow id rule rows = rows ++ [(id, rule)] := by
  induction rows with
  | nil => rfl
  | cons row rest ih =>
      have hlt := h row List.mem_cons_self
      rw [insertRow, if_neg (by omega), if_neg (by omega),
        ih fun other hother => h other (List.mem_cons_of_mem _ hother)]
      rfl

/-! ### Rules -/

/-- A stored rule stands under its number. -/
theorem WellFormed.mem_all_iff (h : table.WellFormed) :
    rule ∈ table.all ↔ ∃ id, rule.id = some id ∧ (id, rule) ∈ table.rows := by
  unfold all
  rw [List.mem_map]
  constructor
  · rintro ⟨row, hrow, rfl⟩
    exact ⟨row.1, h.numbered row hrow, hrow⟩
  · rintro ⟨id, -, hrow⟩
    exact ⟨(id, rule), hrow, rfl⟩

/-- The numbers of stored rules ascend. -/
theorem WellFormed.pairwise_all (h : table.WellFormed) :
    table.all.Pairwise fun a b => ∀ i j, a.id = some i → b.id = some j → i < j := by
  refine List.pairwise_map.mpr (h.ascending.imp_of_mem fun {a b} ha hb hlt i j hi hj => ?_)
  rw [h.numbered a ha] at hi
  rw [h.numbered b hb] at hj
  rwa [← Option.some.inj hi, ← Option.some.inj hj]

/-- Stored rules are told apart by their numbers. -/
theorem WellFormed.nodup_ids (h : table.WellFormed) : (table.all.map Rule.id).Nodup := by
  refine List.pairwise_map.mpr (h.pairwise_all.imp_of_mem fun {a b} ha hb hlt heq => ?_)
  obtain ⟨i, hi, -⟩ := h.mem_all_iff.mp ha
  exact absurd (hlt i i hi (heq ▸ hi)) (Int.lt_irrefl i)

/-- Two stored rules with one number are one rule. -/
theorem WellFormed.eq_of_id_eq (h : table.WellFormed) {a b : Rule} (ha : a ∈ table.all)
    (hb : b ∈ table.all) (hid : a.id = b.id) : a = b :=
  List.inj_on_of_nodup_map h.nodup_ids ha hb hid

/-- The rule that is found under a number is the stored one with that number. -/
theorem WellFormed.find?_eq_some_iff (h : table.WellFormed) :
    table.find? id = some rule ↔ rule ∈ table.all ∧ rule.id = some id := by
  have hfound : ∀ found, table.find? id = some found → found ∈ table.all ∧ found.id = some id := by
    intro found hfind
    obtain ⟨row, hrow, rfl⟩ := Option.map_eq_some_iff.mp hfind
    have hid : row.1 = id := by simpa using List.find?_some hrow
    have hmem := List.mem_of_find?_eq_some hrow
    exact ⟨List.mem_map_of_mem hmem, hid ▸ h.numbered row hmem⟩
  refine ⟨hfound rule, fun ⟨hmem, hid⟩ => ?_⟩
  cases hfind : table.find? id with
  | some found =>
      obtain ⟨hother, hotherId⟩ := hfound found hfind
      rw [h.eq_of_id_eq hother hmem (hotherId.trans hid.symm)]
  | none =>
      obtain ⟨number, hnumber, hrow⟩ := h.mem_all_iff.mp hmem
      obtain rfl : number = id := Option.some.inj (hnumber.symm.trans hid)
      have hnone := List.find?_eq_none.mp (Option.map_eq_none_iff.mp hfind) _ hrow
      simp at hnone

/-- A number is in use if there is a rule with it. -/
theorem WellFormed.contains_iff (h : table.WellFormed) :
    table.contains id = true ↔ ∃ rule ∈ table.all, rule.id = some id := by
  unfold contains
  rw [List.any_eq_true]
  constructor
  · rintro ⟨row, hrow, hid⟩
    exact ⟨row.2, List.mem_map_of_mem hrow, (beq_iff_eq.mp hid) ▸ h.numbered row hrow⟩
  · rintro ⟨rule, hmem, hid⟩
    obtain ⟨number, hnumber, hrow⟩ := h.mem_all_iff.mp hmem
    exact ⟨_, hrow, beq_iff_eq.mpr (Option.some.inj (hnumber.symm.trans hid))⟩

/-- The rules under other numbers, told by the numbers of the rows. -/
theorem WellFormed.apart_eq (h : table.WellFormed) (id : Int) :
    table.apart id = (table.rows.filter fun row => row.1 != id).map (·.2) := by
  unfold apart all
  rw [List.filter_map]
  refine congrArg (List.map _) (List.filter_congr fun row hrow => ?_)
  rw [Bool.eq_iff_iff]
  simp [h.numbered row hrow]

/-- If a number is not in use, all rules stand under other numbers. -/
theorem WellFormed.apart_eq_all (h : table.WellFormed) (hunused : table.contains id = false) :
    table.apart id = table.all := by
  refine List.filter_eq_self.mpr fun rule hrule => bne_iff_ne.mpr fun hid => ?_
  exact Bool.false_ne_true (hunused.symm.trans (h.contains_iff.mpr ⟨rule, hrule, hid⟩))

/-- **A stored rule and the rules apart from it** are all rules. -/
theorem WellFormed.perm_of_find? (h : table.WellFormed) (hfind : table.find? id = some rule) :
    table.all.Perm (rule :: table.apart id) := by
  obtain ⟨hmem, hid⟩ := h.find?_eq_some_iff.mp hfind
  have hnodup : table.all.Nodup := .of_map _ h.nodup_ids
  have herase : table.all.erase rule = table.apart id := by
    rw [hnodup.erase_eq_filter]
    refine List.filter_congr fun other hother => ?_
    have hsame : other = rule ↔ other.id = some id :=
      ⟨fun heq => heq ▸ hid, fun hother' => h.eq_of_id_eq hother hmem (hother'.trans hid.symm)⟩
    rw [Bool.eq_iff_iff, bne_iff_ne, bne_iff_ne, ne_eq, ne_eq, hsame]
  exact herase ▸ List.perm_cons_erase hmem

/-! ### Saving -/

/-- Putting a rule under its number keeps a table well-formed. -/
theorem WellFormed.insertRow (h : table.WellFormed) (hid : rule.id = some id) (lastId : Int) :
    WellFormed { rows := insertRow id rule table.rows, lastId } where
  ascending := pairwise_insertRow h.ascending id rule
  numbered := fun row hrow => by
    rcases (mem_insertRow h.ascending).mp hrow with rfl | ⟨hrow, -⟩
    · exact hid
    · exact h.numbered row hrow

/-- A rule that was put under its number stands beside the rules apart from it. -/
theorem WellFormed.all_insertRow_perm (h : table.WellFormed) (id : Int) (rule : Rule) (lastId : Int) :
    (all { rows := Table.insertRow id rule table.rows, lastId }).Perm (rule :: table.apart id) := by
  rw [h.apart_eq]
  exact (insertRow_perm h.ascending id rule).map (·.2)

/-- A rule with a number beyond all others comes last. -/
theorem WellFormed.all_insertRow_greatest (h : table.WellFormed)
    (hgreatest : ∀ other ∈ table.all, ∀ i, other.id = some i → i < id) (rule : Rule) (lastId : Int) :
    all { rows := Table.insertRow id rule table.rows, lastId } = table.all ++ [rule] := by
  have hrows : ∀ row ∈ table.rows, row.1 < id := fun row hrow =>
    hgreatest row.2 (List.mem_map_of_mem hrow) row.1 (h.numbered row hrow)
  simp [all, insertRow_eq_append hrows]

/-- A rule without a number gets the next one. -/
theorem save_draft (hid : rule.id = none) :
    table.save rule = .ok ({ rule with id := some (following table.lastId) },
      { rows := insertRow (following table.lastId)
          { rule with id := some (following table.lastId) } table.rows
        lastId := following table.lastId }) := by
  simp [save, hid]

/-- A rule with a number in use takes the place of the one there. -/
theorem save_stored (hid : rule.id = some id) (hcontains : table.contains id = true) :
    table.save rule = .ok (rule, { table with rows := insertRow id rule table.rows }) := by
  simp [save, hid, hcontains]

/-- A rule that was saved stands under its number, and nothing else was done to the rows. -/
theorem rows_of_save (hsave : table.save rule = .ok (saved, other)) :
    ∃ id, saved = { rule with id := some id } ∧ other.rows = insertRow id saved table.rows := by
  unfold save at hsave
  split at hsave
  · rename_i id hid
    have hrule : rule = { rule with id := some id } := by rw [← hid]
    split at hsave
    · obtain ⟨rfl, rfl⟩ := Prod.mk.inj (Except.ok.inj hsave)
      exact ⟨id, hrule, rfl⟩
    · split at hsave
      · obtain ⟨rfl, rfl⟩ := Prod.mk.inj (Except.ok.inj hsave)
        exact ⟨id, hrule, rfl⟩
      · simp at hsave
  · obtain ⟨rfl, rfl⟩ := Prod.mk.inj (Except.ok.inj hsave)
    exact ⟨_, rfl, rfl⟩

/-- A rule that was saved stands beside the rules apart from it. -/
theorem WellFormed.all_save_perm (h : table.WellFormed) (hsave : table.save rule = .ok (saved, other)) :
    ∃ id, saved = { rule with id := some id } ∧ other.all.Perm (saved :: table.apart id) := by
  obtain ⟨id, hsaved, hrows⟩ := rows_of_save hsave
  have hperm := h.all_insertRow_perm id saved other.lastId
  rw [← hrows] at hperm
  exact ⟨id, hsaved, hperm⟩

/-- Saving keeps a table well-formed. -/
theorem WellFormed.save (h : table.WellFormed) (hsave : table.save rule = .ok (saved, other)) :
    other.WellFormed := by
  obtain ⟨id, hsaved, hrows⟩ := rows_of_save hsave
  have hid : saved.id = some id := by rw [hsaved]
  have hinsert := h.insertRow hid other.lastId
  rwa [← hrows] at hinsert

/-! ### Deleting -/

/-- What is left after deleting are the rules apart from the number. -/
theorem WellFormed.all_delete (h : table.WellFormed) (id : Int) :
    (table.delete id).2.all = table.apart id :=
  (h.apart_eq id).symm

/-- Deleting keeps a table well-formed. -/
theorem WellFormed.delete (h : table.WellFormed) (id : Int) : (table.delete id).2.WellFormed where
  ascending := h.ascending.sublist List.filter_sublist
  numbered := fun row hrow => h.numbered row (List.mem_filter.mp hrow).1

/-! ### Loading -/

/-- The empty table is well-formed. -/
theorem wellFormed_empty : WellFormed {} where
  ascending := .nil
  numbered := by simp

/-- Loading rules under their numbers keeps a table well-formed. -/
theorem WellFormed.loadNumbered (h : table.WellFormed)
    (hnumbered : ∀ row ∈ rows, row.2.id = some row.1) (hload : loadNumbered rows table = .ok other) :
    other.WellFormed := by
  induction rows generalizing table with
  | nil => exact Except.ok.inj hload ▸ h
  | cons row rest ih =>
      obtain ⟨id, rule⟩ := row
      have hid := hnumbered (id, rule) List.mem_cons_self
      have hrest : ∀ row ∈ rest, row.2.id = some row.1 := fun row hrow =>
        hnumbered row (List.mem_cons_of_mem _ hrow)
      rw [Table.loadNumbered] at hload
      split at hload
      · simp at hload
      · exact ih (h.insertRow hid _) hrest hload

/-- Saving rules one after the other keeps a table well-formed. -/
theorem WellFormed.saveAll {rules : List Rule} (h : table.WellFormed)
    (hsave : saveAll rules table = .ok other) : other.WellFormed := by
  induction rules generalizing table with
  | nil => exact Except.ok.inj hsave ▸ h
  | cons rule rest ih =>
      rw [Table.saveAll] at hsave
      split at hsave
      · exact ih (h.save ‹_›) hsave
      · simp at hsave

/-- **Loaded tables are well-formed.** -/
theorem wellFormed_of_ofRules {rules : List Rule} (hload : ofRules rules = .ok table) :
    table.WellFormed := by
  unfold ofRules at hload
  split at hload
  · rename_i numbered hnumbered
    have hrows : ∀ row ∈ rules.filterMap fun rule => rule.id.map fun id => (id, rule),
        row.2.id = some row.1 := by
      intro row hrow
      obtain ⟨rule, -, hrule⟩ := List.mem_filterMap.mp hrow
      obtain ⟨id, hid, rfl⟩ := Option.map_eq_some_iff.mp hrule
      exact hid
    exact (wellFormed_empty.loadNumbered hrows hnumbered).saveAll hload
  · simp at hload

end StubServer.Table
