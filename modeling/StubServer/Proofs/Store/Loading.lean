import StubServer.Proofs.Store.Numbering

/-!
# Loading keeps every rule

Rules are loaded in two passes: first those with numbers, each under its own, then the drafts, each under the number
after the last one. So no number is given that a rule brings, wherever in the list it stands, and a table that is
loaded holds the rules of the list and no others. The one thing that can go wrong is that two rules bring the same
number.

## Main statements

* `Table.WellFormed.all_loadNumbered`, `Table.WellFormed.loadNumbered_of_error`: the first pass.
* `Table.Remembers.all_saveAll`: the second pass.
* `Table.keeps_of_ofRules`, `Table.exists_twice_of_error`: both of them.
* `Table.ofRules_keeps`: what a loaded table holds, and when there is none.
-/

namespace StubServer.Table

variable {table other : Table} {rules : List Rule} {rows : List (Int × Rule)} {id : Int} {error : StoreError}

/-! ### Rules with numbers -/

/-- **Rules with numbers** are loaded only if the numbers are different and not in use. Then all are in the table, and
the last number is the greatest. -/
theorem WellFormed.all_loadNumbered (h : table.WellFormed) (hnumbered : ∀ row ∈ rows, row.2.id = some row.1)
    (hload : Table.loadNumbered rows table = .ok other) :
    (rows.map (·.1)).Nodup ∧ (∀ row ∈ rows, table.contains row.1 = false) ∧
      other.all.Perm (table.all ++ rows.map (·.2)) ∧ other.lastId = (rows.map (·.1)).foldl max table.lastId := by
  induction rows generalizing table with
  | nil =>
      obtain rfl := Except.ok.inj hload
      exact ⟨.nil, List.forall_mem_nil _, by simp, rfl⟩
  | cons row rest ih =>
      obtain ⟨id, rule⟩ := row
      obtain ⟨hid, hrest⟩ := List.forall_mem_cons.mp hnumbered
      rw [Table.loadNumbered] at hload
      split at hload
      · cases hload
      · rename_i hnew
        have hfirst : table.contains id = false := eq_false_of_ne_true hnew
        obtain ⟨hdistinct, hothers, hperm, hlast⟩ := ih (h.insertRow hid _) hrest hload
        -- What is not in use after the first row was inserted is another number, and was not in use before.
        have hunused : ∀ row ∈ rest, row.1 ≠ id ∧ table.contains row.1 = false := by
          intro row hrow
          have hnot := (h.contains_insertRow rule (max table.lastId id) row.1).not.mp
            (Bool.eq_false_iff.mp (hothers row hrow))
          exact ⟨fun heq => hnot (.inl heq), eq_false_of_ne_true fun hused => hnot (.inr hused)⟩
        have hinsert := h.all_insertRow_perm id rule (max table.lastId id)
        rw [h.apart_eq_all hfirst] at hinsert
        refine ⟨List.nodup_cons.mpr ⟨fun hmem => ?_, hdistinct⟩,
          List.forall_mem_cons.mpr ⟨hfirst, fun row hrow => (hunused row hrow).2⟩, ?_, hlast⟩
        · obtain ⟨row, hrow, heq⟩ := List.mem_map.mp hmem
          exact (hunused row hrow).1 heq
        · exact (hperm.trans (hinsert.append_right _)).trans List.perm_middle.symm

/-- If rules with numbers cannot be loaded, a number is in use that one brings, or two bring the same. -/
theorem WellFormed.loadNumbered_of_error (h : table.WellFormed)
    (hnumbered : ∀ row ∈ rows, row.2.id = some row.1) (hload : Table.loadNumbered rows table = .error error) :
    ∃ id, error = .duplicateId id ∧
      ([id, id].Sublist (rows.map (·.1)) ∨ (table.contains id = true ∧ id ∈ rows.map (·.1))) := by
  induction rows generalizing table with
  | nil => cases hload
  | cons row rest ih =>
      obtain ⟨id, rule⟩ := row
      obtain ⟨hid, hrest⟩ := List.forall_mem_cons.mp hnumbered
      rw [Table.loadNumbered] at hload
      split at hload
      · rename_i hused
        exact ⟨id, (Except.error.inj hload).symm, .inr ⟨hused, List.mem_cons_self⟩⟩
      · obtain ⟨twice, rfl, hsub | ⟨hused, hmem⟩⟩ := ih (h.insertRow hid _) hrest hload
        · exact ⟨twice, rfl, .inl (hsub.cons _)⟩
        · refine ⟨twice, rfl, ?_⟩
          rcases (h.contains_insertRow rule _ twice).mp hused with rfl | hused
          · exact .inl ((List.singleton_sublist.mpr hmem).cons_cons _)
          · exact .inr ⟨hused, List.mem_cons_of_mem _ hmem⟩

/-! ### Drafts -/

/-- Rules under the numbers from the one after `last` on. -/
def numberedFrom (last : Int) (rules : List Rule) : List Rule :=
  rules.mapIdx fun i rule => { rule with id := some (last + 1 + i) }

/-- The first rule gets the number after the last one, and the others those after that. -/
theorem numberedFrom_cons (last : Int) (rule : Rule) (rules : List Rule) :
    numberedFrom last (rule :: rules) =
      { rule with id := some (last + 1) } :: numberedFrom (last + 1) rules := by
  have hnext : ∀ i : Int, last + 1 + (i + 1) = last + 1 + 1 + i := fun i => by omega
  simp [numberedFrom, List.mapIdx_cons, hnext]

/-- Drafts are always saved. -/
theorem exists_saveAll (hdrafts : ∀ rule ∈ rules, rule.id = none) (table : Table) :
    ∃ other, saveAll rules table = .ok other := by
  induction rules generalizing table with
  | nil => exact ⟨table, rfl⟩
  | cons rule rest ih =>
      obtain ⟨hid, hrest⟩ := List.forall_mem_cons.mp hdrafts
      rw [saveAll, save_draft hid]
      exact ih hrest _

/-- **Drafts** that are saved one after the other come behind all rules, under the numbers after the last one, if
there are enough. -/
theorem Remembers.all_saveAll (h : table.Remembers fun i => table.contains i = true)
    (hdrafts : ∀ rule ∈ rules, rule.id = none) (hroom : table.lastId + rules.length ≤ 9223372036854775807)
    (hload : Table.saveAll rules table = .ok other) : other.all = table.all ++ numberedFrom table.lastId rules := by
  induction rules generalizing table with
  | nil => simp [← Except.ok.inj hload, numberedFrom]
  | cons rule rest ih =>
      obtain ⟨hid, hrest⟩ := List.forall_mem_cons.mp hdrafts
      rw [List.length_cons] at hroom
      have hfollowing := following_eq h.nonneg (show table.lastId < 9223372036854775807 by omega)
      rw [Table.saveAll, save_draft hid, hfollowing] at hload
      set numbered : Rule := { rule with id := some (table.lastId + 1) }
      set next : Table :=
        { rows := Table.insertRow (table.lastId + 1) numbered table.rows, lastId := table.lastId + 1 }
      have hall : next.all = table.all ++ [numbered] :=
        h.wellFormed.all_insertRow_greatest (fun other hother i hi =>
          Int.lt_add_one_of_le (h.upTo i (h.wellFormed.contains_iff.mpr ⟨other, hother, hi⟩))) numbered _
      have hroom : next.lastId + (rest.length : Int) ≤ 9223372036854775807 := by
        change table.lastId + 1 + (rest.length : Int) ≤ 9223372036854775807
        omega
      rw [ih (h.insertNext rfl) hrest hroom hload, hall, numberedFrom_cons, List.append_assoc]
      rfl

/-! ### All rules -/

/-- The rules with numbers, beside these. -/
def numberedRows (rules : List Rule) : List (Int × Rule) :=
  rules.filterMap fun rule => rule.id.map fun id => (id, rule)

/-- The numbers that rules bring. -/
def broughtNumbers (rules : List Rule) : List Int :=
  rules.filterMap Rule.id

/-- The greatest number that rules bring, or zero if they bring no positive one. -/
def greatestNumber (rules : List Rule) : Int :=
  (broughtNumbers rules).foldl max 0

/-- The rules without numbers. -/
def drafts (rules : List Rule) : List Rule :=
  rules.filter fun rule => rule.id.isNone

/-- Rules stand beside their numbers. -/
theorem id_of_mem_numberedRows : ∀ row ∈ numberedRows rules, row.2.id = some row.1 := by
  intro row hrow
  obtain ⟨rule, -, hmap⟩ := List.mem_filterMap.mp hrow
  obtain ⟨id, hid, rfl⟩ := Option.map_eq_some_iff.mp hmap
  exact hid

/-- Beside the rules stand the numbers that they bring. -/
theorem map_fst_numberedRows (rules : List Rule) : (numberedRows rules).map (·.1) = broughtNumbers rules := by
  simp [numberedRows, broughtNumbers, List.map_filterMap, Function.comp_def]

/-- Beside the numbers stand the rules that bring one. -/
theorem map_snd_numberedRows (rules : List Rule) :
    (numberedRows rules).map (·.2) = rules.filter fun rule => rule.id.isSome := by
  rw [numberedRows, List.map_filterMap, ← List.filterMap_eq_filter]
  refine List.filterMap_congr fun rule _ => ?_
  cases hid : rule.id <;> simp [Option.guard, hid]

/-- Drafts have no numbers. -/
theorem id_of_mem_drafts : ∀ rule ∈ drafts rules, rule.id = none := fun _ hrule =>
  Option.isNone_iff_eq_none.mp (List.mem_filter.mp hrule).2

/-- Rules are loaded in two passes. -/
theorem ofRules_eq (rules : List Rule) :
    ofRules rules = (Table.loadNumbered (numberedRows rules) {}).bind (Table.saveAll (drafts rules)) := by
  unfold ofRules numberedRows drafts
  cases Table.loadNumbered (rules.filterMap fun rule => rule.id.map fun id => (id, rule)) {} <;> rfl

/-- A table holds the rules of a list and no others. -/
structure Keeps (table : Table) (rules : List Rule) : Prop where
  /-- Its rules are those with numbers, as they are, and the drafts under the numbers after the greatest one, -/
  all : table.all.Perm ((rules.filter fun rule => rule.id.isSome) ++ numberedFrom (greatestNumber rules) (drafts rules))
  /-- as many as there are in the list. -/
  size : table.size = rules.length
  /-- A rule with a number is found under it, -/
  numbered : ∀ rule ∈ rules, ∀ id, rule.id = some id → table.find? id = some rule
  /-- and a draft under the number that its place among the drafts gives it. -/
  drafted : ∀ (i : Nat) (rule : Rule), (drafts rules)[i]? = some rule →
    table.find? (greatestNumber rules + 1 + i) = some { rule with id := some (greatestNumber rules + 1 + i) }

/-- A table that holds the rules of a list, with these found under their numbers. -/
theorem WellFormed.keeps (h : table.WellFormed)
    (hall : table.all.Perm
      ((rules.filter fun rule => rule.id.isSome) ++ numberedFrom (greatestNumber rules) (drafts rules))) :
    table.Keeps rules where
  all := hall
  size := by
    have hdrafts : (drafts rules).length = (rules.filter fun rule => !rule.id.isSome).length := by simp [drafts]
    have hlength := hall.length_eq
    rw [List.length_append, numberedFrom, List.length_mapIdx, hdrafts, Table.all, List.length_map] at hlength
    rw [Table.size, hlength, ← List.length_eq_length_filter_add]
  numbered rule hrule id hid := by
    refine h.find?_eq_some_iff.mpr ⟨hall.mem_iff.mpr (List.mem_append_left _ ?_), hid⟩
    exact List.mem_filter.mpr ⟨hrule, by simp [hid]⟩
  drafted i rule hrule := by
    refine h.find?_eq_some_iff.mpr ⟨hall.mem_iff.mpr (List.mem_append_right _ ?_), rfl⟩
    refine List.mem_of_getElem? (i := i) ?_
    rw [numberedFrom, List.getElem?_mapIdx, hrule, Option.map_some]

/-- **What is loaded** are rules with different numbers, and the table holds them if there are numbers enough. -/
theorem keeps_of_ofRules (hload : ofRules rules = .ok table) :
    (broughtNumbers rules).Nodup ∧ (NumbersSuffice rules → table.Keeps rules) := by
  have hwf := wellFormed_of_ofRules hload
  rw [ofRules_eq] at hload
  cases hfirst : Table.loadNumbered (numberedRows rules) {} with
  | error cause =>
      rw [hfirst] at hload
      cases hload
  | ok first =>
      rw [hfirst] at hload
      obtain ⟨hdistinct, -, hperm, hlast⟩ := wellFormed_empty.all_loadNumbered id_of_mem_numberedRows hfirst
      obtain ⟨hremembers, hreached⟩ := remembers_empty.loadNumbered id_of_mem_numberedRows hfirst
      rw [map_snd_numberedRows] at hperm
      rw [map_fst_numberedRows] at hdistinct hlast
      refine ⟨hdistinct, fun hsuffice => hwf.keeps ?_⟩
      have hroom : first.lastId + (drafts rules).length ≤ 9223372036854775807 := by
        refine hsuffice first.lastId (hreached.imp_right ?_)
        rintro ⟨row, hrow, hid⟩
        obtain ⟨rule, hrule, hmap⟩ := List.mem_filterMap.mp hrow
        obtain ⟨id, -, rfl⟩ := Option.map_eq_some_iff.mp hmap
        exact ⟨rule, hrule, hid⟩
      rw [hremembers.all_saveAll id_of_mem_drafts hroom hload, hlast]
      exact hperm.append_right _

/-- If rules are not loaded, two of them bring the number that is named. -/
theorem exists_twice_of_error (hload : ofRules rules = .error error) :
    ∃ id, error = .duplicateId id ∧ [id, id].Sublist (broughtNumbers rules) := by
  rw [ofRules_eq] at hload
  cases hfirst : Table.loadNumbered (numberedRows rules) {} with
  | ok first =>
      have hdrafts : ∀ rule ∈ drafts rules, rule.id = none := id_of_mem_drafts
      obtain ⟨table, hsave⟩ := exists_saveAll hdrafts first
      rw [hfirst] at hload
      cases hload.symm.trans hsave
  | error cause =>
      rw [hfirst] at hload
      obtain rfl := Except.error.inj hload
      obtain ⟨id, hid, htwice | ⟨hused, -⟩⟩ := wellFormed_empty.loadNumbered_of_error id_of_mem_numberedRows hfirst
      · exact ⟨id, hid, map_fst_numberedRows rules ▸ htwice⟩
      · cases hused

/-- **Loading keeps every rule.** It fails exactly if two rules bring the same number, and names such a number.
Otherwise, if there are numbers enough, the table holds the rules of the list and no others: each with a number under
it, and the others, in their order, under the numbers after the greatest one. -/
theorem ofRules_keeps (rules : List Rule) :
    ((∃ error, ofRules rules = .error error) ↔ ∃ id, [id, id].Sublist (broughtNumbers rules)) ∧
      (∀ error, ofRules rules = .error error →
        ∃ id, error = .duplicateId id ∧ [id, id].Sublist (broughtNumbers rules)) ∧
      (NumbersSuffice rules → ∀ table, ofRules rules = .ok table → table.Keeps rules) := by
  refine ⟨⟨fun ⟨error, herror⟩ => ?_, fun ⟨id, htwice⟩ => ?_⟩, fun error => exists_twice_of_error,
    fun hsuffice table hload => (keeps_of_ofRules hload).2 hsuffice⟩
  · obtain ⟨id, -, htwice⟩ := exists_twice_of_error herror
    exact ⟨id, htwice⟩
  · cases hload : ofRules rules with
    | error error => exact ⟨error, rfl⟩
    | ok table => exact absurd htwice (List.nodup_iff_sublist.mp (keeps_of_ofRules hload).1 id)

/-- Drafts between rules with numbers, of which one is negative and none comes in order. -/
def mixed : List Rule :=
  [{ name := "first" }, { id := some 5, name := "imported" }, { id := some (-3), name := "below" },
    { name := "second" }]

/-- These are loaded, and the drafts come behind the greatest number. -/
theorem ofRules_keeps_mixed :
    NumbersSuffice mixed ∧ ∃ table, ofRules mixed = .ok table ∧ table.Keeps mixed ∧
      table.find? 7 = some { id := some 7, name := "second" } := by
  have hsuffice : NumbersSuffice mixed := by
    intro id hid
    have hle : id ≤ 5 := by
      rcases hid with rfl | ⟨rule, hrule, hid⟩
      · decide
      · simp only [mixed, List.mem_cons, List.not_mem_nil, or_false] at hrule
        rcases hrule with rfl | rfl | rfl | rfl <;> simp at hid <;> omega
    have hlength : (mixed.filter fun rule => rule.id.isNone).length = 2 := rfl
    rw [hlength]
    omega
  exact ⟨hsuffice, _, rfl, (ofRules_keeps mixed).2.2 hsuffice _ rfl, rfl⟩

end StubServer.Table
