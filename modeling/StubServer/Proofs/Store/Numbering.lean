import Mathlib.Data.List.Induction
import StubServer.Proofs.Store.Table

/-!
# Numbers are not given twice

A table remembers by its last number alone which numbers were ever in use: the last number is the greatest of
them, or zero if there is none greater (`Table.Remembers`). It never falls, and a rule is saved under a new
number only beyond it. So the number of a deleted rule is not given to another, whatever is loaded, saved and
deleted in between.

All of this ends with the greatest number there is, after which the numbers begin again with the least. That
they last is a condition, on the rules to be loaded (`Table.NumbersSuffice`) and on the changes after that
(`Table.NumbersLast`).

## Main statements

* `Table.Remembers.run`: a change keeps track of the numbers, `Table.remembers_after` does so for many.
* `Table.gone_after`: a number that is gone stays so.
* `Table.neverReuses_after`: what becomes of numbers after any changes of a loaded table.
-/

namespace StubServer.Table

/-! ### Changes -/

/-- A change of a table. -/
inductive Change where
  | save (rule : Rule)
  | delete (id : Int)

/-- The table after a change. A rule that is refused changes nothing. -/
def Change.run (table : Table) : Change → Table
  | save rule =>
    match table.save rule with
    | .ok (_, after) => after
    | .error _ => table
  | delete id => (table.delete id).2

/-- The table after several changes. -/
def after (table : Table) (changes : List Change) : Table :=
  changes.foldl Change.run table

/-- Whether the table has held a rule with a number, at the beginning or after some of the changes. -/
def Held (start : Table) (changes : List Change) (id : Int) : Prop :=
  ∃ done, done <+: changes ∧ (start.after done).contains id = true

/-- If a change is to give a number, there is one after the last. -/
def Change.HasNumber (table : Table) : Change → Prop
  | save rule => rule.id = none → table.lastId < 9223372036854775807
  | delete _ => True

/-- Whether the numbers last for all changes. -/
def NumbersLast : Table → List Change → Prop
  | _, [] => True
  | table, change :: rest => change.HasNumber table ∧ NumbersLast (change.run table) rest

/-- Whether the numbers suffice for loading rules: after each number that they bring, and after zero, there
are as many as there are rules without. -/
def NumbersSuffice (rules : List Rule) : Prop :=
  ∀ id, (id = 0 ∨ ∃ rule ∈ rules, rule.id = some id) →
    id + (rules.filter fun rule => rule.id.isNone).length ≤ 9223372036854775807

variable {table start other : Table} {rule saved : Rule} {rules : List Rule} {rows : List (Int × Rule)}
  {id : Int} {held : Int → Prop} {change : Change} {changes more : List Change}

/-- Some changes and then others. -/
theorem after_append (start : Table) (changes more : List Change) :
    start.after (changes ++ more) = (start.after changes).after more :=
  List.foldl_append

/-- Numbers that last for some changes and then others do so one after the other. -/
theorem numbersLast_append :
    start.NumbersLast (changes ++ more) ↔
      start.NumbersLast changes ∧ (start.after changes).NumbersLast more := by
  induction changes generalizing start with
  | nil => simp [NumbersLast, after]
  | cons change rest ih =>
      rw [List.cons_append, NumbersLast, NumbersLast, ih, and_assoc]
      rfl

/-- What is stored in the end was held, and so was what was held before the last change. -/
theorem held_append_singleton :
    start.Held (changes ++ [change]) id ↔
      start.Held changes id ∨ (start.after (changes ++ [change])).contains id = true := by
  constructor
  · rintro ⟨done, hdone, hcontains⟩
    rcases List.prefix_concat_iff.mp hdone with rfl | hdone
    · exact .inr hcontains
    · exact .inl ⟨done, hdone, hcontains⟩
  · rintro (⟨done, hdone, hcontains⟩ | hcontains)
    · exact ⟨done, hdone.trans (List.prefix_append _ _), hcontains⟩
    · exact ⟨_, List.prefix_refl _, hcontains⟩

/-- What is stored in the end was held. -/
theorem held_of_contains (h : (start.after changes).contains id = true) : start.Held changes id :=
  ⟨changes, List.prefix_refl _, h⟩

/-! ### Saving and deleting -/

/-- As long as there is a number after another, it is greater by one. -/
theorem following_eq (hnonneg : 0 ≤ id) (hlt : id < 9223372036854775807) : following id = id + 1 :=
  Int.bmod_eq_of_le (by omega) (by omega)

/-- A rule with a number beyond the last one is saved under it. -/
theorem save_beyond (hid : rule.id = some id) (hcontains : table.contains id = false)
    (hlt : table.lastId < id) :
    table.save rule = .ok (rule, { rows := insertRow id rule table.rows, lastId := id }) := by
  simp [save, hid, hcontains, hlt]

/-- A rule with a number that is neither in use nor beyond all others is refused. -/
theorem save_refused (hid : rule.id = some id) (hcontains : table.contains id = false)
    (hle : id ≤ table.lastId) : table.save rule = .error (.unknownId id) := by
  simp [save, hid, hcontains, Int.not_lt.mpr hle]

/-- The numbers in use after a rule was put under its number. -/
theorem WellFormed.contains_insertRow (h : table.WellFormed) (rule : Rule) (lastId i : Int) :
    contains i { rows := Table.insertRow id rule table.rows, lastId } = true ↔
      i = id ∨ table.contains i = true := by
  simp only [contains, List.any_eq_true, beq_iff_eq]
  constructor
  · rintro ⟨row, hrow, rfl⟩
    rcases (mem_insertRow h.ascending).mp hrow with rfl | ⟨hrow, -⟩
    · exact .inl rfl
    · exact .inr ⟨row, hrow, rfl⟩
  · rintro (rfl | ⟨row, hrow, rfl⟩)
    · exact ⟨(i, rule), (mem_insertRow h.ascending).mpr (.inl rfl), rfl⟩
    · by_cases hne : row.1 = id
      · exact ⟨(id, rule), (mem_insertRow h.ascending).mpr (.inl rfl), hne.symm⟩
      · exact ⟨row, (mem_insertRow h.ascending).mpr (.inr ⟨hrow, hne⟩), rfl⟩

/-- The numbers in use after deleting. -/
theorem contains_delete (table : Table) (id i : Int) :
    (table.delete id).2.contains i = true ↔ i ≠ id ∧ table.contains i = true := by
  simp only [delete, contains, List.any_eq_true, List.mem_filter, bne_iff_ne, beq_iff_eq]
  constructor
  · rintro ⟨row, ⟨hrow, hne⟩, rfl⟩
    exact ⟨hne, row, hrow, rfl⟩
  · rintro ⟨hne, row, hrow, rfl⟩
    exact ⟨row, ⟨hrow, hne⟩, rfl⟩

/-- A rule that was put under its number is found there. -/
theorem WellFormed.find?_insertRow (h : table.WellFormed) (hid : rule.id = some id)
    (hrows : other.rows = Table.insertRow id rule table.rows) : other.find? id = some rule := by
  have hinsert := h.insertRow hid other.lastId
  rw [← hrows] at hinsert
  refine hinsert.find?_eq_some_iff.mpr ⟨hinsert.mem_all_iff.mpr ⟨id, hid, ?_⟩, hid⟩
  rw [hrows]
  exact (mem_insertRow h.ascending).mpr (.inl rfl)

/-- Nothing changes under other numbers when a rule is put under its number. -/
theorem WellFormed.find?_insertRow_of_ne (h : table.WellFormed) (hid : rule.id = some id) {i : Int}
    (hne : i ≠ id) (lastId : Int) :
    find? i { rows := Table.insertRow id rule table.rows, lastId } = table.find? i := by
  refine Option.ext fun found => ?_
  rw [(h.insertRow hid lastId).find?_eq_some_iff, h.find?_eq_some_iff,
    (h.all_insertRow_perm id rule lastId).mem_iff, apart, List.mem_cons, List.mem_filter]
  constructor
  · rintro ⟨rfl | ⟨hmem, -⟩, hfound⟩
    · exact absurd (Option.some.inj (hfound.symm.trans hid)) hne
    · exact ⟨hmem, hfound⟩
  · rintro ⟨hmem, hfound⟩
    refine ⟨.inr ⟨hmem, ?_⟩, hfound⟩
    rw [hfound, bne_iff_ne]
    exact fun heq => hne (Option.some.inj heq)

/-- A number is in use if something is found under it. -/
theorem WellFormed.contains_iff_find? (h : table.WellFormed) :
    table.contains id = true ↔ ∃ rule, table.find? id = some rule :=
  h.contains_iff.trans (exists_congr fun _ => h.find?_eq_some_iff.symm)

/-! ### What the last number remembers -/

/-- The last number is the greatest that was ever held, or zero if there is none greater. -/
structure Remembers (table : Table) (held : Int → Prop) : Prop where
  wellFormed : table.WellFormed
  stored : ∀ i, table.contains i = true → held i
  upTo : ∀ i, held i → i ≤ table.lastId
  reached : table.lastId = 0 ∨ held table.lastId
  nonneg : 0 ≤ table.lastId

/-- The numbers beyond the last are the positive ones that are greater than all that were held. -/
theorem Remembers.lastId_lt_iff (h : table.Remembers held) :
    table.lastId < id ↔ 0 < id ∧ ∀ i, held i → i < id := by
  constructor
  · exact fun hlt => ⟨Int.lt_of_le_of_lt h.nonneg hlt, fun i hi => Int.lt_of_le_of_lt (h.upTo i hi) hlt⟩
  · rintro ⟨hpos, hgreater⟩
    rcases h.reached with hzero | hheld
    · rwa [hzero]
    · exact hgreater _ hheld

/-- A rule that is put under its number, which may be a new last one. -/
theorem Remembers.insertRow (h : table.Remembers held) (hid : rule.id = some id)
    (hrows : other.rows = Table.insertRow id rule table.rows) (hle : table.lastId ≤ other.lastId)
    (hupTo : id ≤ other.lastId) (hlast : other.lastId = table.lastId ∨ other.lastId = id) :
    other.Remembers fun i => held i ∨ other.contains i = true := by
  have hwf := h.wellFormed.insertRow hid other.lastId
  rw [← hrows] at hwf
  have hcontains : ∀ i, other.contains i = true ↔ i = id ∨ table.contains i = true := by
    intro i
    rw [← h.wellFormed.contains_insertRow rule other.lastId i, ← hrows]
  refine ⟨hwf, fun i hi => .inr hi, ?_, ?_, Int.le_trans h.nonneg hle⟩
  · rintro i (hi | hi)
    · exact Int.le_trans (h.upTo i hi) hle
    · rcases (hcontains i).mp hi with rfl | hi
      · exact hupTo
      · exact Int.le_trans (h.upTo i (h.stored i hi)) hle
  · rcases hlast with hlast | hlast
    · rw [hlast]
      exact h.reached.imp_right .inl
    · rw [hlast]
      exact .inr (.inr ((hcontains id).mpr (.inl rfl)))

/-- What is held besides what is stored may be told in another way. -/
theorem Remembers.congr (h : table.Remembers held) {others : Int → Prop}
    (hiff : ∀ i, held i ↔ others i) : table.Remembers others :=
  (funext fun i => propext (hiff i)) ▸ h

/-- **A change** keeps track of the numbers, as long as there are numbers. -/
theorem Remembers.run (h : table.Remembers held) (hnumber : change.HasNumber table) :
    (change.run table).Remembers fun i => held i ∨ (change.run table).contains i = true := by
  cases change with
  | delete id =>
      refine ⟨h.wellFormed.delete id, fun i hi => .inr hi, ?_, h.reached.imp_right .inl, h.nonneg⟩
      rintro i (hi | hi)
      · exact h.upTo i hi
      · exact h.upTo i (h.stored i ((contains_delete table id i).mp hi).2)
  | save rule =>
      rw [Change.run]
      cases hid : rule.id with
      | none =>
          have hfollowing := following_eq h.nonneg (hnumber hid)
          rw [save_draft hid, hfollowing]
          exact h.insertRow rfl rfl (by dsimp only; omega) (Int.le_refl _) (.inr rfl)
      | some id =>
          by_cases hcontains : table.contains id = true
          · rw [save_stored hid hcontains]
            exact h.insertRow hid rfl (Int.le_refl _) (h.upTo id (h.stored id hcontains)) (.inl rfl)
          · by_cases hlt : table.lastId < id
            · rw [save_beyond hid (eq_false_of_ne_true hcontains) hlt]
              exact h.insertRow hid rfl (Int.le_of_lt hlt) (Int.le_refl _) (.inr rfl)
            · rw [save_refused hid (eq_false_of_ne_true hcontains) (Int.not_lt.mp hlt)]
              refine h.congr fun i => ⟨.inl, ?_⟩
              rintro (hi | hi)
              · exact hi
              · exact h.stored i hi

/-- **After any changes** the last number remembers all that were held, as long as the numbers last. -/
theorem remembers_after (h : start.Remembers fun i => start.contains i = true)
    (hlast : start.NumbersLast changes) : (start.after changes).Remembers (start.Held changes) := by
  induction changes using List.reverseRecOn with
  | nil =>
      refine h.congr fun i => ⟨fun hi => held_of_contains hi, ?_⟩
      rintro ⟨done, hdone, hi⟩
      rwa [List.prefix_nil.mp hdone] at hi
  | append_singleton changes change ih =>
      obtain ⟨hchanges, hchange⟩ := numbersLast_append.mp hlast
      have hrun := (ih hchanges).run hchange.1
      have hafter : change.run (start.after changes) = start.after (changes ++ [change]) :=
        (after_append start changes [change]).symm
      rw [hafter] at hrun
      exact hrun.congr fun i => held_append_singleton.symm

/-! ### Numbers that are gone -/

/-- A number was in use and is not any more. -/
structure Gone (table : Table) (id : Int) : Prop where
  used : id ≤ table.lastId
  absent : table.contains id = false

/-- A number that is gone stays so with every change. -/
theorem Gone.run (h : table.Gone id) (hremembers : table.Remembers held)
    (hnumber : change.HasNumber table) : (change.run table).Gone id := by
  have hinsert : ∀ (saved : Rule) (i lastId : Int), i ≠ id → table.lastId ≤ lastId →
      Gone { rows := Table.insertRow i saved table.rows, lastId } id := by
    intro saved i lastId hne hle
    refine ⟨Int.le_trans h.used hle, eq_false_of_ne_true fun hcontains => ?_⟩
    rcases (hremembers.wellFormed.contains_insertRow saved lastId id).mp hcontains with heq | hcontains
    · exact hne heq.symm
    · exact Bool.false_ne_true (h.absent.symm.trans hcontains)
  cases change with
  | delete i =>
      refine ⟨h.used, eq_false_of_ne_true fun hcontains => ?_⟩
      exact Bool.false_ne_true (h.absent.symm.trans ((contains_delete table i id).mp hcontains).2)
  | save rule =>
      rw [Change.run]
      cases hid : rule.id with
      | none =>
          have hused := h.used
          rw [save_draft hid, following_eq hremembers.nonneg (hnumber hid)]
          exact hinsert _ _ _ (by omega) (by omega)
      | some i =>
          by_cases hcontains : table.contains i = true
          · rw [save_stored hid hcontains]
            refine hinsert _ _ _ (fun heq => ?_) (Int.le_refl _)
            exact Bool.false_ne_true (h.absent.symm.trans (heq ▸ hcontains))
          · by_cases hlt : table.lastId < i
            · rw [save_beyond hid (eq_false_of_ne_true hcontains) hlt]
              exact hinsert _ _ _ (Int.ne_of_gt (Int.lt_of_le_of_lt h.used hlt)) (Int.le_of_lt hlt)
            · rw [save_refused hid (eq_false_of_ne_true hcontains) (Int.not_lt.mp hlt)]
              exact h

/-- **A number that is gone** stays so with all changes. -/
theorem gone_after (h : table.Gone id) (hremembers : table.Remembers held)
    (hlast : table.NumbersLast changes) : (table.after changes).Gone id := by
  induction changes generalizing table held with
  | nil => exact h
  | cons change rest ih =>
      exact ih (h.run hremembers hlast.1) (hremembers.run hlast.1) hlast.2

/-- The number of a rule that was deleted is gone. -/
theorem Remembers.gone_delete (h : table.Remembers held) (hfound : (table.delete id).1 = true) :
    (table.delete id).2.Gone id :=
  ⟨h.upTo id (h.stored id hfound),
    eq_false_of_ne_true fun hcontains => ((contains_delete table id id).mp hcontains).1 rfl⟩

/-! ### Loading -/

/-- Loading rules under their numbers keeps track of them, and the last number is one that was given before
or comes with a rule. -/
theorem Remembers.loadNumbered (h : table.Remembers fun i => table.contains i = true)
    (hnumbered : ∀ row ∈ rows, row.2.id = some row.1) (hload : loadNumbered rows table = .ok other) :
    (other.Remembers fun i => other.contains i = true) ∧
      (other.lastId = table.lastId ∨ ∃ row ∈ rows, row.2.id = some other.lastId) := by
  induction rows generalizing table with
  | nil =>
      obtain rfl := Except.ok.inj hload
      exact ⟨h, .inl rfl⟩
  | cons row rest ih =>
      obtain ⟨id, rule⟩ := row
      obtain ⟨hid, hrest⟩ := List.forall_mem_cons.mp hnumbered
      rw [Table.loadNumbered] at hload
      split at hload
      · cases hload
      · set next : Table := { rows := Table.insertRow id rule table.rows, lastId := max table.lastId id }
        have hlast : next.lastId = table.lastId ∨ next.lastId = id := by
          change max table.lastId id = table.lastId ∨ max table.lastId id = id
          omega
        have hnext : next.Remembers fun i => table.contains i = true ∨ next.contains i = true :=
          h.insertRow hid rfl (Int.le_max_left _ _) (Int.le_max_right _ _) hlast
        have hstored : ∀ i, table.contains i = true → next.contains i = true := fun i hi =>
          (h.wellFormed.contains_insertRow rule _ i).mpr (.inr hi)
        obtain ⟨hother, hreached⟩ :=
          ih (hnext.congr fun i => or_iff_right_of_imp (hstored i)) hrest hload
        refine ⟨hother, ?_⟩
        rcases hreached with heq | ⟨row, hrow, hlastId⟩
        · rcases hlast with hlast | hlast
          · exact .inl (heq.trans hlast)
          · exact .inr ⟨(id, rule), List.mem_cons_self, by rw [heq, hlast]; exact hid⟩
        · exact .inr ⟨row, List.mem_cons_of_mem _ hrow, hlastId⟩

/-- A rule under the number after the last one keeps track of the numbers. -/
theorem Remembers.insertNext (h : table.Remembers fun i => table.contains i = true)
    (hid : rule.id = some (table.lastId + 1)) :
    let next : Table :=
      { rows := Table.insertRow (table.lastId + 1) rule table.rows, lastId := table.lastId + 1 }
    next.Remembers fun i => next.contains i = true := by
  intro next
  have hnext : next.Remembers fun i => table.contains i = true ∨ next.contains i = true :=
    h.insertRow hid rfl (by change table.lastId ≤ table.lastId + 1; omega) (Int.le_refl _) (.inr rfl)
  exact hnext.congr fun i =>
    or_iff_right_of_imp fun hi => (h.wellFormed.contains_insertRow rule _ i).mpr (.inr hi)

/-- Numbering rules one after the other keeps track of the numbers, if there are enough. -/
theorem Remembers.saveAll (h : table.Remembers fun i => table.contains i = true)
    (hdrafts : ∀ rule ∈ rules, rule.id = none)
    (hroom : table.lastId + rules.length ≤ 9223372036854775807)
    (hload : saveAll rules table = .ok other) : other.Remembers fun i => other.contains i = true := by
  induction rules generalizing table with
  | nil => exact Except.ok.inj hload ▸ h
  | cons rule rest ih =>
      obtain ⟨hid, hrest⟩ := List.forall_mem_cons.mp hdrafts
      rw [List.length_cons] at hroom
      have hfollowing := following_eq h.nonneg (show table.lastId < 9223372036854775807 by omega)
      rw [Table.saveAll, save_draft hid, hfollowing] at hload
      refine ih (h.insertNext rfl) hrest ?_ hload
      change table.lastId + 1 + (rest.length : Int) ≤ 9223372036854775807
      omega

/-- No number was ever held by the empty table. -/
theorem remembers_empty : ({} : Table).Remembers fun i => contains i {} = true :=
  ⟨wellFormed_empty, fun i hi => hi, fun i hi => by simp [contains] at hi, .inl rfl, Int.le_refl 0⟩

/-- **The last number of a loaded table** is the greatest one, or zero. -/
theorem remembers_of_ofRules (hload : ofRules rules = .ok table) (hsuffice : NumbersSuffice rules) :
    table.Remembers fun i => table.contains i = true := by
  unfold ofRules at hload
  split at hload
  · rename_i numbered hnumbered
    have hrows : ∀ row ∈ rules.filterMap fun rule => rule.id.map fun id => (id, rule),
        row.2 ∈ rules ∧ row.2.id = some row.1 := by
      intro row hrow
      obtain ⟨rule, hrule, hmap⟩ := List.mem_filterMap.mp hrow
      obtain ⟨id, hid, rfl⟩ := Option.map_eq_some_iff.mp hmap
      exact ⟨hrule, hid⟩
    obtain ⟨hremembers, hreached⟩ := remembers_empty.loadNumbered (fun row hrow => (hrows row hrow).2) hnumbered
    refine hremembers.saveAll (fun rule hrule => ?_) (hsuffice _ ?_) hload
    · exact Option.isNone_iff_eq_none.mp (List.mem_filter.mp hrule).2
    · exact hreached.imp_right fun ⟨row, hrow, hid⟩ => ⟨row.2, (hrows row hrow).1, hid⟩
  · cases hload

/-! ### What becomes of numbers -/

/-- What becomes of numbers after some changes of a table. -/
structure NeverReuses (start : Table) (changes : List Change) : Prop where
  /-- A rule without a number gets one that is greater than all that were ever held, and is stored under
  it. -/
  draft : ∀ rule : Rule, rule.id = none → (start.after changes).lastId < 9223372036854775807 →
    ∃ id next, (start.after changes).save rule = .ok ({ rule with id := some id }, next) ∧
      next.find? id = some { rule with id := some id } ∧ ∀ i, start.Held changes i → i < id
  /-- Under a number that was deleted at any time nothing is found, nothing can be saved, and it is given to
  no rule. -/
  deleted : ∀ done id rest, changes = done ++ .delete id :: rest →
    ((start.after done).delete id).1 = true →
    (start.after changes).find? id = none ∧
      (∀ rule : Rule, rule.id = some id → (start.after changes).save rule = .error (.unknownId id)) ∧
      ∀ rule saved next, rule.id = none → (start.after changes).lastId < 9223372036854775807 →
        (start.after changes).save rule = .ok (saved, next) → saved.id ≠ some id
  /-- A rule with a number is stored under it if the number is in use, or positive and greater than all that
  were ever held. -/
  accepted : ∀ (rule : Rule) id, rule.id = some id →
    ((start.after changes).contains id = true ∨ (0 < id ∧ ∀ i, start.Held changes i → i < id)) →
    ∃ next, (start.after changes).save rule = .ok (rule, next) ∧ next.find? id = some rule
  /-- Otherwise it conflicts, and the table stays as it is. -/
  refused : ∀ (rule : Rule) id, rule.id = some id →
    ¬ ((start.after changes).contains id = true ∨ (0 < id ∧ ∀ i, start.Held changes i → i < id)) →
    (start.after changes).save rule = .error (.unknownId id) ∧
      start.after (changes ++ [.save rule]) = start.after changes
  /-- Every rule is found under its own number. -/
  filed : ∀ rule ∈ (start.after changes).all, ∃ id, rule.id = some id ∧
    (start.after changes).find? id = some rule
  /-- The numbers of the rules ascend. -/
  ascending : ∃ ids : List Int, (start.after changes).all.map Rule.id = ids.map some ∧
    ids.Pairwise (· < ·)

/-- The numbers of the rules are those of the rows. -/
theorem WellFormed.map_id_all (h : table.WellFormed) :
    table.all.map Rule.id = (table.rows.map (·.1)).map some := by
  rw [all, List.map_map, List.map_map]
  exact List.map_congr_left fun row hrow => h.numbered row hrow

/-- Nothing is found under a number that is not in use. -/
theorem WellFormed.find?_eq_none (h : table.WellFormed) (hcontains : table.contains id = false) :
    table.find? id = none := by
  refine Option.eq_none_iff_forall_ne_some.mpr fun rule hfind => ?_
  have hused := h.contains_iff.mpr ⟨rule, h.find?_eq_some_iff.mp hfind⟩
  exact Bool.false_ne_true (hcontains.symm.trans hused)

/-- **Numbers are not given twice**, whatever is done to a loaded table, as long as the numbers last. The
empty table is the one that is loaded from no rules. -/
theorem neverReuses_after (hload : ofRules rules = .ok start) (hsuffice : NumbersSuffice rules)
    (changes : List Change) (hlast : start.NumbersLast changes) : start.NeverReuses changes := by
  have hstart := remembers_of_ofRules hload hsuffice
  have hafter := remembers_after hstart hlast
  have hwf := hafter.wellFormed
  -- What a rule without a number gets, and why it is new.
  have hdraft : ∀ rule : Rule, rule.id = none → (start.after changes).lastId < 9223372036854775807 →
      ∃ next, (start.after changes).save rule =
          .ok ({ rule with id := some ((start.after changes).lastId + 1) }, next) ∧
        next.rows = insertRow ((start.after changes).lastId + 1)
          { rule with id := some ((start.after changes).lastId + 1) } (start.after changes).rows := by
    intro rule hid hroom
    rw [save_draft hid, following_eq hafter.nonneg hroom]
    exact ⟨_, rfl, rfl⟩
  refine ⟨fun rule hid hroom => ?_, ?_, fun rule id hid haccepted => ?_, fun rule id hid hrefused => ?_,
    fun rule hrule => ?_, ?_⟩
  · obtain ⟨next, hsave, hrows⟩ := hdraft rule hid hroom
    refine ⟨_, next, hsave, hwf.find?_insertRow rfl hrows, fun i hi => ?_⟩
    exact Int.lt_add_one_of_le (hafter.upTo i hi)
  · rintro done id rest rfl hfound
    obtain ⟨hdone, hnumber, hrest⟩ := numbersLast_append.mp hlast
    have hdeleted := (remembers_after hstart hdone).gone_delete hfound
    have hgone := gone_after hdeleted ((remembers_after hstart hdone).run hnumber) hrest
    rw [after_append] at hdraft hwf ⊢
    refine ⟨hwf.find?_eq_none hgone.absent, fun rule hid => save_refused hid hgone.absent hgone.used, ?_⟩
    intro rule saved next hid hroom hsave heq
    obtain ⟨other, hother, -⟩ := hdraft rule hid hroom
    rw [hother] at hsave
    rw [← (Prod.mk.inj (Except.ok.inj hsave)).1] at heq
    have hused : id ≤ (start.after done |>.after (.delete id :: rest)).lastId := hgone.used
    have hsame := Option.some.inj heq
    omega
  · by_cases hcontains : (start.after changes).contains id = true
    · exact ⟨_, save_stored hid hcontains, hwf.find?_insertRow hid rfl⟩
    · have hlt := hafter.lastId_lt_iff.mpr (haccepted.resolve_left hcontains)
      exact ⟨_, save_beyond hid (eq_false_of_ne_true hcontains) hlt, hwf.find?_insertRow hid rfl⟩
  · obtain ⟨hcontains, hbeyond⟩ := not_or.mp hrefused
    have hle := Int.not_lt.mp fun hlt => hbeyond (hafter.lastId_lt_iff.mp hlt)
    have hsave := save_refused hid (eq_false_of_ne_true hcontains) hle
    refine ⟨hsave, ?_⟩
    rw [after_append]
    change Change.run (start.after changes) (.save rule) = _
    rw [Change.run, hsave]
  · obtain ⟨id, hid, -⟩ := hwf.mem_all_iff.mp hrule
    exact ⟨id, hid, hwf.find?_eq_some_iff.mpr ⟨hrule, hid⟩⟩
  · exact ⟨_, hwf.map_id_all, List.pairwise_map.mpr hwf.ascending⟩

/-- Rules of which only one has a number, and that a negative one. -/
def unevenly : List Rule :=
  [{ name := "first" }, { id := some (-3), name := "below" }, { name := "second" }]

/-- The table that is loaded from them. -/
def unevenTable : Table where
  rows := [(-3, { id := some (-3), name := "below" }), (1, { id := some 1, name := "first" }),
    (2, { id := some 2, name := "second" })]
  lastId := 2

/-- Two rules are deleted, one is imported far beyond the others, and one comes too late for its number. -/
def unevenChanges : List Change :=
  [.delete (-3), .save { id := some 40, name := "imported" }, .delete 40, .save { id := some 40 },
    .save { name := "third" }]

/-- The numbers of these rules are not given twice. -/
theorem neverReuses_after_unevenChanges :
    ofRules unevenly = .ok unevenTable ∧ NumbersSuffice unevenly ∧
      unevenTable.NumbersLast unevenChanges ∧ unevenTable.NeverReuses unevenChanges := by
  have hsuffice : NumbersSuffice unevenly := by
    intro id hid
    have hle : id ≤ 0 := by
      rcases hid with rfl | ⟨rule, hrule, hid⟩
      · exact Int.le_refl 0
      · simp only [unevenly, List.mem_cons, List.not_mem_nil, or_false] at hrule
        rcases hrule with rfl | rfl | rfl <;> simp at hid
        omega
    have hlength : (unevenly.filter fun rule => rule.id.isNone).length = 2 := rfl
    rw [hlength]
    omega
  have hlast : unevenTable.NumbersLast unevenChanges :=
    ⟨trivial, nofun, trivial, nofun, fun _ => by decide, trivial⟩
  exact ⟨rfl, hsuffice, hlast, neverReuses_after rfl hsuffice unevenChanges hlast⟩

end StubServer.Table
