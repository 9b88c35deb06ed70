import StubServer.Proofs.Store.Numbering
import StubServer.Proofs.Store.WriteThrough

/-!
# Numbers across reopening

A file holds the rules of a store, but not the number that was given last. A store that is opened with it takes
the greatest number in the file for that. So the numbers keep ascending exactly if, whenever the file is opened
anew, it holds a rule with a number at least as great as all that were given before. If the rule with the greatest
number was deleted by then, its number is given again.

## Main statements

* `Store.recorded_replay`: the file of a store holds its rules after any events.
* `Store.tracked_append_singleton`: one event keeps track of the numbers that were given.
* `Store.tracked_replay`: so do all events.
* `Store.numbersAscend_iff`: when the numbers keep ascending.
-/

namespace StubServer

variable {rule saved : Rule} {id : Int} {ids : List Int}

/-! ### Tables -/

namespace Table

variable {table after : Table}

/-- The rules of a table that can be written leave enough numbers for loading them: none of them needs one. -/
theorem WellFormed.numbersSuffice (h : table.WellFormed) (hexpressible : table.Expressible) :
    NumbersSuffice table.all := by
  have hnone : table.all.filter (fun rule => rule.id.isNone) = [] := by
    refine List.filter_eq_nil_iff.mpr fun rule hrule => ?_
    obtain ⟨id, hid, -⟩ := h.mem_all_iff.mp hrule
    simp [hid]
  rintro id hid
  rw [hnone, List.length_nil]
  rcases hid with rfl | ⟨rule, hrule, hid⟩
  · decide
  · have hbounds := (hexpressible.all rule hrule).id id hid
    omega

/-- A rule that is saved under its own number is saved as it is, and the number is in use or beyond the last. -/
theorem eq_of_save_numbered (hid : rule.id = some id) (hsave : table.save rule = .ok (saved, after)) :
    saved = rule ∧ (table.contains id = true ∨ table.lastId < id) := by
  by_cases hused : table.contains id = true
  · rw [save_stored hid hused] at hsave
    exact ⟨(fst_eq_of_ok_eq hsave).symm, .inl hused⟩
  · by_cases hlt : table.lastId < id
    · rw [save_beyond hid (eq_false_of_ne_true hused) hlt] at hsave
      exact ⟨(fst_eq_of_ok_eq hsave).symm, .inr hlt⟩
    · rw [save_refused hid (eq_false_of_ne_true hused) (Int.not_lt.mp hlt)] at hsave
      cases hsave

/-- The number of a rule that was saved is positive, if those that were given before are. -/
theorem Remembers.pos_of_save (h : table.Remembers (· ∈ ids)) (hpositive : ∀ i ∈ ids, 0 < i)
    (hnumber : rule.id = none → table.lastId < 9223372036854775807)
    (hsave : table.save rule = .ok (saved, after)) (hid : saved.id = some id) : 0 < id := by
  have hnonneg := h.nonneg
  cases hgiven : rule.id with
  | none =>
      rw [save_draft hgiven, following_eq hnonneg (hnumber hgiven)] at hsave
      rw [← fst_eq_of_ok_eq hsave] at hid
      have hnext : table.lastId + 1 = id := Option.some.inj hid
      omega
  | some given =>
      obtain ⟨rfl, hplace⟩ := eq_of_save_numbered hgiven hsave
      obtain rfl : given = id := Option.some.inj (hgiven.symm.trans hid)
      rcases hplace with hused | hlt
      · exact hpositive given (h.stored given hused)
      · exact Int.lt_of_le_of_lt hnonneg hlt

/-- A table remembers the number of a rule that was saved, besides the others. -/
theorem Remembers.save (h : table.Remembers (· ∈ ids))
    (hnumber : rule.id = none → table.lastId < 9223372036854775807)
    (hsave : table.save rule = .ok (saved, after)) (hid : saved.id = some id) :
    after.Remembers (· ∈ ids ++ [id]) := by
  obtain ⟨number, hsaved, hrows⟩ := rows_of_save hsave
  obtain rfl : number = id := by
    rw [hsaved] at hid
    exact Option.some.inj hid
  have hcontains : ∀ i, after.contains i = true ↔ i = number ∨ table.contains i = true := by
    intro i
    rw [← h.wellFormed.contains_insertRow saved after.lastId i, ← hrows]
  have hchange : (Change.save rule).HasNumber table := hnumber
  have hrun := h.run hchange
  rw [Change.run, hsave] at hrun
  refine hrun.congr fun i => ?_
  rw [hcontains, List.mem_append, List.mem_singleton]
  constructor
  · rintro (hi | rfl | hi)
    · exact .inl hi
    · exact .inr rfl
    · exact .inl (h.stored i hi)
  · rintro (hi | rfl)
    · exact .inl hi
    · exact .inr (.inl rfl)

/-- A table remembers the numbers also after a rule was deleted. -/
theorem Remembers.delete (h : table.Remembers (· ∈ ids)) (id : Int) :
    (table.delete id).2.Remembers (· ∈ ids) := by
  have hchange : (Change.delete id).HasNumber table := trivial
  refine (h.run hchange).congr fun i => ⟨?_, .inl⟩
  rintro (hi | hi)
  · exact hi
  · exact h.stored i ((contains_delete table id i).mp hi).2

end Table

namespace Store

/-! ### Events -/

/-- What is done with a store and its file: a write, or opening the file anew. -/
inductive Event where
  | write (write : Write)
  | reopen

/-- The store that is opened with the file of a store, which stays as it is if that cannot be opened. -/
def reopened (store : Store) : Store :=
  match store.disk.map ofDisk with
  | some (.ok opened) => opened
  | _ => store

/-- The store after an event. -/
def Event.run (store : Store) : Event → Store
  | write w => w.run store
  | reopen => store.reopened

/-- The number of the rule that is saved, if an event saves one. -/
def Event.number? (store : Store) : Event → Option Int
  | write (.save condition rule) => ((store.save condition rule).1.toOption).bind Rule.id
  | _ => none

/-- The store after some events. -/
def replay (store : Store) (events : List Event) : Store :=
  events.foldl Event.run store

/-- The numbers that saving gave back in the course of some events, the latest at the end. -/
def numbers : Store → List Event → List Int
  | _, [] => []
  | store, event :: rest => (event.number? store).toList ++ numbers (event.run store) rest

/-- A writing may fail in any step before the renaming, and a rule that is saved can be written. -/
def Event.Allowed : Event → Prop
  | write w => w.Allowed
  | reopen => True

variable {store after start : Store} {table : Table} {condition : Condition} {disk : Disk} {event : Event}
  {events done more : List Event}

/-- Some events and one more. -/
theorem replay_append_singleton (start : Store) (events : List Event) (event : Event) :
    start.replay (events ++ [event]) = event.run (start.replay events) :=
  List.foldl_append

/-- The numbers that one more event gives come behind the others. -/
theorem numbers_append_singleton (start : Store) (events : List Event) (event : Event) :
    start.numbers (events ++ [event]) =
      start.numbers events ++ (event.number? (start.replay events)).toList := by
  induction events generalizing start with
  | nil => simp [numbers, replay]
  | cons first rest ih =>
      rw [List.cons_append, numbers, ih, numbers, List.append_assoc]
      rfl

/-- What an event does to the table, and which number it gives: nothing, saving a rule, deleting one, or what
opening the file does. -/
theorem Event.cases (event : Event) (store : Store) :
    ((event.run store).table = store.table ∧ event.number? store = none) ∨
    (∃ condition rule saved, event = .write (.save condition rule) ∧
      (store.save condition rule).1 = .ok saved ∧
      store.table.save rule = .ok (saved, (event.run store).table) ∧ event.number? store = saved.id) ∨
    (∃ id, (event.run store).table = (store.table.delete id).2 ∧ event.number? store = none) ∨
    event = .reopen := by
  cases event with
  | reopen => exact .inr (.inr (.inr rfl))
  | write write =>
      cases write with
      | save condition rule =>
          rcases save_cases condition rule store with
            ⟨error, after, hcall, htable⟩ | ⟨saved, after, hcall, hsave⟩
          · refine .inl ⟨?_, ?_⟩
            · simpa [Event.run, Write.run, hcall] using htable
            · simp [Event.number?, hcall, Except.toOption]
          · refine .inr (.inl ⟨condition, rule, saved, rfl, by rw [hcall], ?_, ?_⟩)
            · simpa [Event.run, Write.run, hcall] using hsave
            · simp [Event.number?, hcall, Except.toOption]
      | delete condition id =>
          rcases delete_cases condition id store with
            ⟨error, after, hcall, htable⟩ | ⟨found, after, hcall, htable⟩
          · exact .inl ⟨by simpa [Event.run, Write.run, hcall] using htable, rfl⟩
          · exact .inr (.inr (.inl ⟨id, by simpa [Event.run, Write.run, hcall] using htable, rfl⟩))

/-! ### The file in between -/

/-- The file of a store is within reach and holds the rules of the store. It may be missing as long as nothing
was ever stored. -/
structure Recorded (store : Store) : Prop where
  wellFormed : store.table.WellFormed
  expressible : store.table.Expressible
  file : ∃ disk, store.disk = some disk ∧ disk.blocked = false ∧
    (disk.content? = none ∧ store.table = {} ∨ disk.content? = some (fileText store.table))

/-- A store whose file does not exist yet is recorded. -/
theorem recorded_absent (habsent : disk.target = none) (hblocked : disk.blocked = false) :
    Recorded { disk := some disk } where
  wellFormed := Table.wellFormed_empty
  expressible := Table.expressible_empty
  file := ⟨disk, rfl, hblocked, .inl ⟨by simp [Disk.content?, hblocked, habsent], rfl⟩⟩

/-- A store that nothing was done to is still recorded. -/
theorem Recorded.untouched (h : store.Recorded) (hsame : store.Untouched after) : after.Recorded := by
  obtain ⟨hwf, hexpressible, disk, hdisk, hblocked, hfile⟩ := h
  refine ⟨hsame.table ▸ hwf, hsame.table ▸ hexpressible, ?_⟩
  have hafter := hsame.disk
  rw [hdisk, Option.map_some] at hafter
  obtain ⟨other, hother, hsettled⟩ := Option.map_eq_some_iff.mp hafter
  refine ⟨other, hother, (congrArg Disk.blocked hsettled).trans hblocked, ?_⟩
  rwa [hsame.table, Disk.content?_eq_of_settled hsettled]

/-- A store whose table is in its file is recorded. -/
theorem recorded_of_content (hwf : after.table.WellFormed) (h : after.table.Expressible)
    (hcontent : ∃ disk, after.disk = some disk ∧ disk.content? = some (fileText after.table)) :
    after.Recorded := by
  obtain ⟨disk, hdisk, hcontent⟩ := hcontent
  refine ⟨hwf, h, disk, hdisk, ?_, .inr hcontent⟩
  unfold Disk.content? at hcontent
  split at hcontent
  · cases hcontent
  · exact eq_false_of_ne_true ‹_›

/-- A write leaves a store recorded. -/
theorem Recorded.write (h : store.Recorded) {write : Write} (hwrite : write.Allowed) :
    (write.run store).Recorded := by
  obtain ⟨disk, hdisk, -⟩ := h.file
  rcases Write.untouched_or_content hwrite h.wellFormed h.expressible hdisk with
    hsame | ⟨hwf, hexpressible, hcontent⟩
  · exact h.untouched hsame
  · exact recorded_of_content hwf hexpressible hcontent

/-- **Opening the file anew** gives the same rows, and a last number that remembers these and nothing else. -/
theorem Recorded.reopened (h : store.Recorded) :
    store.reopened.Recorded ∧ store.reopened.table.rows = store.table.rows ∧
      store.reopened.table.Remembers fun i => store.reopened.table.contains i = true := by
  obtain ⟨hwf, hexpressible, disk, hdisk, hblocked, hfile⟩ := h
  obtain ⟨loaded, hload, hrows⟩ := hwf.ofRules_all
  have hremembers := Table.remembers_of_ofRules hload (hwf.numbersSuffice hexpressible)
  have hopen : ofDisk disk = .ok { table := loaded, disk := some disk } := by
    unfold ofDisk
    rcases hfile with ⟨hcontent, htable⟩ | hcontent
    · rw [htable] at hload
      have hempty : {} = loaded := Except.ok.inj hload
      rw [hcontent, hempty]
    · rw [hcontent]
      dsimp only
      rw [fileText, rulesOfFile_renderPretty hexpressible.all, ok_bind, hload]
      rfl
  have hreopened : store.reopened = { table := loaded, disk := some disk } := by
    unfold Store.reopened
    rw [hdisk, Option.map_some, hopen]
  have hall : loaded.all = store.table.all := by rw [Table.all, Table.all, hrows]
  rw [hreopened]
  refine ⟨⟨hremembers.wellFormed, ?_, disk, rfl, hblocked, ?_⟩, hrows, hremembers⟩
  · intro row hrow
    exact hexpressible row (hrows ▸ hrow)
  · rcases hfile with ⟨hcontent, htable⟩ | hcontent
    · rw [htable] at hload
      exact .inl ⟨hcontent, (Except.ok.inj hload).symm⟩
    · exact .inr (hcontent.trans (by rw [fileText, fileText, hall]))

/-- **After any events** a store is recorded. -/
theorem recorded_replay (h : start.Recorded) (hevents : ∀ event ∈ events, event.Allowed) :
    (start.replay events).Recorded := by
  induction events generalizing start with
  | nil => exact h
  | cons event rest ih =>
      obtain ⟨hevent, hrest⟩ := List.forall_mem_cons.mp hevents
      cases event with
      | write write => exact ih (h.write hevent) hrest
      | reopen => exact ih h.reopened.1 hrest

/-! ### What was given -/

/-- The last number of a store remembers all numbers that were given in the course of some events, and these are
positive. -/
structure Tracked (start : Store) (done : List Event) : Prop where
  remembers : (start.replay done).table.Remembers (· ∈ start.numbers done)
  positive : ∀ id ∈ start.numbers done, 0 < id

/-- For each number that was given, one at least as great is in use. -/
def KeepsGreatest (start : Store) (done : List Event) : Prop :=
  ∀ id ∈ start.numbers done, ∃ kept, (start.replay done).table.contains kept = true ∧ id ≤ kept

/-- A store with an empty table has given no numbers. -/
theorem tracked_nil (hempty : start.table = {}) : start.Tracked [] where
  remembers := by
    have hload : Table.ofRules [] = .ok {} := rfl
    have hremembers := Table.remembers_of_ofRules hload (by simp [Table.NumbersSuffice])
    rw [← hempty] at hremembers
    exact hremembers.congr fun i => by simp [hempty, numbers, Table.contains]
  positive := by simp [numbers]

/-- Opening the file anew leaves the numbers in use. -/
theorem Recorded.contains_reopened (h : store.Recorded) (id : Int) :
    store.reopened.table.contains id = store.table.contains id := by
  rw [Table.contains, Table.contains, h.reopened.2.1]

/-- **One event** keeps track of the numbers that were given, if there is a number for a rule without one, and the
file that is opened anew holds the greatest number. -/
theorem tracked_append_singleton (h : start.Tracked done) (hrecorded : (start.replay done).Recorded)
    (hdraft : ∀ condition rule, event = .write (.save condition rule) → rule.id = none →
      ((start.replay done).save condition rule).1.isOk = true →
      (start.replay done).table.lastId < 9223372036854775807)
    (hreopen : event = .reopen → start.KeepsGreatest done) : start.Tracked (done ++ [event]) := by
  obtain ⟨hremembers, hpositive⟩ := h
  rcases event.cases (start.replay done) with
    ⟨htable, hnone⟩ | ⟨condition, rule, saved, rfl, hok, hsave, hnumber⟩ | ⟨id, htable, hnone⟩ | rfl
  · constructor <;>
      simpa only [replay_append_singleton, numbers_append_singleton, htable, hnone, Option.toList_none,
        List.append_nil]
  · have hroom : rule.id = none → (start.replay done).table.lastId < 9223372036854775807 := fun hid =>
      hdraft condition rule rfl hid (by rw [hok]; rfl)
    obtain ⟨id, hsaved, -⟩ := Table.rows_of_save hsave
    have hid : saved.id = some id := by rw [hsaved]
    constructor <;>
      rw [numbers_append_singleton, hnumber, hid, Option.toList_some]
    · rw [replay_append_singleton]
      exact hremembers.save hroom hsave hid
    · rw [List.forall_mem_append]
      exact ⟨hpositive, List.forall_mem_singleton.mpr (hremembers.pos_of_save hpositive hroom hsave hid)⟩
  · constructor <;>
      simp only [replay_append_singleton, numbers_append_singleton, htable, hnone, Option.toList_none,
        List.append_nil]
    · exact hremembers.delete id
    · exact hpositive
  · obtain ⟨-, -, hopened⟩ := hrecorded.reopened
    constructor <;>
      simp only [replay_append_singleton, numbers_append_singleton, Event.run, Event.number?, Option.toList_none,
        List.append_nil]
    · have hheld : ∀ i, (start.replay done).reopened.table.contains i = true → i ∈ start.numbers done :=
        fun i hi => hremembers.stored i (hrecorded.contains_reopened i ▸ hi)
      refine ⟨hopened.wellFormed, hheld, fun i hi => ?_, hopened.reached.imp_right (hheld _), hopened.nonneg⟩
      obtain ⟨kept, hkept, hle⟩ := hreopen rfl i hi
      exact Int.le_trans hle (hopened.upTo kept (hrecorded.contains_reopened kept ▸ hkept))
    · exact hpositive

/-! ### Ascending numbers -/

/-- Numbers ascend, and none that is gone comes back. -/
structure NumbersAscend (start : Store) (events : List Event) : Prop where
  /-- A rule that is saved without a number at any time gets one that is greater than all that were given
  before. -/
  draft : ∀ done, done <+: events → ∀ condition rule saved, rule.id = none →
    ((start.replay done).save condition rule).1 = .ok saved →
    ∃ id, saved.id = some id ∧ ∀ earlier ∈ start.numbers done, earlier < id
  /-- A number that was given and is not in use at some time is not in use at any later time. -/
  gone : ∀ done more id, done ++ more <+: events → id ∈ start.numbers done →
    (start.replay done).table.contains id = false →
    (start.replay (done ++ more)).table.contains id = false

/-- A rule that is saved without a number gets the one after the last. -/
theorem id_of_save_draft (hid : rule.id = none) (hsave : (store.save condition rule).1 = .ok saved) :
    saved.id = some (Table.following store.table.lastId) := by
  rcases save_cases condition rule store with ⟨error, after, hcall, -⟩ | ⟨given, after, hcall, htable⟩
  · rw [hcall] at hsave
    cases hsave
  · rw [hcall] at hsave
    obtain rfl : given = saved := Except.ok.inj hsave
    rw [Table.save_draft hid] at htable
    rw [← fst_eq_of_ok_eq htable]

/-- A recorded store can save a rule without a number. -/
theorem Recorded.exists_saved (h : store.Recorded) : ∃ saved, (store.save {} {}).1 = .ok saved := by
  obtain ⟨disk, hdisk, hblocked, -⟩ := h.file
  have hwritable : store.Writable := by
    intro other hother
    rw [hdisk] at hother
    exact Option.some.inj hother ▸ hblocked
  have hdraft : ({} : Rule).id = none := rfl
  obtain ⟨after, hsave, -⟩ := hwritable.save (Table.save_draft hdraft)
  exact ⟨_, by rw [hsave]⟩

/-- If a rule without a number gets one that is greater than all that were given, there was one left. -/
theorem Tracked.lastId_lt (h : start.Tracked done)
    (hless : ∀ earlier ∈ start.numbers done, earlier < Table.following (start.replay done).table.lastId) :
    (start.replay done).table.lastId < 9223372036854775807 := by
  rcases h.remembers.reached with hzero | hgiven
  · rw [hzero]
    decide
  · have hbounds := Table.following_bounds (start.replay done).table.lastId
    have hlt := hless _ hgiven
    omega

/-- If, after the file was opened anew, a rule without a number gets one that is greater than all that were given,
the file holds the greatest of them. -/
theorem Tracked.keepsGreatest (h : start.Tracked done) (hrecorded : (start.replay done).Recorded)
    (hless : ∀ earlier ∈ start.numbers done,
      earlier < Table.following (start.replay done).reopened.table.lastId) : start.KeepsGreatest done := by
  intro id hid
  obtain ⟨-, -, hopened⟩ := hrecorded.reopened
  have hlt := hless id hid
  set lastId := (start.replay done).reopened.table.lastId with hlastId
  have hle : id ≤ lastId := by
    by_cases hroom : lastId < 9223372036854775807
    · rw [Table.following_eq hopened.nonneg hroom] at hlt
      omega
    · have hbounds := Table.following_bounds lastId
      omega
  rcases hopened.reached with hzero | hstored
  · have hpos := h.positive id hid
    omega
  · exact ⟨lastId, hrecorded.contains_reopened lastId ▸ hstored, hle⟩

/-- Numbers that were given in the course of some events were given in the course of these and more. -/
theorem numbers_subset_append (start : Store) (done more : List Event) :
    start.numbers done ⊆ start.numbers (done ++ more) := by
  induction more using List.reverseRecOn with
  | nil => simp
  | append_singleton more event ih =>
      rw [← List.append_assoc, numbers_append_singleton]
      exact fun id hid => List.mem_append_left _ (ih hid)

/-- A number that was given and is not in use any more is not brought back by one event. -/
theorem Tracked.contains_run_eq_false (h : start.Tracked done) (hrecorded : (start.replay done).Recorded)
    (hroom : (start.replay done).table.lastId < 9223372036854775807) (hgiven : id ∈ start.numbers done)
    (habsent : (start.replay done).table.contains id = false) (event : Event) :
    (event.run (start.replay done)).table.contains id = false := by
  have hgone : (start.replay done).table.Gone id := ⟨h.remembers.upTo id hgiven, habsent⟩
  rcases event.cases (start.replay done) with
    ⟨htable, -⟩ | ⟨condition, rule, saved, rfl, -, hsave, -⟩ | ⟨deleted, htable, -⟩ | rfl
  · rw [htable]
    exact habsent
  · have hchange : (Table.Change.save rule).HasNumber (start.replay done).table := fun _ => hroom
    have hrun := hgone.run h.remembers hchange
    rw [Table.Change.run, hsave] at hrun
    exact hrun.absent
  · rw [htable]
    have hchange : (Table.Change.delete deleted).HasNumber (start.replay done).table := trivial
    exact (hgone.run h.remembers hchange).absent
  · exact (hrecorded.contains_reopened id).trans habsent

/-! ### All events -/

/-- What was done first in the course of some events was done in their course. -/
theorem begins_of_append (h : done ++ more <+: events) : done <+: events :=
  (List.prefix_append done more).trans h

/-- **The numbers are kept track of** in the course of some events, if there is a number left after all that are
kept track of, and the file holds the greatest of them whenever it is opened anew. -/
theorem tracked_replay (hempty : start.table = {})
    (hrecorded : ∀ done, done <+: events → (start.replay done).Recorded)
    (hroom : ∀ done, done <+: events → start.Tracked done →
      (start.replay done).table.lastId < 9223372036854775807)
    (hkeeps : ∀ done, done ++ [.reopen] <+: events → start.Tracked done → start.KeepsGreatest done) :
    ∀ done, done <+: events → start.Tracked done := by
  intro done
  induction done using List.reverseRecOn with
  | nil => exact fun _ => tracked_nil hempty
  | append_singleton done event ih =>
      intro hdone
      have hbefore := begins_of_append hdone
      have htracked := ih hbefore
      refine tracked_append_singleton htracked (hrecorded done hbefore)
        (fun _ _ _ _ _ => hroom done hbefore htracked) ?_
      rintro rfl
      exact hkeeps done hdone htracked

/-- If numbers ascend, what a rule without a number would get at any time is greater than all that were given. -/
theorem NumbersAscend.lt_following (h : start.NumbersAscend events) (hdone : done <+: events)
    (hrecorded : (start.replay done).Recorded) :
    ∀ earlier ∈ start.numbers done, earlier < Table.following (start.replay done).table.lastId := by
  obtain ⟨saved, hsaved⟩ := hrecorded.exists_saved
  obtain ⟨id, hid, hearlier⟩ := h.draft done hdone {} {} saved rfl hsaved
  rw [id_of_save_draft rfl hsaved] at hid
  rwa [Option.some.inj hid]

/-- Numbers that are kept track of ascend, as long as there is one left. -/
theorem numbersAscend_of_tracked (hrecorded : ∀ done, done <+: events → (start.replay done).Recorded)
    (htracked : ∀ done, done <+: events → start.Tracked done)
    (hroom : ∀ done, done <+: events → (start.replay done).table.lastId < 9223372036854775807) :
    start.NumbersAscend events := by
  refine ⟨fun done hdone condition rule saved hid hsaved => ?_, fun done more id hall hgiven hgone => ?_⟩
  · have hremembers := (htracked done hdone).remembers
    refine ⟨_, id_of_save_draft hid hsaved, fun earlier hearlier => ?_⟩
    rw [Table.following_eq hremembers.nonneg (hroom done hdone)]
    exact Int.lt_add_one_of_le (hremembers.upTo earlier hearlier)
  · induction more using List.reverseRecOn with
    | nil => simpa using hgone
    | append_singleton more event ih =>
        rw [← List.append_assoc] at hall ⊢
        have hbefore := begins_of_append hall
        rw [replay_append_singleton]
        exact (htracked _ hbefore).contains_run_eq_false (hrecorded _ hbefore) (hroom _ hbefore)
          (numbers_subset_append start done more hgiven) (ih hbefore) event

/-- **Numbers ascend across reopening** exactly if the file holds the greatest number that was given whenever it is
opened anew, and the greatest number there is was not given. This is for all events from a missing file on, whatever
fails of them. -/
theorem numbersAscend_iff (habsent : disk.target = none) (hblocked : disk.blocked = false) (events : List Event)
    (hevents : ∀ event ∈ events, event.Allowed) :
    let start : Store := { disk := some disk }
    start.NumbersAscend events ↔
      (∀ done, done ++ [.reopen] <+: events → start.KeepsGreatest done) ∧
        ∀ id ∈ start.numbers events, id < 9223372036854775807 := by
  intro start
  have hrecorded : ∀ done, done <+: events → (start.replay done).Recorded := fun done hdone =>
    recorded_replay (recorded_absent habsent hblocked) fun event hevent => hevents event (hdone.subset hevent)
  constructor
  · intro hascend
    have hless : ∀ done, done <+: events → ∀ earlier ∈ start.numbers done,
        earlier < Table.following (start.replay done).table.lastId := fun done hdone =>
      hascend.lt_following hdone (hrecorded done hdone)
    have hkeeps : ∀ done, done ++ [.reopen] <+: events → start.Tracked done → start.KeepsGreatest done := by
      intro done hdone htracked
      refine htracked.keepsGreatest (hrecorded done (begins_of_append hdone)) ?_
      have hafter := hless _ hdone
      rw [replay_append_singleton, numbers_append_singleton] at hafter
      simpa [Event.run, Event.number?] using hafter
    have htracked := tracked_replay rfl hrecorded (fun done hdone h => h.lastId_lt (hless done hdone)) hkeeps
    refine ⟨fun done hdone => hkeeps done hdone (htracked done (begins_of_append hdone)), fun id hid => ?_⟩
    have hlt := hless events (List.prefix_refl _) id hid
    have hbounds := Table.following_bounds (start.replay events).table.lastId
    omega
  · rintro ⟨hkeeps, hgiven⟩
    have hroom : ∀ done, done <+: events → start.Tracked done →
        (start.replay done).table.lastId < 9223372036854775807 := by
      rintro done ⟨more, rfl⟩ htracked
      rcases htracked.remembers.reached with hzero | hlast
      · rw [hzero]
        decide
      · exact hgiven _ (numbers_subset_append start done more hlast)
    have htracked := tracked_replay rfl hrecorded hroom fun done hdone _ => hkeeps done hdone
    exact numbersAscend_of_tracked hrecorded htracked fun done hdone => hroom done hdone (htracked done hdone)

/-- Two rules are saved, the second one is deleted, and the file is opened anew. -/
def deletedAndReopened : List Event :=
  [.write (.save {} (.new "first" "GET" "/first")), .write (.save {} (.new "second" "GET" "/second")),
    .write (.delete {} 2), .reopen]

/-- Nothing goes wrong with these events. -/
theorem allowed_deletedAndReopened : ∀ event ∈ deletedAndReopened, event.Allowed := by
  simp only [deletedAndReopened, List.forall_mem_cons]
  refine ⟨⟨?_, ⟨by simp [Rule.new], by decide, by simp [Rule.new], by simp [Rule.new]⟩⟩,
    ⟨?_, ⟨by simp [Rule.new], by decide, by simp [Rule.new], by simp [Rule.new]⟩⟩, ?_, trivial, by simp⟩
  all_goals exact fun _ hcut => by cases hcut

/-- When the numbers ascend in the course of these events, which is not the case. -/
theorem numbersAscend_iff_deletedAndReopened :
    (∀ event ∈ deletedAndReopened, event.Allowed) ∧
      (({ disk := some {} } : Store).NumbersAscend deletedAndReopened ↔
        (∀ done, done ++ [.reopen] <+: deletedAndReopened → ({ disk := some {} } : Store).KeepsGreatest done) ∧
          ∀ id ∈ ({ disk := some {} } : Store).numbers deletedAndReopened, id < 9223372036854775807) :=
  ⟨allowed_deletedAndReopened, numbersAscend_iff rfl rfl deletedAndReopened allowed_deletedAndReopened⟩

/-- **Numbers do not always ascend.** The number of the rule that was deleted before the file was opened anew is
given to the next rule. -/
theorem not_forall_numbersAscend :
    ¬ ∀ (disk : Disk) (events : List Event), disk.target = none → disk.blocked = false →
      (∀ event ∈ events, event.Allowed) → ({ disk := some disk } : Store).NumbersAscend events := by
  intro hall
  have hascend := hall {} deletedAndReopened rfl rfl allowed_deletedAndReopened
  have hgiven : 2 ∈ ({ disk := some {} } : Store).numbers deletedAndReopened := by decide +kernel
  have hsaved : ((({ disk := some {} } : Store).replay deletedAndReopened).save {} (.new "third" "GET" "/third")).1 =
      .ok { Rule.new "third" "GET" "/third" with id := some 2 } := by decide +kernel
  obtain ⟨id, hid, hless⟩ := hascend.draft _ (List.prefix_refl _) {} _ _ rfl hsaved
  obtain rfl : 2 = id := Option.some.inj hid
  exact absurd (hless 2 hgiven) (Int.lt_irrefl 2)

end Store

end StubServer
