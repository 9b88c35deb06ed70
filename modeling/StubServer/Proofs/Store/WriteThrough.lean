import StubServer.Proofs.Store.File
import StubServer.Proofs.Store.Rollback

/-!
# Writing through

The file of a store has the rules of the store at any time. A write that succeeds replaces the file by one with
the changed rules, and one that fails changes neither, so that opening the file again gives the same rules
after every run of writes.

## Main statements

* `Store.content_of_save`, `Store.content_of_delete`: what a file holds after a write that succeeded.
* `Store.Write.untouched_or_content`: what a single write does.
* `Store.reopens_after`: after any run of writes the file is opened with the rules of the store.
-/

namespace StubServer

/-! ### Files -/

namespace Disk

variable {disk other after : Disk} {cut : Option Cut} {text : String}

/-- The text of a file does not depend on the file beside it. -/
theorem content?_eq_of_settled (h : disk.settled = other.settled) : disk.content? = other.content? := by
  obtain ⟨target, draft, blocked⟩ := disk
  obtain ⟨otherTarget, otherDraft, otherBlocked⟩ := other
  simp only [settled, mk.injEq, true_and] at h
  rw [content?, content?, h.1, h.2]

/-- A file that was replaced holds the new text. -/
theorem content?_of_replace (h : disk.replace cut text = (none, after)) : after.content? = some text := by
  unfold replace at h
  split at h
  · cases h
  · cases cut with
    | some cut => cases h
    | none =>
        have hblocked : disk.blocked = false := eq_false_of_ne_true ‹_›
        rw [← (Prod.mk.inj h).2]
        simp [run, steps, Step.run, content?, hblocked]

end Disk

/-! ### Single writes -/

namespace Store

variable {condition : Condition} {store after : Store} {table : Table} {rule saved : Rule} {id : Int}
  {disk : Disk}

/-- A changed table that is taken over is in the file. -/
theorem content_of_commit {α : Type} {result given : α} (hdisk : store.disk = some disk)
    (h : store.commit condition result table = (.ok given, after)) :
    after.table = table ∧ ∃ disk, after.disk = some disk ∧ disk.content? = some (fileText table) := by
  unfold commit at h
  simp only [hdisk] at h
  split at h
  · rename_i replaced hreplace
    rw [← (Prod.mk.inj h).2]
    exact ⟨rfl, replaced, rfl, Disk.content?_of_replace hreplace⟩
  · cases (Prod.mk.inj h).1

/-- **A rule that was saved** is in the table and in the file. -/
theorem content_of_save (hdisk : store.disk = some disk)
    (h : store.save condition rule = (.ok saved, after)) :
    (∃ given, store.table.save rule = .ok (given, after.table)) ∧
      ∃ disk, after.disk = some disk ∧ disk.content? = some (fileText after.table) := by
  unfold save at h
  split at h
  · cases (Prod.mk.inj h).1
  split at h
  · rename_i given table hsave
    obtain ⟨htable, hcontent⟩ := content_of_commit hdisk h
    exact ⟨⟨given, htable ▸ hsave⟩, htable ▸ hcontent⟩
  · cases (Prod.mk.inj h).1

/-- **A rule that was deleted** is neither in the table nor in the file. -/
theorem content_of_delete {found : Bool} (hdisk : store.disk = some disk)
    (h : store.delete condition id = (.ok found, after)) :
    after.table = (store.table.delete id).2 ∧
      ∃ disk, after.disk = some disk ∧ disk.content? = some (fileText after.table) := by
  unfold delete at h
  split at h
  · cases (Prod.mk.inj h).1
  · obtain ⟨htable, hcontent⟩ := content_of_commit hdisk h
    exact ⟨htable, htable ▸ hcontent⟩

/-! ### Runs of writes -/

/-- A writing call with what goes wrong with it. -/
inductive Write where
  | save (condition : Condition) (rule : Rule)
  | delete (condition : Condition) (id : Int)

/-- The store after a write, whether it succeeds or not. -/
def Write.run : Write → Store → Store
  | save condition rule, store => (store.save condition rule).2
  | delete condition id, store => (store.delete condition id).2

/-- A write may fail in any step before the renaming. A rule that is saved can be written. -/
def Write.Allowed : Write → Prop
  | save condition rule => condition.BeforeRename ∧ rule.Expressible
  | delete condition _ => condition.BeforeRename

/-- The store after some writes. -/
def run (writes : List Write) (store : Store) : Store :=
  writes.foldl (fun store write => write.run store) store

/-- Some writes and then others. -/
theorem run_append (writes others : List Write) (store : Store) :
    store.run (writes ++ others) = (store.run writes).run others :=
  List.foldl_append

/-- A write leaves the file within reach, whatever goes wrong with it. -/
theorem Writable.write (h : store.Writable) (write : Write) : (write.run store).Writable := by
  cases write with
  | save condition rule =>
      rw [Write.run, Store.save]
      split
      · exact h
      · split
        · exact h.after_commit condition _ _
        · exact h
  | delete condition id =>
      rw [Write.run, Store.delete]
      split
      · exact h
      · exact h.after_commit condition _ _

/-- The file stays within reach, whatever is written. -/
theorem Writable.run_writes (h : store.Writable) (writes : List Write) : (store.run writes).Writable := by
  induction writes generalizing store with
  | nil => exact h
  | cons write rest ih => exact ih (h.write write)

/-- A write of a rule that can be written keeps a table expressible. -/
theorem Write.expressible_run (h : store.table.Expressible) {write : Write}
    (hrule : ∀ condition rule, write = .save condition rule → rule.Expressible) :
    (write.run store).table.Expressible := by
  cases write with
  | save condition rule =>
      rw [Write.run]
      rcases save_cases condition rule store with ⟨error, after, heq, htable⟩ | ⟨saved, after, heq, hsave⟩
      · rwa [heq, htable]
      · rw [heq]
        exact h.save (hrule condition rule rfl) hsave
  | delete condition id =>
      rw [Write.run]
      rcases delete_cases condition id store with ⟨error, after, heq, htable⟩ | ⟨found, after, heq, htable⟩
      · rwa [heq, htable]
      · rw [heq, htable]
        exact h.delete id

/-- Writes of rules that can be written keep a table expressible. -/
theorem expressible_run (h : store.table.Expressible) {writes : List Write}
    (hrules : ∀ condition rule, .save condition rule ∈ writes → rule.Expressible) :
    (store.run writes).table.Expressible := by
  induction writes generalizing store with
  | nil => exact h
  | cons write rest ih =>
      refine ih (write.expressible_run h ?_) fun condition rule hmem =>
        hrules condition rule (List.mem_cons_of_mem write hmem)
      rintro condition rule rfl
      exact hrules condition rule List.mem_cons_self

/-- The file of a store, opened again, has the rules of the store. -/
structure WrittenThrough (store : Store) : Prop where
  wellFormed : store.table.WellFormed
  expressible : store.table.Expressible
  reopens : ∃ disk reopened, store.disk = some disk ∧ ofDisk disk = .ok reopened ∧
    reopened.table.all = store.table.all

/-- A store that was opened has the rules of its file. -/
theorem writtenThrough_of_ofDisk (h : ofDisk disk = .ok store) : store.WrittenThrough where
  wellFormed := wellFormed_of_ofDisk h
  expressible := expressible_of_ofDisk h
  reopens := by
    rcases ofDisk_cases h with rfl | ⟨rules, table, -, -, rfl⟩
    · exact ⟨disk, _, rfl, h, rfl⟩
    · exact ⟨disk, _, rfl, h, rfl⟩

/-- What stands beside the file does not matter when it is opened. -/
theorem ofDisk_of_settled {other : Disk} {opened : Store} (h : ofDisk disk = .ok opened)
    (hsettled : other.settled = disk.settled) :
    ∃ reopened, ofDisk other = .ok reopened ∧ reopened.table = opened.table := by
  unfold ofDisk at h ⊢
  rw [Disk.content?_eq_of_settled hsettled]
  cases hcontent : disk.content? with
  | none =>
      simp only [hcontent] at h
      exact ⟨_, rfl, (Except.ok.inj h) ▸ rfl⟩
  | some text =>
      simp only [hcontent] at h
      obtain ⟨rules, hrules, h⟩ := exists_of_bind_eq_ok h
      obtain ⟨table, htable, h⟩ := exists_of_bind_eq_ok h
      refine ⟨{ table, disk := some other }, ?_, (Except.ok.inj h) ▸ rfl⟩
      dsimp only
      rw [hrules, ok_bind, htable]
      rfl

/-- A store that nothing was done to still has the rules of its file. -/
theorem WrittenThrough.untouched (h : store.WrittenThrough) (hsame : store.Untouched after) :
    after.WrittenThrough := by
  obtain ⟨hwf, hexpressible, disk, reopened, hdisk, hopen, hall⟩ := h
  refine ⟨hsame.table ▸ hwf, hsame.table ▸ hexpressible, ?_⟩
  have hafter := hsame.disk
  rw [hdisk, Option.map_some] at hafter
  obtain ⟨other, hother, hsettled⟩ := Option.map_eq_some_iff.mp hafter
  obtain ⟨again, hagain, htable⟩ := ofDisk_of_settled hopen hsettled
  exact ⟨other, again, hother, hagain, by rw [htable, hall, hsame.table]⟩

/-- A store whose table is in its file has the rules of its file. -/
theorem writtenThrough_of_content (hwf : after.table.WellFormed) (h : after.table.Expressible)
    (hcontent : ∃ disk, after.disk = some disk ∧ disk.content? = some (fileText after.table)) :
    after.WrittenThrough := by
  obtain ⟨disk, hdisk, hcontent⟩ := hcontent
  obtain ⟨opened, hopen, hrows⟩ := ofDisk_fileText hwf h hcontent
  exact ⟨hwf, h, disk, opened, hdisk, hopen, by rw [Table.all, Table.all, hrows]⟩

/-- **A single write** leaves the store alone, or leaves it with a changed table, which can be written and is in
the file. -/
theorem Write.untouched_or_content {write : Write} (hwrite : write.Allowed) (hwf : store.table.WellFormed)
    (h : store.table.Expressible) (hdisk : store.disk = some disk) :
    store.Untouched (write.run store) ∨
      ((write.run store).table.WellFormed ∧ (write.run store).table.Expressible ∧
        ∃ disk, (write.run store).disk = some disk ∧
          disk.content? = some (fileText (write.run store).table)) := by
  cases write with
  | save condition rule =>
      obtain ⟨hcut, hrule⟩ := hwrite
      rw [Write.run]
      cases hsave : store.save condition rule with
      | mk result after =>
          cases result with
          | error e => exact .inl (untouched_of_save hcut hsave)
          | ok saved =>
              obtain ⟨⟨given, htable⟩, hcontent⟩ := content_of_save hdisk hsave
              exact .inr ⟨hwf.save htable, h.save hrule htable, hcontent⟩
  | delete condition id =>
      rw [Write.run]
      cases hdelete : store.delete condition id with
      | mk result after =>
          cases result with
          | error e => exact .inl (untouched_of_delete hwrite hdelete)
          | ok found =>
              obtain ⟨htable, hcontent⟩ := content_of_delete hdisk hdelete
              exact .inr ⟨htable ▸ hwf.delete id, htable ▸ h.delete id, hcontent⟩

/-- A single write keeps table and file together. -/
theorem WrittenThrough.write (h : store.WrittenThrough) {write : Write} (hwrite : write.Allowed) :
    (write.run store).WrittenThrough := by
  obtain ⟨disk, -, hdisk, -⟩ := h.reopens
  rcases Write.untouched_or_content hwrite h.wellFormed h.expressible hdisk with
    hsame | ⟨hwf, hexpressible, hcontent⟩
  · exact h.untouched hsame
  · exact writtenThrough_of_content hwf hexpressible hcontent

/-- A run of writes keeps table and file together. -/
theorem WrittenThrough.run (h : store.WrittenThrough) {writes : List Write}
    (hwrites : ∀ write ∈ writes, write.Allowed) : (store.run writes).WrittenThrough := by
  induction writes generalizing store with
  | nil => exact h
  | cons write writes ih =>
      exact ih (h.write (hwrites write List.mem_cons_self))
        fun other hother => hwrites other (List.mem_cons_of_mem _ hother)

/-- **After any run of writes** on a store that was opened with a file, whatever fails of them, the file is
opened again, and with the rules of the store. -/
theorem reopens_after (h : ofDisk disk = .ok store) (writes : List Write)
    (hwrites : ∀ write ∈ writes, write.Allowed) :
    ∃ current reopened, (store.run writes).disk = some current ∧ ofDisk current = .ok reopened ∧
      reopened.loadAll {} = (store.run writes).loadAll {} := by
  obtain ⟨current, reopened, hdisk, hopen, hall⟩ := ((writtenThrough_of_ofDisk h).run hwrites).reopens
  exact ⟨current, reopened, hdisk, hopen, congrArg Except.ok hall⟩

/-- A list of rules written by hand: only one of them has a number, and it was made in a leap second. -/
def handWritten : List Rule :=
  [{ name := "Greeting", url := "/hello" },
    { id := some 7, name := "\"Bye\"\n", url := "C:\\", createdAt := some Timestamp.leapSecond }]

/-- The file of the list. -/
def handWrittenDisk : Disk :=
  { target := some (Rule.listToJson handWritten).renderPretty }

/-- The store that is opened with it. -/
def handWrittenStore : Store :=
  { table :=
      { rows := [(7, { id := some 7, name := "\"Bye\"\n", url := "C:\\",
                       createdAt := some Timestamp.leapSecond }),
          (8, { id := some 8, name := "Greeting", url := "/hello" })]
        lastId := 8 }
    disk := some handWrittenDisk }

/-- Writes of which the first is cut off while writing and the second conflicts. -/
def mixedWrites : List Write :=
  [.save { cut := some { completed := 2, written := 40 } } { name := "Lost" },
    .save {} { id := some 3, name := "Unknown" }, .save {} { name := "Kept" }, .delete {} 7]

/-- The file is opened again after these writes. -/
theorem reopens_after_mixedWrites :
    ofDisk handWrittenDisk = .ok handWrittenStore ∧ (∀ write ∈ mixedWrites, write.Allowed) ∧
      ∃ current reopened, (handWrittenStore.run mixedWrites).disk = some current ∧
        ofDisk current = .ok reopened ∧
        reopened.loadAll {} = (handWrittenStore.run mixedWrites).loadAll {} := by
  have hexpressible : ∀ rule ∈ handWritten, rule.Expressible := by
    intro rule hrule
    rcases List.mem_cons.mp hrule with rfl | hrule
    · exact ⟨by simp, by decide, by simp, by simp⟩
    · obtain rfl := List.mem_singleton.mp hrule
      exact ⟨by simp, by decide, by simpa using Timestamp.valid_leapSecond.readsBack, by simp⟩
  have hopen : ofDisk handWrittenDisk = .ok handWrittenStore := by
    have hrules := rulesOfFile_renderPretty hexpressible
    rw [ofDisk, handWrittenDisk, Disk.content?]
    simp only [Bool.false_eq_true, if_false, hrules]
    rfl
  have hwrites : ∀ write ∈ mixedWrites, write.Allowed := by
    simp only [mixedWrites, List.forall_mem_cons]
    refine ⟨⟨?_, ⟨by simp, by decide, by simp, by simp⟩⟩, ⟨?_, ⟨by simp, by decide, by simp, by simp⟩⟩,
      ⟨?_, ⟨by simp, by decide, by simp, by simp⟩⟩, ?_, by simp⟩
    · rintro _ ⟨⟩
      exact show 2 < 5 by decide
    all_goals exact fun _ hcut => by cases hcut
  exact ⟨hopen, hwrites, reopens_after hopen mixedWrites hwrites⟩

end Store

end StubServer
