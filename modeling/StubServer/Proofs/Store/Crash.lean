import StubServer.Files
import StubServer.Proofs.Dictionary
import StubServer.Proofs.Store.WriteThrough

/-!
# Crashes

The writes of a store are steps on the files of a directory, and the process may stop between any two of them, or
while a text is being written. The file of the store is then the one before the write or the one after it, and is
opened with the rules before the write or after it.

The files are told apart by their names here. The file that is written beside a file never has the name of this
file (`Location.draft_ne_path`), so that a file and the one beside it are indeed two, and what the steps do to
the named files is what they do to the two (`Files.diskAt_run`).

## Main statements

* `Location.draft_ne_path`: a file is not written in its own place.
* `Disk.CutOff.rename_notMem_or_eq`: replacing a file is done either without the renaming or to its end.
* `Store.Write.steps_cases`: the steps of a write that fails and of one that succeeds.
* `Store.reopens_after_crash`: how a store is opened after a crash.
-/

namespace StubServer

/-! ### The name of the file beside a file -/

namespace Location

/-- The file beside a file has another name. -/
theorem draftName_ne (name : String) : draftName name ≠ name := by
  intro h
  have hname : stem name.toList ++ ".json.tmp".toList = name.toList := by
    rw [← String.toList_ofList (l := stem name.toList ++ _), ← draftName, h]
  -- The last dot of such a name is the one of `.tmp`, and so its stem would still end in `.json`.
  have hstem : stem name.toList = stem name.toList ++ ".json".toList := by
    conv_lhs => rw [← hname, stem]
    simp
  simpa using congrArg List.length hstem

/-- **A file is not written in its own place.** -/
theorem draft_ne_path (location : Location) : location.draft ≠ location.path := fun h =>
  draftName_ne location.name (List.singleton_inj.mp (List.append_cancel_left h))

end Location

/-! ### Steps that can be done -/

namespace Disk

variable {before steps done others : List Step} {step : Step} {cut : Option Cut} {disk : Disk} {text piece : String}

/-- The steps can be done one after the other: whenever the file beside the file is put in its place, it is
there. -/
def Possible : List Step → Disk → Prop
  | [], _ => True
  | step :: rest, disk => (step = .rename → disk.draft ≠ none) ∧ Possible rest (step.run disk)

/-- Steps after others are possible if they are after what the others did. -/
theorem possible_append : Possible (steps ++ others) disk ↔ Possible steps disk ∧ Possible others (disk.run steps) := by
  induction steps generalizing disk with
  | nil => exact (iff_of_eq (true_and _)).symm
  | cons step steps ih => exact (and_congr_right fun _ => ih).trans and_assoc.symm

/-- Steps without a renaming are possible. -/
theorem possible_of_rename_notMem (h : Step.rename ∉ steps) (disk : Disk) : Possible steps disk := by
  induction steps generalizing disk with
  | nil => trivial
  | cons step steps ih =>
      obtain ⟨hstep, hsteps⟩ := not_or.mp (List.mem_cons.not.mp h)
      exact ⟨fun heq => absurd heq.symm hstep, ih hsteps _⟩

/-- The steps of replacing a file are possible. -/
theorem possible_steps (text : String) (disk : Disk) : Possible (Disk.steps text) disk := by
  simp [Disk.steps, Possible, Step.run]

/-- The steps of replacing a file that are done, for all that goes wrong with it. -/
def performed (cut : Option Cut) (text : String) (disk : Disk) : List Step :=
  if disk.blocked then []
  else
    match cut with
    | some cut => cut.done text
    | none => Disk.steps text

/-- Replacing a file does these steps. -/
theorem replace_snd (cut : Option Cut) (text : String) (disk : Disk) :
    (disk.replace cut text).2 = disk.run (disk.performed cut text) := by
  unfold replace performed
  split
  · rfl
  · cases cut <;> rfl

/-! ### Steps that are cut off -/

/-- What is done of some steps until the process stops. If it does so while a text is being written, it does not
matter what was written of it. -/
inductive CutOff (steps : List Step) : (done : List Step) → Prop
  | stopped {done : List Step} (h : done <+: steps) : CutOff steps done
  | torn {before : List Step} {text : String} (h : before ++ [.writeDraft text] <+: steps) (piece : String) :
      CutOff steps (before ++ [.writeDraft piece])

/-- Steps without a renaming are cut off without one. -/
theorem CutOff.rename_notMem (h : CutOff steps done) (hsteps : Step.rename ∉ steps) : Step.rename ∉ done := by
  cases h with
  | stopped h => exact fun hmem => hsteps (h.subset hmem)
  | torn h piece =>
      intro hmem
      rcases List.mem_append.mp hmem with hmem | hmem
      · exact hsteps (h.subset (List.mem_append_left _ hmem))
      · cases List.mem_singleton.mp hmem

/-- **Replacing a file** is cut off before the renaming, or not at all. -/
theorem CutOff.rename_notMem_or_eq (h : CutOff (Disk.steps text) done) :
    Step.rename ∉ done ∨ done = Disk.steps text := by
  have hsteps : Disk.steps text = [.makeDirectories, .createDraft, .writeDraft text, .sync] ++ [.rename] := rfl
  have hbefore : Step.rename ∉ [.makeDirectories, .createDraft, .writeDraft text, .sync] := by simp
  rw [hsteps] at h ⊢
  cases h with
  | stopped h =>
      rcases List.prefix_concat_iff.mp h with heq | h
      · exact .inr heq
      · exact .inl (CutOff.stopped h |>.rename_notMem hbefore)
  | torn h piece =>
      rcases List.prefix_concat_iff.mp h with heq | h
      · cases List.singleton_inj.mp (List.append_inj' heq rfl).2
      · exact .inl ((CutOff.torn h piece).rename_notMem hbefore)

end Disk

/-! ### Steps on named files -/

namespace Files

variable {location : Location} {blocked : Bool} {files : Files} {path other : List String} {text : String}
  {steps : List Disk.Step}

/-- The files without the one with the given names on its path. -/
def erase (path : List String) (files : Files) : Files :=
  { entries := files.entries.filter fun file => file.1 != path }

/-- What a step of replacing a file does to the files. A file that is not there is not renamed. -/
def step (location : Location) : Disk.Step → Files → Files
  | .makeDirectories, files | .sync, files => files
  | .createDraft, files => files.write location.draft ""
  | .writeDraft text, files => files.write location.draft text
  | .rename, files =>
    match files.text? location.draft with
    | some text => (files.erase location.draft).write location.path text
    | none => files

/-- The files after some steps of replacing a file. -/
def run (location : Location) (steps : List Disk.Step) (files : Files) : Files :=
  steps.foldl (fun files step => files.step location step) files

/-- A file and the one beside it, among the files. -/
def diskAt (location : Location) (blocked : Bool) (files : Files) : Disk :=
  { target := files.text? location.path, draft := files.text? location.draft, blocked }

/-- An erased file has no text, and other files keep theirs. -/
theorem text?_erase (path other : List String) (files : Files) :
    (files.erase path).text? other = if other = path then none else files.text? other :=
  lookup_filter_ne path other files.entries

/-- A written file has the text that was written, and other files keep theirs. -/
theorem text?_write (path other : List String) (text : String) (files : Files) :
    (files.write path text).text? other = if other = path then some text else files.text? other := by
  by_cases h : other = path
  · simp [write, text?, h]
  · have hne : (other == path) = false := by simpa using h
    have herase := text?_erase path other files
    rw [if_neg h] at herase ⊢
    simpa [write, erase, text?, List.lookup_cons, hne] using herase

/-- A step touches the file and the one beside it only. -/
theorem text?_step_of_ne (hpath : other ≠ location.path) (hdraft : other ≠ location.draft) (step : Disk.Step)
    (files : Files) : (files.step location step).text? other = files.text? other := by
  cases step with
  | makeDirectories | sync => rfl
  | createDraft | writeDraft text => rw [Files.step, text?_write, if_neg hdraft]
  | rename =>
      rw [Files.step]
      split
      · rw [text?_write, if_neg hpath, text?_erase, if_neg hdraft]
      · rfl

/-- **Replacing a file** touches the file and the one beside it only. -/
theorem text?_run_of_ne (hpath : other ≠ location.path) (hdraft : other ≠ location.draft) (steps : List Disk.Step)
    (files : Files) : (files.run location steps).text? other = files.text? other := by
  induction steps generalizing files with
  | nil => rfl
  | cons step steps ih => exact (ih _).trans (text?_step_of_ne hpath hdraft step files)

/-- A step does to the file and the one beside it what it does to the two by themselves. -/
theorem diskAt_step {step : Disk.Step} (h : step = .rename → (files.diskAt location blocked).draft ≠ none) :
    (files.step location step).diskAt location blocked = step.run (files.diskAt location blocked) := by
  have hne := location.draft_ne_path
  cases step with
  | makeDirectories | sync => rfl
  | createDraft | writeDraft text => simp [Files.step, Disk.Step.run, diskAt, text?_write, hne.symm]
  | rename =>
      obtain ⟨text, htext⟩ := Option.ne_none_iff_exists'.mp (h rfl)
      have hdraft : files.text? location.draft = some text := htext
      simp [Files.step, Disk.Step.run, diskAt, text?_write, text?_erase, hdraft, hne]

/-- **Steps that are possible** do to the file and the one beside it what they do to the two by themselves. -/
theorem diskAt_run (h : Disk.Possible steps (files.diskAt location blocked)) :
    (files.run location steps).diskAt location blocked = (files.diskAt location blocked).run steps := by
  induction steps generalizing files with
  | nil => rfl
  | cons step steps ih =>
      obtain ⟨hstep, hsteps⟩ := h
      rw [← diskAt_step hstep] at hsteps
      exact (ih hsteps).trans (congrArg (Disk.run steps) (diskAt_step hstep))

end Files

/-! ### The steps of writes -/

namespace Store

variable {condition : Condition} {store : Store} {disk : Disk} {write : Write} {writes : List Write}
  {done : List Disk.Step}

/-- The steps by which a changed table is taken over. -/
def committing (condition : Condition) (table : Table) (store : Store) : List Disk.Step :=
  match store.disk with
  | some disk => disk.performed condition.cut (fileText table)
  | none => []

/-- The steps of a write. -/
def Write.steps : Write → Store → List Disk.Step
  | save condition rule, store =>
    match condition.noWrites, store.table.save rule with
    | none, .ok (_, table) => store.committing condition table
    | _, _ => []
  | delete condition id, store =>
    match condition.noWrites with
    | none => store.committing condition (store.table.delete id).2
    | some _ => []

/-- The steps of some writes. -/
def steps : List Write → Store → List Disk.Step
  | [], _ => []
  | write :: writes, store => write.steps store ++ steps writes (write.run store)

/-- A write reports a failure. -/
def Write.Fails : Write → Store → Prop
  | save condition rule, store => ∃ error, (store.save condition rule).1 = .error error
  | delete condition id, store => ∃ error, (store.delete condition id).1 = .error error

/-- Taking over a changed table does its steps. -/
theorem disk_commit {α : Type} (condition : Condition) (result : α) (table : Table) (hdisk : store.disk = some disk) :
    (store.commit condition result table).2.disk = some (disk.run (store.committing condition table)) := by
  rw [committing, hdisk]
  dsimp only
  rw [← Disk.replace_snd, commit, hdisk]
  dsimp only
  split <;> simp_all

/-- **A write does its steps.** -/
theorem Write.disk_run (write : Write) (hdisk : store.disk = some disk) :
    (write.run store).disk = some (disk.run (write.steps store)) := by
  cases write with
  | save condition rule =>
      rw [Write.run, Write.steps, Store.save]
      cases condition.noWrites with
      | some reason => exact hdisk
      | none =>
          cases store.table.save rule with
          | error e => exact hdisk
          | ok saved => exact disk_commit condition saved.1 saved.2 hdisk
  | delete condition id =>
      rw [Write.run, Write.steps, Store.delete]
      cases condition.noWrites with
      | some reason => exact hdisk
      | none => exact disk_commit condition _ _ hdisk

/-- Some writes do their steps. -/
theorem disk_run (writes : List Write) (hdisk : store.disk = some disk) :
    (store.run writes).disk = some (disk.run (store.steps writes)) := by
  induction writes generalizing store disk with
  | nil => exact hdisk
  | cons write writes ih =>
      refine (ih (write.disk_run hdisk)).trans (congrArg some ?_)
      exact List.foldl_append.symm

/-- A changed table is given up without a renaming, or taken over by all steps of replacing a file. -/
theorem committing_cases {α : Type} (hcut : condition.BeforeRename) (result : α) (table : Table)
    (hdisk : store.disk = some disk) :
    ((∃ error, (store.commit condition result table).1 = .error error) ∧
      Disk.Step.rename ∉ store.committing condition table) ∨
    ((¬ ∃ error, (store.commit condition result table).1 = .error error) ∧
      store.committing condition table = Disk.steps (fileText (store.commit condition result table).2.table)) := by
  simp only [commit, committing, hdisk, Disk.replace, Disk.performed]
  cases disk.blocked with
  | true => exact .inl ⟨⟨_, rfl⟩, List.not_mem_nil⟩
  | false =>
      cases hcondition : condition.cut with
      | none => exact .inr ⟨by rintro ⟨_, ⟨⟩⟩, rfl⟩
      | some cut => exact .inl ⟨⟨_, rfl⟩, (hcut cut hcondition).rename_notMem_done _⟩

/-- **The steps of a write.** One that fails does not rename the file beside the file, and one that succeeds does all
steps of replacing the file by one of the changed table. -/
theorem Write.steps_cases (hwrite : write.Allowed) (hdisk : store.disk = some disk) :
    (write.Fails store ∧ Disk.Step.rename ∉ write.steps store) ∨
      (¬ write.Fails store ∧ write.steps store = Disk.steps (fileText (write.run store).table)) := by
  cases write with
  | save condition rule =>
      rw [Write.run, Write.steps, Write.Fails, Store.save]
      cases condition.noWrites with
      | some reason => exact .inl ⟨⟨_, rfl⟩, List.not_mem_nil⟩
      | none =>
          cases store.table.save rule with
          | error e => exact .inl ⟨⟨_, rfl⟩, List.not_mem_nil⟩
          | ok saved => exact committing_cases hwrite.1 saved.1 saved.2 hdisk
  | delete condition id =>
      rw [Write.run, Write.steps, Write.Fails, Store.delete]
      cases condition.noWrites with
      | some reason => exact .inl ⟨⟨_, rfl⟩, List.not_mem_nil⟩
      | none => exact committing_cases hwrite _ _ hdisk

/-- **A write that is cut off** has not renamed the file beside the file yet, or has succeeded with all of its
steps. -/
theorem Write.cutOff_cases (hwrite : write.Allowed) (hdisk : store.disk = some disk)
    (h : Disk.CutOff (write.steps store) done) :
    Disk.Step.rename ∉ done ∨
      (¬ write.Fails store ∧ done = write.steps store ∧
        write.steps store = Disk.steps (fileText (write.run store).table)) := by
  rcases write.steps_cases hwrite hdisk with ⟨-, hsteps⟩ | ⟨hfails, hsteps⟩
  · exact .inl (h.rename_notMem hsteps)
  · rcases (hsteps ▸ h).rename_notMem_or_eq with hdone | hdone
    · exact .inl hdone
    · exact .inr ⟨hfails, hdone.trans hsteps.symm, hsteps⟩

/-- The steps of some writes are possible. -/
theorem possible_steps (hwrites : ∀ write ∈ writes, write.Allowed) (hdisk : store.disk = some disk) (start : Disk) :
    Disk.Possible (store.steps writes) start := by
  induction writes generalizing store disk start with
  | nil => trivial
  | cons write writes ih =>
      obtain ⟨hwrite, hwrites⟩ := List.forall_mem_cons.mp hwrites
      refine Disk.possible_append.mpr ⟨?_, ih hwrites (write.disk_run hdisk) _⟩
      rcases write.steps_cases hwrite hdisk with ⟨-, hsteps⟩ | ⟨-, hsteps⟩
      · exact Disk.possible_of_rename_notMem hsteps start
      · exact hsteps ▸ Disk.possible_steps _ start

/-! ### Opening a store after a crash -/

/-- The file is opened, and with the rules of a store. -/
def Reopens (store : Store) (location : Location) (blocked : Bool) (files : Files) : Prop :=
  ∃ reopened, ofDisk (files.diskAt location blocked) = .ok reopened ∧ reopened.loadAll {} = store.loadAll {}

/-- The writes of an opened store are found in the files. -/
theorem diskAt_run_steps {location : Location} {blocked : Bool} {files : Files}
    (h : ofDisk (files.diskAt location blocked) = .ok store) (hwrites : ∀ write ∈ writes, write.Allowed) :
    (store.run writes).disk = some ((files.run location (store.steps writes)).diskAt location blocked) := by
  have hdisk : store.disk = some (files.diskAt location blocked) := by
    rcases ofDisk_cases h with rfl | ⟨rules, table, -, -, rfl⟩ <;> rfl
  rw [disk_run writes hdisk, Files.diskAt_run (possible_steps hwrites hdisk _)]

/-- **How a store is opened after a crash.** A store is opened with a file, some writes are made, and the process
stops during another one, at whatever point of it. Then the file has the text it had before this write, and is
opened with the rules before the write; or the write succeeds, the file has the complete text after it, and is
opened with the rules after it. If the write fails, the rules after it are those before it. All files other than
this one and the one beside it are left alone. -/
theorem reopens_after_crash {location : Location} {blocked : Bool} {files : Files}
    (h : ofDisk (files.diskAt location blocked) = .ok store) (hwrites : ∀ write ∈ writes, write.Allowed)
    (hwrite : write.Allowed) (hdone : Disk.CutOff (write.steps (store.run writes)) done) :
    let before := store.run writes
    let after := write.run before
    let earlier := files.run location (store.steps writes)
    let crashed := earlier.run location done
    ((crashed.text? location.path = earlier.text? location.path ∧ before.Reopens location blocked crashed) ∨
      (¬ write.Fails before ∧ crashed.text? location.path = some (fileText after.table) ∧
        after.Reopens location blocked crashed)) ∧
    (write.Fails before → after.loadAll {} = before.loadAll {}) ∧
    ∀ other, other ≠ location.path → other ≠ location.draft → crashed.text? other = files.text? other := by
  intro before after earlier crashed
  have hdisk : before.disk = some (earlier.diskAt location blocked) := diskAt_run_steps h hwrites
  have hthrough : before.WrittenThrough := (writtenThrough_of_ofDisk h).run hwrites
  refine ⟨?_, fun hfails => ?_, fun other hpath hdraft => ?_⟩
  · rcases write.cutOff_cases hwrite hdisk hdone with hrename | ⟨hfails, rfl, hsteps⟩
    · -- Without the renaming only the file beside the file is another.
      left
      have hcrashed : crashed.diskAt location blocked = (earlier.diskAt location blocked).run done :=
        Files.diskAt_run (Disk.possible_of_rename_notMem hrename _)
      have hsettled : (crashed.diskAt location blocked).settled = (earlier.diskAt location blocked).settled :=
        hcrashed ▸ Disk.settled_run hrename _
      obtain ⟨current, opened, hcurrent, hopen, hall⟩ := hthrough.reopens
      obtain rfl := Option.some.inj (hdisk.symm.trans hcurrent)
      obtain ⟨reopened, hreopen, htable⟩ := ofDisk_of_settled hopen hsettled
      exact ⟨congrArg Disk.target hsettled, reopened, hreopen,
        congrArg Except.ok ((congrArg Table.all htable).trans hall)⟩
    · right
      have hcrashed : crashed.diskAt location blocked =
          (earlier.diskAt location blocked).run (write.steps before) :=
        Files.diskAt_run (hsteps ▸ Disk.possible_steps _ _)
      obtain ⟨current, reopened, hcurrent, hopen, hall⟩ := (hthrough.write hwrite).reopens
      obtain rfl := Option.some.inj ((write.disk_run hdisk).symm.trans hcurrent)
      refine ⟨hfails, ?_, reopened, hcrashed ▸ hopen, congrArg Except.ok hall⟩
      rw [hsteps] at hcrashed
      exact congrArg Disk.target hcrashed
  · cases write with
    | save condition rule =>
        obtain ⟨error, herror⟩ := hfails
        exact congrArg (fun table => Except.ok table.all) (untouched_of_save hwrite.1 (Prod.ext herror rfl)).table
    | delete condition id =>
        obtain ⟨error, herror⟩ := hfails
        exact congrArg (fun table => Except.ok table.all) (untouched_of_delete hwrite (Prod.ext herror rfl)).table
  · rw [Files.text?_run_of_ne hpath hdraft, Files.text?_run_of_ne hpath hdraft]

/-- Where the file of a store is. -/
def stubsLocation : Location :=
  { directory := ["data"], name := "stubs.json" }

/-- What stands there after a crash while the file was written for the first time, beside another file. -/
def littered : Files :=
  { entries := [(["data", "stubs.json.tmp"], "["), (["data", "notes.txt"], "Some notes")] }

/-- Writes of which the first fails. -/
def unevenWrites : List Write :=
  [.save { cut := some { completed := 2, written := 5 } } { name := "Lost" }, .save {} { name := "Kept" }]

/-- The write during which the process stops again. -/
def tornWrite : Write :=
  .save {} { name := "Torn" }

/-- A crash while the second rule is being written. -/
theorem reopens_after_crash_torn :
    let store : Store := { disk := some (littered.diskAt stubsLocation false) }
    let earlier := littered.run stubsLocation (store.steps unevenWrites)
    let crashed := earlier.run stubsLocation [.makeDirectories, .createDraft, .writeDraft "["]
    ofDisk (littered.diskAt stubsLocation false) = .ok store ∧ (∀ write ∈ unevenWrites, write.Allowed) ∧
      tornWrite.Allowed ∧
      Disk.CutOff (tornWrite.steps (store.run unevenWrites)) [.makeDirectories, .createDraft, .writeDraft "["] ∧
      ((crashed.text? stubsLocation.path = earlier.text? stubsLocation.path ∧
          (store.run unevenWrites).Reopens stubsLocation false crashed) ∨
        (¬ tornWrite.Fails (store.run unevenWrites) ∧
          crashed.text? stubsLocation.path = some (fileText (tornWrite.run (store.run unevenWrites)).table) ∧
          (tornWrite.run (store.run unevenWrites)).Reopens stubsLocation false crashed)) := by
  intro store earlier crashed
  have hopen : ofDisk (littered.diskAt stubsLocation false) = .ok store := rfl
  have hwrites : ∀ write ∈ unevenWrites, write.Allowed := by
    simp only [unevenWrites, List.forall_mem_cons]
    refine ⟨⟨?_, by simp, by decide, by simp, by simp⟩, ⟨?_, by simp, by decide, by simp, by simp⟩, by simp⟩
    · rintro _ ⟨⟩
      exact show 2 < 5 by decide
    · rintro _ ⟨⟩
  have hwrite : tornWrite.Allowed := by
    refine ⟨?_, by simp, by decide, by simp, by simp⟩
    rintro _ ⟨⟩
  have hdone : Disk.CutOff (tornWrite.steps (store.run unevenWrites))
      [.makeDirectories, .createDraft, .writeDraft "["] :=
    @Disk.CutOff.torn _ [.makeDirectories, .createDraft] (fileText (tornWrite.run (store.run unevenWrites)).table)
      ⟨[.sync, .rename], rfl⟩ "["
  exact ⟨hopen, hwrites, hwrite, hdone, (reopens_after_crash hopen hwrites hwrite hdone).1⟩

end Store

end StubServer
