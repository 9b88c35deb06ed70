/-!
# Replacing a file

A file is never written in place: the new text goes into another file beside it, which takes the
place of the old one only when it is complete. Wherever this is cut off, the file holds the old text
or the new one.

## Main definitions

* `Disk`: the file and the one beside it.
* `Disk.Step`: one step of replacing the file; `Disk.steps` are the steps in their order.
* `Disk.replace`: replaces the file, or as much of it as a cut allows.
-/

namespace StubServer

/-- A file and the one beside it. -/
structure Disk where
  /-- The text of the file, if it exists. -/
  target : Option String := none
  /-- The text of the file beside it, if that exists. -/
  draft : Option String := none
  /-- Whether the directory of the files is out of reach. -/
  blocked : Bool := false
  deriving DecidableEq, Inhabited

namespace Disk

/-- One step of replacing the file. -/
inductive Step where
  /-- Makes the directories that are missing. -/
  | makeDirectories
  /-- Makes the file beside it, empty. -/
  | createDraft
  /-- Writes a text into the file beside it. -/
  | writeDraft (text : String)
  /-- Makes sure that everything was written. -/
  | sync
  /-- Puts the file beside it in its place, all at once. -/
  | rename
  deriving DecidableEq

/-- What a step does. -/
def Step.run : Step → Disk → Disk
  | makeDirectories, disk | sync, disk => disk
  | createDraft, disk => { disk with draft := some "" }
  | writeDraft text, disk => { disk with draft := some text }
  | rename, disk => { disk with target := disk.draft, draft := none }

/-- The steps of replacing the file by one with the given text. -/
def steps (text : String) : List Step :=
  [.makeDirectories, .createDraft, .writeDraft text, .sync, .rename]

/-- Where replacing the file is cut off: after some steps, and if the next one is writing, after
some characters. -/
structure Cut where
  completed : Nat
  written : Nat := 0
  deriving DecidableEq

/-- What is done of a step that is cut off. -/
def Step.partially (written : Nat) : Step → Option Step
  | writeDraft text => some (writeDraft (.ofList (text.toList.take written)))
  | _ => none

/-- The steps that are done before a cut, the last one perhaps in part. -/
def Cut.done (cut : Cut) (text : String) : List Step :=
  (steps text).take cut.completed ++
    ((steps text)[cut.completed]?.bind (Step.partially cut.written)).toList

/-- The files after some steps. -/
def run (steps : List Step) (disk : Disk) : Disk :=
  steps.foldl (fun disk step => step.run disk) disk

/-- The text of the file, if it exists within reach. -/
def content? (disk : Disk) : Option String :=
  if disk.blocked then none else disk.target

/-- Replaces the file by one with the given text. In case of a failure, its reason is given together
with what became of the files. -/
def replace (cut : Option Cut) (text : String) (disk : Disk) : Option String × Disk :=
  if disk.blocked then (some "File exists (os error 17)", disk)
  else
    match cut with
    | some cut => (some "Input/output error (os error 5)", disk.run (cut.done text))
    | none => (none, disk.run (steps text))

end Disk

end StubServer
