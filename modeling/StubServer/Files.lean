import StubServer.Store.Disk
import StubServer.Text.Split

/-!
# Files

The files that a server finds in the directory that it runs in.

## Main definitions

* `Location`: where a file is; `Location.draft` is where it is written before it takes its place.
* `Files`: the files below a directory, by their paths.
* `Files.locate`: what a path leads to; `Files.exists?` is whether it leads to anything.
* `Files.read?`, `Files.write`: the text of a file, and the files with another one.
* `Files.disk`: a file as a store uses it.
-/

namespace StubServer

/-- Where a file is: the names on the way to its directory, and its name there. -/
structure Location where
  directory : List String
  name : String
  deriving DecidableEq

namespace Location

/-- The location of the file at a path. -/
def ofPath (path : String) : Location :=
  let names := path.splitOn "/"
  { directory := names.dropLast, name := names.getLastD "" }

/-- The names on the way to the file. -/
def path (location : Location) : List String :=
  location.directory ++ [location.name]

/-- A name before its last dot. A dot at the beginning does not count. -/
def stem (name : List Char) : List Char :=
  match name.reverse.dropWhile (· != '.') with
  | _ :: c :: before => (c :: before).reverse
  | _ => name

/-- The name of the file that is written beside a file. -/
def draftName (name : String) : String :=
  .ofList (stem name.toList ++ ".json.tmp".toList)

/-- The names on the way to the file beside the file. -/
def draft (location : Location) : List String :=
  location.directory ++ [draftName location.name]

end Location

/-- The files below a directory. -/
structure Files where
  /-- The files, each with the names on its path. -/
  entries : List (List String × String) := []
  deriving DecidableEq

/-- What a path leads to. -/
inductive Place where
  /-- There is nothing, but there may be. -/
  | missing (path : List String)
  | directory
  | file (path : List String) (text : String)
  /-- The path goes on after a file, so there can be nothing. -/
  | beyondFile
  deriving DecidableEq

namespace Files

/-- The text of the file with the given names on its path. -/
def text? (files : Files) (path : List String) : Option String :=
  files.entries.lookup path

/-- Whether a path leads to a directory: to the one of the files, to one above it, or to one that
holds a file. -/
def hasDirectory (files : Files) (path : List String) : Bool :=
  path.all (fun name => name == ".." || name == "/") ||
    files.entries.any fun file => path.isPrefixOf file.1 && path != file.1

/-- The directory above a directory. -/
def above (path : List String) : List String :=
  match path.getLast? with
  | none | some ".." => path ++ [".."]
  | some "/" => path
  | some _ => path.dropLast

/-- Follows names from a directory on. -/
def follow (files : Files) : (here names : List String) → Place
  | _, [] => .directory
  | here, name :: rest =>
    if name = "" ∨ name = "." then follow files here rest
    else if name = ".." then follow files (above here) rest
    else
      let path := here ++ [name]
      match files.text? path with
      | some text => if rest.isEmpty then .file path text else .beyondFile
      | none =>
        if files.hasDirectory path then follow files path rest
        else .missing (path ++ rest.filter fun name => name != "" && name != ".")

/-- What a path leads to. The empty path leads nowhere. -/
def locate (files : Files) (path : String) : Place :=
  let names := (pieces '/' path.toList).map String.ofList
  if path = "" then .missing []
  else files.follow (if path.startsWith "/" then ["/"] else []) names

/-- Whether a path leads to a file or a directory. -/
def exists? (files : Files) (path : String) : Bool :=
  match files.locate path with
  | .directory | .file .. => true
  | .missing _ | .beyondFile => false

/-- The text of the file that a path leads to. -/
def read? (files : Files) (path : String) : Option String :=
  match files.locate path with
  | .file _ text => some text
  | _ => none

/-- The files with one that has the given text. -/
def write (path : List String) (text : String) (files : Files) : Files :=
  { entries := (path, text) :: files.entries.filter fun file => file.1 != path }

/-- The files with one at a path, if there can be one. -/
def add (files : Files) (path text : String) : Files :=
  match files.locate path with
  | .missing names | .file names _ => files.write names text
  | .directory | .beyondFile => files

/-- The files of a directory, from their paths and texts. -/
def ofList (files : List (String × String)) : Files :=
  files.foldl (fun files file => files.add file.1 file.2) {}

/-- The file at a path as a store uses it, or why it cannot. Where there can be no file nothing can be
written. -/
def disk (files : Files) (path : String) : Except String Disk :=
  match files.locate path with
  | .missing _ => .ok {}
  | .file _ text => .ok { target := some text }
  | .beyondFile => .ok { blocked := true }
  | .directory => .error "Is a directory (os error 21)"

/-- The files after a store has used the one at a path. -/
def afterStore (files : Files) (path : String) (disk : Disk) : Files :=
  match disk.target with
  | some text => files.add path text
  | none => files

end Files

end StubServer
