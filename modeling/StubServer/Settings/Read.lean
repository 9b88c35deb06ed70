import StubServer.Settings.Basic
import StubServer.Text.Hex
import StubServer.Yaml.Node

/-!
# Reading settings

The file with settings is a YAML document: a mapping with a section for each group of settings. What
is not in the file has its default; what is not known there is ignored. A setting must not be given
twice.

## Main definitions

* `Settings.ofNode?`: the settings in a document.
* `Settings.ofFile`: the settings in a file, checked.
-/

namespace StubServer.Settings

open Yaml (Node Style)

/-! ### Sections -/

/-- The text of a scalar, however it is written. -/
def scalarText? (document node : Node) : Option String :=
  match document.resolve node with
  | some (.scalar _ _ text) => some text
  | _ => none

/-- The entries of a section, whose keys must be scalars. Where nothing is written for it, a section
is empty. -/
def section? (document node : Node) : Option (List (String × Node)) :=
  match document.resolve node with
  | some (.mapping entries) =>
    entries.mapM fun (key, value) => (scalarText? document key).map fun name => (name, value)
  | some (.scalar _ .plain "") => some []
  | _ => none

/-- Reads the entry of a section with a name, and gives the default if there is none. There must not
be two. -/
def setting? {α : Type} (entries : List (String × Node)) (name : String) (default : α)
    (read : Node → Option α) : Option α :=
  match entries.filter fun entry => entry.1 == name with
  | [] => some default
  | [(_, node)] => read node
  | _ => none

/-! ### Values -/

/-- The text of a scalar that is written without quotes, or as a block with the given tag. -/
def bareText? (kind : String) (document node : Node) : Option String :=
  match document.resolve node with
  | some (.scalar _ .plain text) => some text
  | some (.scalar (some tag) .literal text) =>
    if tag = "tag:yaml.org,2002:" ++ kind then some text else none
  | _ => none

/-- The truth value that a word denotes. -/
def bool? : String → Option Bool
  | "true" | "True" | "TRUE" => some true
  | "false" | "False" | "FALSE" => some false
  | _ => none

/-- The number that digits of a base up to 16 denote. -/
def number? (base : Nat) (digits : List Char) : Option Nat :=
  if digits.isEmpty then none
  else digits.foldlM (fun n c => do
    let digit ← hexDigit? c
    if digit < base then some (n * base + digit) else none) 0

/-- Reads a number that is written in base 16, 8 or 2 behind a mark, or in base 10, and then without
leading zeros. A plus sign may stand before it. -/
def natural? (text : String) : Option Nat :=
  let unsigned := match text.toList with
    | '+' :: rest => rest
    | chars => chars
  match unsigned with
  | ['0'] => some 0
  | '0' :: 'x' :: digits => number? 16 digits
  | '0' :: 'o' :: digits => number? 8 digits
  | '0' :: 'b' :: digits => number? 2 digits
  | '0' :: _ => none
  | digits => number? 10 digits

/-- Reads a number up to a limit. -/
def numberUpTo? (limit : Nat) (document node : Node) : Option Nat := do
  let n ← natural? (← bareText? "int" document node)
  if n ≤ limit then some n else none

/-- Whether a word stands for a value that is not there. -/
def isNullWord (text : String) : Bool :=
  text == "null" || text == "Null" || text == "NULL" || text == "~"

/-- The tag of values that are not there. -/
def nullTag : String := "tag:yaml.org,2002:null"

/-- Reads a value that may be left out: where nothing or a word for that is written without quotes,
unless a tag says otherwise. -/
def optional? {α : Type} (document node : Node) (read : Node → Option α) : Option (Option α) :=
  match document.resolve node with
  | some (.scalar none .plain text) =>
    if text.isEmpty || isNullWord text then some none else (read node).map some
  | some (.scalar (some tag) .plain text) =>
    if tag = nullTag then (if isNullWord text then some none else none)
    else (read node).map some
  | some _ => (read node).map some
  | none => none

/-- The place to keep rules with a name. -/
def backendNamed? : String → Option Backend
  | "memory" => some .memory
  | "file" => some .file
  | _ => none

/-- Reads a place to keep rules: its name as a scalar, or as the own tag of a value that is not
there. -/
def backend? (document node : Node) : Option Backend :=
  match document.resolve node with
  | some (.scalar tag style text) =>
    match tag.map String.toList with
    | some ('!' :: name) =>
      if style = .plain ∧ (text = "" ∨ isNullWord text) then backendNamed? (.ofList name) else none
    | _ => backendNamed? text
  | _ => none

/-! ### Settings -/

/-- Reads where the server listens. -/
def listen? (document node : Node) : Option Listen := do
  let entries ← section? document node
  let host ← setting? entries "host" ({} : Listen).host (scalarText? document)
  let port ← setting? entries "port" ({} : Listen).port fun node =>
    (numberUpTo? 65535 document node).map (·.toUInt16)
  return { host, port }

/-- Reads how rules are kept. -/
def storage? (document node : Node) : Option Storage := do
  let entries ← section? document node
  let backend ← setting? entries "backend" ({} : Storage).backend (backend? document)
  let path ← setting? entries "path" ({} : Storage).path (scalarText? document)
  return { backend, path }

/-- Reads how many compiled patterns are kept. -/
def maxPatterns? (document node : Node) : Option (Option Nat) := do
  setting? (← section? document node) "max_entries" none fun node =>
    optional? document node (numberUpTo? 18446744073709551615 document)

/-- Reads what is logged. -/
def logging? (document node : Node) : Option Logging := do
  let entries ← section? document node
  let level ← setting? entries "level" ({} : Logging).level (scalarText? document)
  let json ← setting? entries "json" ({} : Logging).json fun node => do
    bool? (← bareText? "bool" document node)
  return { level, json }

/-- The settings in a document. -/
def ofNode? (document : Node) : Option Settings := do
  let entries ← section? document document
  let listen ← setting? entries "listen" {} (listen? document)
  let storage ← setting? entries "storage" {} (storage? document)
  let maxPatterns ← setting? entries "regex_cache" none (maxPatterns? document)
  let logging ← setting? entries "logging" {} (logging? document)
  let seed ← setting? entries "seed" none fun node =>
    optional? document node (scalarText? document)
  return { listen, storage, maxPatterns, logging, seed }

/-! ### Files -/

/-- Why a file gives no settings. -/
inductive Error where
  /-- There is no such file. -/
  | noFile
  /-- It is not a YAML document with settings. -/
  | malformed
  /-- The settings are wrong. -/
  | invalid (problem : Problem)
  deriving DecidableEq

/-- The settings that a YAML text holds. A text without a document holds the default ones. -/
def parse? (text : String) : Option Settings := do
  match ← Node.ofText? text with
  | some document => ofNode? document
  | none => some {}

/-- The settings in the text of a file. A blank one holds the default settings. -/
def ofFileText? (text : String) : Option Settings :=
  if isBlankText text then some {} else parse? text

/-- The settings in a file, of which the text is given if it exists, after checking them. -/
def ofFile (fileExists : String → Bool) : Option String → Except Error Settings
  | none => .error .noFile
  | some text =>
    match ofFileText? text with
    | none => .error .malformed
    | some settings =>
      match settings.validate fileExists with
      | .ok _ => .ok settings
      | .error problem => .error (.invalid problem)

end StubServer.Settings
