import StubServer.Address
import StubServer.Json.Basic
import StubServer.Text.Blank

/-!
# Settings

What an administrator can choose before the server starts. Everything has a default.

## Main definitions

* `Settings`: the settings, with their defaults.
* `Settings.validate`: the first thing that is wrong with settings, if anything is.
* `Settings.address?`: the address to listen on.
* `Settings.toJson`: the settings as a JSON value.
-/

namespace StubServer

namespace Settings

/-- Where the server listens. -/
structure Listen where
  host : String := "0.0.0.0"
  port : UInt16 := 8080
  deriving DecidableEq

/-- Where rules are kept. -/
inductive Backend where
  /-- In memory only. -/
  | memory
  /-- In a file as well. -/
  | file
  deriving DecidableEq

/-- The name of a place to keep rules. -/
def Backend.name : Backend → String
  | memory => "memory"
  | file => "file"

/-- How rules are kept. -/
structure Storage where
  backend : Backend := .memory
  /-- The file to keep them in. -/
  path : String := "./mockline-stubs.json"
  deriving DecidableEq

/-- What is logged, and how. -/
structure Logging where
  /-- The directive that says which messages are logged. -/
  level : String := "info"
  /-- Whether each message is a JSON value. -/
  json : Bool := false
  deriving DecidableEq

end Settings

/-- The settings of a server. -/
structure Settings where
  listen : Settings.Listen := {}
  storage : Settings.Storage := {}
  /-- How many compiled patterns are kept, if there is a limit. -/
  maxPatterns : Option Nat := none
  logging : Settings.Logging := {}
  /-- The file with rules to create at the start. -/
  seed : Option String := none
  deriving DecidableEq

namespace Settings

/-! ### Validation -/

/-- What is wrong with settings. -/
inductive Problem where
  /-- There is no host. -/
  | noHost
  /-- Rules are to be kept in a file, but no file is named. -/
  | noStoragePath
  /-- No compiled pattern may be kept. -/
  | noPatterns
  /-- There is no file with rules to create at the start. -/
  | missingSeed (path : String)
  /-- The server cannot listen on the host. -/
  | invalidAddress (address : String)
  deriving DecidableEq

/-- The wording of a problem. -/
def Problem.message : Problem → String
  | noHost => "listen.host must not be empty"
  | noStoragePath => "storage.path is required when storage.backend is 'file'"
  | noPatterns =>
    "regex_cache.max_entries must be greater than zero; omit it for an unbounded cache"
  | missingSeed path => "Seed file '" ++ path ++ "' does not exist"
  | invalidAddress address =>
    "Invalid listen address '" ++ address ++ "': invalid socket address syntax"

/-- Checks settings, where `fileExists` says which paths lead to a file or directory. -/
def validate (fileExists : String → Bool) (settings : Settings) : Except Problem Unit :=
  if isBlankText settings.listen.host then .error .noHost
  else if settings.storage.backend = .file ∧ settings.storage.path = "" then .error .noStoragePath
  else if settings.maxPatterns = some 0 then .error .noPatterns
  else
    match settings.seed with
    | some path => if fileExists path then .ok () else .error (.missingSeed path)
    | none => .ok ()

/-! ### The address -/

/-- The text of the address to listen on. -/
def addressText (settings : Settings) : String :=
  settings.listen.host ++ ":" ++ .ofList (Nat.toDigits 10 settings.listen.port.toNat)

/-- The address to listen on. -/
def address? (settings : Settings) : Except Problem SocketAddress :=
  match SocketAddress.ofText? settings.addressText with
  | some address => .ok address
  | none => .error (.invalidAddress settings.addressText)

/-! ### Writing -/

/-- The settings as a JSON value, without those that were not chosen and have no default. -/
def toJson (settings : Settings) : Json :=
  .object ([
    ("listen", .object [
      ("host", .string settings.listen.host), ("port", .ofInt settings.listen.port.toNat)]),
    ("storage", .object [
      ("backend", .string settings.storage.backend.name), ("path", .string settings.storage.path)]),
    ("regex_cache", .object
      (settings.maxPatterns.map fun (n : Nat) => ("max_entries", Json.ofInt n)).toList),
    ("logging", .object [
      ("level", .string settings.logging.level), ("json", .bool settings.logging.json)])] ++
    (settings.seed.map fun path => ("seed", Json.string path)).toList)

end Settings

end StubServer
