import StubServer.CommandLine
import StubServer.Engine.Basic
import StubServer.Files
import StubServer.Settings.Read

/-!
# Starting the server

The server is started from its arguments and the files that it finds: the settings are put together
and checked, the store is opened, the engine is started, and the rules for the start are created.

## Main definitions

* `Launch.settings`: the settings of a server.
* `Launch.openStore`: the store that settings ask for.
* `Launch.run`: starts a server.
* `Launch.Failure`: why a server could not be started.
-/

namespace StubServer

/-- A server that listens. -/
structure Server where
  settings : Settings
  address : SocketAddress
  engine : Engine

namespace Launch

/-- Why a server could not be started. -/
inductive Failure where
  /-- The file with settings could not be used. -/
  | config (path : String) (cause : Settings.Error)
  /-- The settings are wrong. -/
  | settings (problem : Settings.Problem)
  /-- The store could not be opened. -/
  | store (cause : StoreError)
  /-- An operation of the engine failed. -/
  | engine (cause : EngineError)
  /-- The file with the rules for the start could not be read. -/
  | seedUnreadable (path : String)
  /-- The file with the rules for the start does not hold rules. -/
  | seedMalformed (path : String) (cause : Json.Error)
  deriving DecidableEq

/-- The wording of a failure. -/
def Failure.message : Failure → String
  | config path _ => "Failed to load config from " ++ path
  | settings problem => problem.message
  | store cause => cause.message
  | engine cause => cause.message
  | seedUnreadable path => "Failed to read seed file " ++ path
  | seedMalformed path _ => "Seed file " ++ path ++ " is not a JSON array of stubs"

/-- The settings in the file with settings, or the default ones if there is none. -/
def fileSettings (files : Files) (arguments : Arguments) : Except Failure Settings :=
  match arguments.config with
  | none => .ok {}
  | some path => (Settings.ofFile files.exists? (files.read? path)).mapError (.config path)

/-- The settings of a server: those in the file with settings, which are checked, with what the
arguments ask for in their place, and then checked again. -/
def settings (files : Files) (arguments : Arguments) : Except Failure Settings :=
  match fileSettings files arguments with
  | .error failure => .error failure
  | .ok base =>
    match (arguments.override base).validate files.exists? with
    | .ok _ => .ok (arguments.override base)
    | .error problem => .error (.settings problem)

/-- The store that settings ask for. -/
def openStore (files : Files) (storage : Settings.Storage) : Except StoreError Store :=
  match storage.backend with
  | .memory => .ok {}
  | .file =>
    match files.disk storage.path with
    | .ok disk => Store.ofDisk disk
    | .error reason => .error (.io reason)

/-- The rules to create at the start. -/
def seedRules (files : Files) (path : String) : Except Failure (List Rule) :=
  match files.read? path with
  | none => .error (.seedUnreadable path)
  | some text => (Rule.listOfText text).mapError (.seedMalformed path)

/-- Creates the rules for the start. -/
def plantSeed (env : Surroundings) (files : Files) (seed : Option String) (engine : Engine) :
    Except Failure Unit × Engine :=
  match seed with
  | none => (.ok (), engine)
  | some path =>
    match seedRules files path with
    | .error failure => (.error failure, engine)
    | .ok rules =>
      let done := engine.createBatch env rules
      ((done.1.mapError .engine).map fun _ => (), done.2)

/-- The files after an engine has used them. -/
def filesAfter (files : Files) (storage : Settings.Storage) (engine : Engine) : Files :=
  match engine.store.disk with
  | some disk => files.afterStore storage.path disk
  | none => files

/-- Starts the engine of a server, creates the rules for the start, and finds the address to listen
on. -/
def start (env : Surroundings) (files : Files) (settings : Settings) (store : Store) :
    Except Failure Server × Files :=
  let index : Index := { cache := { limit := settings.maxPatterns } }
  let started := Engine.start env { store, index }
  let after (engine : Engine) : Files := filesAfter files settings.storage engine
  match started.1 with
  | .error cause => (.error (.engine cause), after started.2)
  | .ok _ =>
    let planted := plantSeed env files settings.seed started.2
    let outcome : Except Failure Server :=
      match planted.1 with
      | .error failure => .error failure
      | .ok _ =>
        match settings.address? with
        | .ok address => .ok { settings, address, engine := planted.2 }
        | .error problem => .error (.settings problem)
    (outcome, after planted.2)

/-- Starts a server from its arguments. Gives the server, or why there is none, and the files as they
are then. -/
def run (env : Surroundings) (files : Files) (arguments : Arguments) :
    Except Failure Server × Files :=
  match settings files arguments with
  | .error failure => (.error failure, files)
  | .ok settings =>
    match openStore files settings.storage with
    | .error cause => (.error (.store cause), files)
    | .ok store => start env files settings store

end Launch

end StubServer
