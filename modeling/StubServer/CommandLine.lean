import StubServer.Settings.Basic
import StubServer.Text.Integer
import StubServer.Text.Split

/-!
# The command line

The server is started with options. An option that is not given can be set by a variable of the
environment. What is set this way takes the place of what is in the file with settings.

## Main definitions

* `Arguments`: what can be asked for when the server is started; `Arguments.override` puts it in the
  place of settings.
* `CommandLine.Field`: the options.
* `CommandLine.Invocation`: what a command line asks for; `CommandLine.read` reads it.
-/

namespace StubServer

/-- What can be asked for when the server is started. -/
structure Arguments where
  /-- The file with settings. -/
  config : Option String := none
  port : Option UInt16 := none
  host : Option String := none
  /-- The file to keep rules in. -/
  storagePath : Option String := none
  /-- The file with rules to create at the start. -/
  seed : Option String := none
  logLevel : Option String := none
  /-- Whether each message that is logged is a JSON value. -/
  jsonLogs : Option Bool := none
  deriving DecidableEq

/-- The settings with what was asked for in their place. A file to keep rules in is then used, and
messages that are JSON values are never turned off. -/
def Arguments.override (arguments : Arguments) (settings : Settings) : Settings :=
  { settings with
    listen :=
      { host := arguments.host.getD settings.listen.host
        port := arguments.port.getD settings.listen.port }
    storage :=
      match arguments.storagePath with
      | some path => { backend := .file, path }
      | none => settings.storage
    logging :=
      { level := arguments.logLevel.getD settings.logging.level
        json := arguments.jsonLogs.getD false || settings.logging.json }
    seed := arguments.seed <|> settings.seed }

namespace CommandLine

/-! ### Options -/

/-- The options. -/
inductive Field where
  | config
  | port
  | host
  | storagePath
  | seed
  | logLevel
  | jsonLogs
  deriving DecidableEq

namespace Field

/-- All options. -/
def all : List Field := [config, port, host, storagePath, seed, logLevel, jsonLogs]

/-- The name of an option, after two dashes. -/
def name : Field → String
  | config => "config"
  | port => "port"
  | host => "host"
  | storagePath => "storage-path"
  | seed => "seed"
  | logLevel => "log-level"
  | jsonLogs => "json-logs"

/-- The letter of an option, after one dash. -/
def letter? : Field → Option Char
  | config => some 'c'
  | port => some 'p'
  | _ => none

/-- The variable of the environment that sets an option. -/
def environmentName : Field → String
  | config => "MOCKLINE_CONFIG"
  | port => "MOCKLINE_PORT"
  | host => "MOCKLINE_HOST"
  | storagePath => "MOCKLINE_STORAGE_PATH"
  | seed => "MOCKLINE_SEED"
  | logLevel => "MOCKLINE_LOG_LEVEL"
  | jsonLogs => "MOCKLINE_JSON_LOGS"

/-- Whether an option has a value on the command line. -/
def takesValue (field : Field) : Bool :=
  field != jsonLogs

/-- Whether an option is given. -/
def isGiven (arguments : Arguments) : Field → Bool
  | config => arguments.config.isSome
  | port => arguments.port.isSome
  | host => arguments.host.isSome
  | storagePath => arguments.storagePath.isSome
  | seed => arguments.seed.isSome
  | logLevel => arguments.logLevel.isSome
  | jsonLogs => arguments.jsonLogs.isSome

end Field

/-- What is wrong with a command line. -/
inductive Misuse where
  /-- There is no such option, or there is something that belongs to no option. -/
  | unexpected (argument : String)
  /-- An option has no value. -/
  | noValue (field : Field)
  /-- An option has a value, but takes none. -/
  | unneededValue (field : String) (value : String)
  /-- An option is given twice. -/
  | repeated (field : Field)
  /-- An option has a value that it cannot have. -/
  | invalidValue (field : Field) (value : String)
  deriving DecidableEq

/-- The wording of what is wrong. -/
def Misuse.message : Misuse → String
  | unexpected argument => "unexpected argument '" ++ argument ++ "' found"
  | noValue field => "a value is required for '--" ++ field.name ++ "' but none was supplied"
  | unneededValue field value =>
    "unexpected value '" ++ value ++ "' for '--" ++ field ++ "' found; no more were expected"
  | repeated field => "the argument '--" ++ field.name ++ "' cannot be used multiple times"
  | invalidValue field value => "invalid value '" ++ value ++ "' for '--" ++ field.name ++ "'"

/-- A port, which may have a sign. -/
def port? (value : String) : Option UInt16 :=
  (readInteger? value.toList).bind fun n =>
    if 0 ≤ n ∧ n ≤ 65535 then some n.toNat.toUInt16 else none

/-- A path, which must not be empty. -/
def path? (value : String) : Option String :=
  if value = "" then none else some value

/-- A truth value. -/
def flag? : String → Option Bool
  | "true" => some true
  | "false" => some false
  | _ => none

/-- The arguments with an option set to a value, if it can have it. -/
def assign? (field : Field) (value : String) (arguments : Arguments) : Option Arguments :=
  match field with
  | .config => (path? value).map fun path => { arguments with config := some path }
  | .port => (port? value).map fun port => { arguments with port := some port }
  | .host => some { arguments with host := some value }
  | .storagePath => (path? value).map fun path => { arguments with storagePath := some path }
  | .seed => (path? value).map fun path => { arguments with seed := some path }
  | .logLevel => some { arguments with logLevel := some value }
  | .jsonLogs => (flag? value).map fun b => { arguments with jsonLogs := some b }

/-- The arguments with an option that was not given before. -/
def give (field : Field) (value : String) (arguments : Arguments) : Except Misuse Arguments :=
  if field.isGiven arguments then .error (.repeated field)
  else
    match assign? field value arguments with
    | some arguments => .ok arguments
    | none => .error (.invalidValue field value)

/-! ### Reading -/

/-- What a command line asks for. -/
inductive Invocation where
  /-- To start the server. -/
  | run (arguments : Arguments)
  /-- To tell how the server is started. -/
  | help
  /-- To tell the version. -/
  | version
  /-- Nothing that can be understood. -/
  | misuse (cause : Misuse)
  deriving DecidableEq

/-- What comes of one argument: the end, or what is given so far and the option that waits for its
value. -/
abbrev Progress := Except Invocation (Arguments × Option Field)

/-- What comes of giving an option. -/
def progress : Except Misuse Arguments → Progress
  | .ok arguments => .ok (arguments, none)
  | .error cause => .error (.misuse cause)

/-- Reads an option by its name, with a value if one is attached by an equals sign. -/
def readNamed (name : String) (value : Option String) (arguments : Arguments) : Progress :=
  match Field.all.find? fun field => field.name == name with
  | some field =>
    match value with
    | some value =>
      if field.takesValue then progress (give field value arguments)
      else .error (.misuse (.unneededValue name value))
    | none =>
      if field.takesValue then .ok (arguments, some field)
      else progress (give field "true" arguments)
  | none =>
    match value with
    | some value =>
      .error (.misuse
        (if name = "help" ∨ name = "version" then .unneededValue name value
          else .unexpected ("--" ++ name)))
    | none =>
      .error (if name = "help" then .help else if name = "version" then .version
        else .misuse (.unexpected ("--" ++ name)))

/-- Reads an option by its letter. What follows the letter is the value, perhaps after an equals
sign. -/
def readLetters (letters : List Char) (arguments : Arguments) : Progress :=
  match letters with
  | [] => .ok (arguments, none)
  | letter :: rest =>
    match Field.all.find? fun field => field.letter? == some letter with
    | some field =>
      match rest with
      | [] => .ok (arguments, some field)
      | '=' :: value | value => progress (give field (.ofList value) arguments)
    | none =>
      .error (if letter = 'h' then .help else if letter = 'V' then .version
        else .misuse (.unexpected (.ofList ['-', letter])))

/-- Reads an argument that is not the value of the option before it. -/
def readArgument (argument : String) (arguments : Arguments) : Progress :=
  match argument.toList with
  | '-' :: '-' :: rest =>
    let (name, value) := cut '=' rest
    readNamed (.ofList name) (value.map .ofList) arguments
  | '-' :: letter :: rest => readLetters (letter :: rest) arguments
  | _ => .error (.misuse (.unexpected argument))

/-- Whether an argument has the form of an option, and is not the value of one. -/
def isOption (argument : String) : Bool :=
  match argument.toList with
  | '-' :: _ :: _ => true
  | _ => false

/-- Reads the arguments from some place on, where an option may be waiting for its value. After two
dashes alone there are no more options. -/
def readFrom : Option Field → Arguments → List String → Except Invocation Arguments
  | none, arguments, [] => .ok arguments
  | some field, _, [] => .error (.misuse (.noValue field))
  | some field, arguments, value :: rest =>
    if isOption value then .error (.misuse (.noValue field))
    else
      match give field value arguments with
      | .ok arguments => readFrom none arguments rest
      | .error cause => .error (.misuse cause)
  | none, arguments, argument :: rest =>
    if argument = "--" then
      match rest with
      | [] => .ok arguments
      | next :: _ => .error (.misuse (.unexpected next))
    else
      match readArgument argument arguments with
      | .ok (arguments, waiting) => readFrom waiting arguments rest
      | .error invocation => .error invocation

/-- Sets the options that are not given from the environment. -/
def complete (environment : String → Option String) :
    List Field → Arguments → Except Misuse Arguments
  | [], arguments => .ok arguments
  | field :: rest, arguments =>
    match if field.isGiven arguments then none else environment field.environmentName with
    | none => complete environment rest arguments
    | some value =>
      match give field value arguments with
      | .ok arguments => complete environment rest arguments
      | .error cause => .error cause

/-- What a command line asks for in an environment. -/
def read (environment : String → Option String) (args : List String) : Invocation :=
  match readFrom none {} args with
  | .error invocation => invocation
  | .ok arguments =>
    match complete environment Field.all arguments with
    | .ok arguments => .run arguments
    | .error cause => .misuse cause

end CommandLine

end StubServer
