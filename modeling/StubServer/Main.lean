import Std.Time.DateTime.Timestamp
import StubServer.Http.Exchange
import StubServer.Http.Server
import StubServer.Json.Read
import StubServer.Launch
import StubServer.Text.Uuid

/-!
# The program

Reads the command line, starts the server and answers requests: each line of the standard input is a
request, and each line of the standard output is the response to it. The connections are held
elsewhere.
-/

namespace StubServer

/-- What the program tells about how it is started. -/
def usage : String :=
  "HTTP stub server\n\n" ++
  "Usage: mockline [OPTIONS]\n\n" ++
  "Options:\n" ++
  "  -c, --config <CONFIG>              YAML configuration file [env: MOCKLINE_CONFIG=]\n" ++
  "  -p, --port <PORT>                  [env: MOCKLINE_PORT=]\n" ++
  "      --host <HOST>                  [env: MOCKLINE_HOST=]\n" ++
  "      --storage-path <STORAGE_PATH>  Persist stubs to this JSON file instead of keeping them " ++
  "in memory [env: MOCKLINE_STORAGE_PATH=]\n" ++
  "      --seed <SEED>                  Stubs to create at startup (JSON array) " ++
  "[env: MOCKLINE_SEED=]\n" ++
  "      --log-level <LOG_LEVEL>        [env: MOCKLINE_LOG_LEVEL=]\n" ++
  "      --json-logs                    [env: MOCKLINE_JSON_LOGS=]\n" ++
  "  -h, --help                         Print help\n" ++
  "  -V, --version                      Print version\n"

/-- The text of a file, if it can be read. -/
def readFile? (path : String) : IO (Option String) := do
  try
    return some (← IO.FS.readFile path)
  catch _ => return none

/-- Adds the file at a path to the files, if it can be read. -/
def collect (files : Files) (path : Option String) : IO Files := do
  match path with
  | some path => return ((← readFile? path).map (files.add path)).getD files
  | none => return files

/-- The files that a server with some arguments looks at. -/
def filesFor (arguments : Arguments) : IO Files := do
  let files ← collect {} arguments.config
  let base := ((arguments.config.bind files.read?).bind Settings.ofFileText?).getD {}
  let settings := arguments.override base
  let files ← collect files settings.seed
  match settings.storage.backend with
  | .file => collect files settings.storage.path
  | .memory => return files

/-- What an operation meets now. -/
def surroundings : IO Surroundings := do
  let now := .ofNanoseconds (← Std.Time.Timestamp.now).toNanosecondsSinceUnixEpoch.val
  let bytes ← IO.getRandomBytes 16
  let random := bytes.toList.foldl (fun n byte => 256 * n + byte.toNat) 0
  return { clock := fun _ => now, freshKey := fun i => uuidText (random + i) }

/-- Writes the file of a store, if it has changed. It takes the place of the old one at once. -/
def writeBack (path : String) (before after : Option Disk) : IO Unit := do
  let text := after.bind (·.target)
  if text != before.bind (·.target) then
    let location := Location.ofPath path
    let directory := "/".intercalate location.directory
    let draft := "/".intercalate location.draft
    if directory != "" then IO.FS.createDirAll directory
    IO.FS.writeFile draft (text.getD "")
    IO.FS.rename draft path

/-- The response to a line of the input, and the engine after it. -/
def respond (env : Surroundings) (line : String) (engine : Engine) : HttpResponse × Engine :=
  match (Json.parse line).toOption.bind HttpRequest.ofJson? with
  | some request => engine.answer env request
  | none => (.ofError 400 "Bad Request", engine)

/-- What an operation meets when nothing can be written. -/
def withoutWrites (env : Surroundings) : Surroundings :=
  { env with condition := fun _ => { cut := some { completed := 0 } } }

/-- Answers requests until the input ends. If a change cannot be written, the request is answered as
one that meets a store which fails. -/
partial def serve (input output : IO.FS.Stream) (path : String) (engine : Engine) : IO Unit := do
  let line ← input.getLine
  if line.isEmpty then return
  let env ← surroundings
  let answered := respond env line engine
  let (response, next) ←
    try
      writeBack path engine.store.disk answered.2.store.disk
      pure answered
    catch _ => pure (respond (withoutWrites env) line engine)
  output.putStrLn response.toJson.render
  output.flush
  serve input output path next

/-- Starts a server with some arguments and lets it answer. -/
def start (arguments : Arguments) : IO UInt32 := do
  let files ← filesFor arguments
  match (Launch.run (← surroundings) files arguments).1 with
  | .error failure =>
    IO.eprintln ("Error: " ++ failure.message)
    return 1
  | .ok server =>
    let path := server.settings.storage.path
    writeBack path ((files.disk path).toOption) server.engine.store.disk
    IO.eprintln ("Mockline listening on http://" ++ server.address.text)
    serve (← IO.getStdin) (← IO.getStdout) path server.engine
    return 0

end StubServer

open StubServer in
/-- The program. -/
def main (args : List String) : IO UInt32 := do
  let environment ← CommandLine.Field.all.mapM fun field => do
    return (field.environmentName, ← IO.getEnv field.environmentName)
  match CommandLine.read (fun name => (environment.lookup name).join) args with
  | .help => IO.print usage; return 0
  | .version => IO.println "mockline 0.1.0"; return 0
  | .misuse cause =>
    IO.eprintln ("error: " ++ cause.message ++ "\n\nFor more information, try '--help'.")
    return 2
  | .run arguments => start arguments
