import StubServer.Http.Message
import StubServer.Http.Route

/-!
# Answering HTTP requests

Below `/admin` the engine is administered: each method at each path stands for one operation. All
other requests are answered by the rules.

## Main definitions

* `Engine.administer`: the response to a request of an administrator.
* `Engine.answer`: the response to any request.
-/

namespace StubServer

namespace Engine

variable {α : Type}

/-! ### Bodies -/

/-- The figures as lines of text. -/
def metricsText (metrics : Metrics) : String :=
  String.join (metrics.samples.map fun sample =>
    sample.1 ++ " " ++ .ofList (intText sample.2) ++ "\n")

/-- The response that tells how the engine is. -/
def healthResponse (engine : Engine) : HttpResponse :=
  .ofJson (if engine.running then 200 else 503) (.object [
    ("status", .string (if engine.running then "UP" else "DOWN")),
    ("running", .bool engine.running),
    ("activeStubs", .ofInt engine.index.size),
    ("regexCacheSize", .ofInt engine.index.cache.entries.length)])

/-- The numbers of rules as a JSON value. -/
def statisticsJson (statistics : Statistics) : Json :=
  .object [
    ("totalStubs", .ofInt statistics.total),
    ("enabledStubs", .ofInt statistics.enabled),
    ("disabledStubs", .ofInt statistics.disabled)]

/-- The number of served rules as a JSON value. -/
def activeJson (size : Nat) : Json :=
  .object [("activeStubs", .ofInt size)]

/-! ### Operations -/

/-- The response to an operation. -/
def report (status : Nat) (toJson : α → Json) : Except EngineError α → HttpResponse
  | .ok result => .ofJson status (toJson result)
  | .error e => .ofEngineError e

/-- The response to a change, and the engine after it. -/
def reportChange (status : Nat) (toJson : α → Json) (done : Except EngineError α × Engine) :
    HttpResponse × Engine :=
  (report status toJson done.1, done.2)

/-- The response to deleting a rule. -/
def reportDeletion : Except EngineError Unit → HttpResponse
  | .ok () => { status := 204 }
  | .error e => .ofEngineError e

/-- Carries out an operation on what a body holds. -/
def withBody (read : List UInt8 → Except Json.Error α) (request : HttpRequest) (engine : Engine)
    (operation : α → HttpResponse × Engine) : HttpResponse × Engine :=
  match read request.body with
  | .ok v => operation v
  | .error e => (.ofError 400 ("Invalid stub JSON: " ++ e.message), engine)

/-- The rules that a request searches for. -/
def searched (env : Surroundings) (request : HttpRequest) (engine : Engine) :
    Except EngineError (List Rule) :=
  let keyword := queryParameter? (request.query.map String.toList) "keyword".toList
  engine.search env (.ofList (keyword.getD []))

/-- The response to a request of an administrator, and the engine after it. -/
def administer (env : Surroundings) (request : HttpRequest) (engine : Engine) :
    HttpResponse × Engine :=
  let notAllowed : HttpResponse × Engine := (.ofError 405 "Method Not Allowed", engine)
  match Route.ofPath request.path, request.method with
  | .health, "GET" => (engine.healthResponse, engine)
  | .ping, "GET" => (.withHeaders 200 [("Content-Type", "text/plain")] "pong", engine)
  | .metrics, "GET" =>
    (.withHeaders 200 [("Content-Type", "text/plain; version=0.0.4")] (metricsText engine.metrics),
      engine)
  | .rules, "GET" => (report 200 Rule.listToJson (engine.list env), engine)
  | .rules, "POST" =>
    withBody Rule.ofBytes request engine fun rule =>
      reportChange 201 Rule.toJson (engine.create env rule)
  | .batch, "POST" =>
    withBody Rule.listOfBytes request engine fun rules =>
      reportChange 201 Rule.listToJson (engine.createBatch env rules)
  | .search, "GET" => (report 200 Rule.listToJson (engine.searched env request), engine)
  | .statistics, "GET" => (report 200 statisticsJson (engine.statistics env), engine)
  | .reload, "POST" => reportChange 200 activeJson (engine.reload env)
  | .rule id, "GET" => (report 200 Rule.toJson (engine.get env id), engine)
  | .rule id, "PUT" =>
    withBody Rule.ofBytes request engine fun rule =>
      reportChange 200 Rule.toJson (engine.update env id rule)
  | .rule id, "DELETE" =>
    let done := engine.delete env id
    (reportDeletion done.1, done.2)
  | .toggle id, "POST" => reportChange 200 Rule.toJson (engine.toggle env id)
  | .invalidId text, _ => (.ofError 400 ("Invalid stub id: " ++ text), engine)
  | .health, _ | .ping, _ | .metrics, _ | .unknown, _ => (.notFound, engine)
  | .rules, _ | .batch, _ | .search, _ | .statistics, _ | .reload, _ | .rule _, _ | .toggle _, _ =>
    notAllowed

/-- The response to a request, and the engine after it. -/
def answer (env : Surroundings) (request : HttpRequest) (engine : Engine) :
    HttpResponse × Engine :=
  if Route.isAdmin request.path then engine.administer env request
  else
    let done := engine.dispatch (env.clock 0) request.toRequest
    (.ofResponse done.1, done.2)

end Engine

end StubServer
