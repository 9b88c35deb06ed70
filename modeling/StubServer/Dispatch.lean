import StubServer.Engine.Basic
import StubServer.Json.Write

/-!
# Answering requests

Every request gets a response: that of the rule that wins, or one which says that there is no such
rule or that the engine is not running.

## Main definitions

* `Response`: a response together with how it came about.
* `Engine.respond`: the response to a request.
* `Engine.dispatch`: the response to a request, which is counted.
-/

namespace StubServer

/-- A response together with how it came about. -/
structure Response where
  status : Nat
  headers : List (String × String)
  body : String
  outcome : Metrics.Outcome
  deriving DecidableEq

/-- The type of the content of responses. -/
def contentType : String × String := ("Content-Type", "application/json;charset=UTF-8")

/-- The header that tells the key of the rule. -/
def keyHeader : String := "x-mockline-stub"

namespace Response

/-- A response whose body is JSON. -/
def ofJson (status : Nat) (outcome : Metrics.Outcome) (body : Json) : Response :=
  { status, headers := [contentType], body := body.render, outcome }

/-- The response while the engine is not running. -/
def notReady : Response :=
  ofJson 503 .notReady (.object [
    ("error", .string "Service unavailable"),
    ("message", .string "Stub server is not running"),
    ("status", .ofInt 503)])

/-- The response to a request that no rule accepts. -/
def noMatch (request : Request) : Response :=
  ofJson 404 .noMatch (.object [
    ("error", .string "No matching stub"),
    ("message", .string "No stub matching the request was found"),
    ("method", .string request.method),
    ("path", .string request.path),
    ("status", .ofInt 404)])

/-- The body of a rule that has none. -/
def defaultBody (rule : Rule) (now : Timestamp) : String :=
  (Json.object [
    ("message", .string ("Mocked response for " ++ rule.name)),
    ("stubName", .string rule.name),
    ("timestamp", .string now.offsetText)]).render

/-- The response of a rule. -/
def ofRule (rule : Rule) (now : Timestamp) : Response where
  status := 200
  headers := [contentType, (keyHeader, rule.key)]
  body := if isBlankText rule.response then defaultBody rule now else rule.response
  outcome := .matched

/-- The value of a header, by its name in any letter case. -/
def header? (name : String) (response : Response) : Option String :=
  (response.headers.find? fun header => asciiLower header.1 == asciiLower name).map (·.2)

end Response

namespace Engine

/-- The response to a request. -/
def respond (now : Timestamp) (request : Request) (engine : Engine) : Response :=
  if !engine.running then .notReady
  else
    match engine.index.lookup? request with
    | some matcher => .ofRule matcher.rule now
    | none => .noMatch request

/-- The response to a request, which is counted. -/
def dispatch (now : Timestamp) (request : Request) (engine : Engine) : Response × Engine :=
  let response := engine.respond now request
  let metrics := engine.metrics.count (.requests request.method response.outcome)
  (response, { engine with metrics := metrics.count (.durations response.outcome) })

end Engine

end StubServer
