import StubServer.Http.Message

/-!
# HTTP messages as JSON

The form in which the part of the server that holds the connections hands requests over and takes
responses back. A request has the members `method`, `target`, `headers` and `body`, of which all but
the first two may be missing; `headers` is an array of pairs of a name and a value. A response has
`status`, `headers` and `body`.

## Main definitions

* `HttpRequest.ofJson?`: the request that a value describes.
* `HttpResponse.toJson`: the description of a response.
-/

namespace StubServer

namespace HttpRequest

/-- The text that a member holds. -/
def member? (v : Json) (name : String) : Option String :=
  match v.member? name with
  | some (.string s) => some s
  | _ => none

/-- The header that a pair describes. -/
def header? : Json → Option (String × List UInt8)
  | .array [.string name, .string value] => some (asciiLower name, Utf8.encode value.toList)
  | _ => none

/-- The request that a value describes. -/
def ofJson? (v : Json) : Option HttpRequest := do
  let method ← member? v "method"
  let (path, query) := cut '?' (← member? v "target").toList
  let headers ←
    match v.member? "headers" with
    | some (.array items) => items.mapM header?
    | some _ => none
    | none => some []
  let body := ((member? v "body").getD "").toList
  return { method, path := .ofList path, query := query.map .ofList, headers, body := Utf8.encode body }

end HttpRequest

/-- The description of a response. -/
def HttpResponse.toJson (response : HttpResponse) : Json :=
  .object [
    ("status", .ofInt response.status),
    ("headers", .array (response.headers.map fun header =>
      .array [.string header.1, .string header.2])),
    ("body", .string response.body)]

end StubServer
