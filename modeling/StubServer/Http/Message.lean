import StubServer.Dispatch

/-!
# HTTP messages

Requests and responses as they are before and after their way over the network.

## Main definitions

* `HttpRequest`, `HttpResponse`: the messages.
* `HttpRequest.toRequest`: what rules can look at in a request.
* `HttpResponse.ofResponse`: a response as it is sent.
-/

namespace StubServer

/-- A request as it is received. -/
structure HttpRequest where
  method : String
  /-- The target up to the first question mark. -/
  path : String
  /-- The target after the first question mark, if there is one. -/
  query : Option String := none
  /-- The headers, with their names in lower case and their values as bytes. -/
  headers : List (String × List UInt8) := []
  body : List UInt8 := []
  deriving DecidableEq

/-- A response as it is sent. -/
structure HttpResponse where
  status : Nat
  /-- The headers, with their names in lower case. -/
  headers : List (String × String) := []
  body : String := ""
  deriving DecidableEq

/-! ### Requests -/

namespace HttpRequest

/-- The text of a header value, if it holds only tabs and printable characters of ASCII. -/
def headerText? (value : List UInt8) : Option String :=
  if value.all fun byte => byte == 9 || (32 ≤ byte && byte < 127) then
    some (.ofList (value.map fun byte => Char.ofNat byte.toNat))
  else none

/-- The target of a request. -/
def url (request : HttpRequest) : String :=
  match request.query with
  | some query => request.path ++ "?" ++ query
  | none => request.path

/-- Adds a header whose value is a text. -/
def addTo (request : Request) (header : String × List UInt8) : Request :=
  match headerText? header.2 with
  | some value => request.addHeader header.1 value
  | none => request

/-- What rules can look at in a request. Headers whose values are no texts are left out, and what is
no text in the body is replaced. -/
def toRequest (request : HttpRequest) : Request :=
  (request.headers.foldl addTo (.ofUrl request.method request.url)).withBody
    (.ofList (Utf8.decodeLossy request.body))

end HttpRequest

/-! ### Responses -/

namespace HttpResponse

/-- Whether a header may have a value: one without control characters other than tabs. -/
def isHeaderValue (value : String) : Bool :=
  value.toList.all fun c => c == '\t' || (32 ≤ c.toNat && c.toNat != 127)

/-- What is sent in place of a response with a header that cannot be sent. -/
def unsendable : HttpResponse :=
  { status := 200, body := "Internal Server Error" }

/-- A response with headers, if they can be sent. -/
def withHeaders (status : Nat) (headers : List (String × String)) (body : String) : HttpResponse :=
  if headers.all fun header => isHeaderValue header.2 then
    { status, headers := headers.map fun header => (asciiLower header.1, header.2), body }
  else unsendable

/-- A response as it is sent. -/
def ofResponse (response : Response) : HttpResponse :=
  withHeaders response.status response.headers response.body

/-- A response whose body is the text of a JSON value. -/
def ofJson (status : Nat) (body : Json) : HttpResponse :=
  withHeaders status [("Content-Type", "application/json")] body.renderPretty

/-- A response that reports an error. -/
def ofError (status : Nat) (message : String) : HttpResponse :=
  ofJson status (.object [("errors", .array [.object [
    ("code", .string (.ofList (intText status))), ("message", .string message)]])])

/-- The response for what does not exist. -/
def notFound : HttpResponse := ofError 404 "Not Found"

/-- The response for an error of the engine. -/
def ofEngineError (error : EngineError) : HttpResponse :=
  ofError error.status error.message

end HttpResponse

end StubServer
