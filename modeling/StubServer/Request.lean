import StubServer.Rule.Basic
import StubServer.Text.FormEncoding
import StubServer.Text.Split

/-!
# Requests

What rules look at in a request: its method, its path, the parameters of its query, its headers
and its body. A name may come several times, and its values keep their order.

## Main definitions

* `Request.ofUrl`: the request for a method and a URL.
* `Request.addHeader`, `Request.withBody`: the request with one more header, or with a body.
* `Request.headerValues`, `Request.queryValues`: the values of a name. Letter case does not matter
  in names of headers.
-/

namespace StubServer

/-- A request. -/
structure Request where
  /-- The method, in capitals and without blanks around it. -/
  method : String
  /-- The path, without the query. -/
  path : String
  /-- The parameters of the query, decoded, in order. -/
  query : List (String × String) := []
  /-- The headers with their names in lower case, in order. -/
  headers : List (String × String) := []
  body : String := ""
  deriving DecidableEq, Inhabited

/-- The values that a list of named values holds under a name, in order. -/
def valuesOf (name : String) (fields : List (String × String)) : List String :=
  (fields.filter fun field => field.1 == name).map (·.2)

namespace Request

/-- Decodes a part of a query: a name and its value, which is empty without an equals sign. -/
def parameter (part : List Char) : String × String :=
  let (name, value) := cut '=' part
  (.ofList (FormEncoding.decode name), .ofList (FormEncoding.decode (value.getD [])))

/-- The parameters of a query. -/
def parameters (query : List Char) : List (String × String) :=
  ((pieces '&' query).filter fun part => !part.isEmpty).map parameter

/-- The request for a method and a URL, of which the query follows the first question mark. -/
def ofUrl (method url : String) : Request :=
  let (path, query) := cut '?' url.toList
  { method := asciiUpper (trimmed method)
    path := .ofList path
    query := (query.map parameters).getD [] }

/-- The request with one more header. -/
def addHeader (request : Request) (name value : String) : Request :=
  { request with headers := request.headers ++ [(asciiLower name, value)] }

/-- The request with the given body. -/
def withBody (request : Request) (body : String) : Request :=
  { request with body }

/-- The values of a header, by its name in any letter case. The name is tried as it is given first. -/
def headerValues (request : Request) (name : String) : List String :=
  match valuesOf name request.headers with
  | [] => valuesOf (asciiLower name) request.headers
  | values => values

/-- The values of a query parameter. -/
def queryValues (request : Request) (name : String) : List String :=
  valuesOf name request.query

end Request

end StubServer
