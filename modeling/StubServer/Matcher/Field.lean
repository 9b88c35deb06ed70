import StubServer.Json.Read
import StubServer.Json.Write
import StubServer.Regex.Cache
import StubServer.Request

/-!
# Header and query patterns

Both patterns are JSON objects that give conditions for fields by name. A field of the request is
accepted if one of its values is, and a request if all fields are that have a condition. A pattern
that is blank or no object asks for nothing.

## Main definitions

* `FieldMatcher`: a compiled pattern; `FieldMatcher.accepts` decides on a request.
* `FieldCheck`: the condition for the values of one field.
* `FieldMatcher.compile`: compiles a pattern.
-/

namespace StubServer

/-- Which fields of a request are meant. -/
inductive FieldSource where
  | header
  | query
  deriving DecidableEq, Inhabited

/-- The condition for the values of one field. -/
inductive FieldCheck where
  | equalTo (text : String)
  | contains (text : String)
  /-- The whole value matches a regular expression. What is none accepts nothing. -/
  | matches (regex : Option Regex)
  deriving DecidableEq, Inhabited

namespace FieldCheck

/-- Compiles the condition that a JSON value gives: an object with at least one of three members,
of which the first one counts. -/
def compile [Regex.SizeLimit] (condition : Json) (cache : Regex.Cache) : Option FieldCheck × Regex.Cache :=
  match condition.member? "equalTo", condition.member? "contains", condition.member? "matches" with
  | some v, _, _ => (some (.equalTo v.asText), cache)
  | none, some v, _ => (some (.contains v.asText), cache)
  | none, none, some v =>
    let (regex, cache) := cache.getFull v.asText
    (some (.matches regex), cache)
  | none, none, none => (none, cache)

/-- Whether a value satisfies the condition. -/
def accepts : FieldCheck → String → Bool
  | .equalTo text, value => value == text
  | .contains text, value => occursIn text.toList value.toList
  | .matches (some regex), value => regex.isMatch value
  | .matches none, _ => false

end FieldCheck

/-- A compiled header or query pattern. -/
structure FieldMatcher where
  source : FieldSource
  /-- The names of fields and their conditions. -/
  checks : List (String × FieldCheck)
  deriving DecidableEq, Inhabited

namespace FieldMatcher

/-- The name under which a field is looked up. -/
def fieldName : FieldSource → String → String
  | .header, name => asciiLower name
  | .query, name => name

/-- Compiles the conditions for the members of an object. Members that give none are left out. -/
def compileChecks [Regex.SizeLimit] (source : FieldSource) :
    List (String × Json) → Regex.Cache → List (String × FieldCheck) × Regex.Cache
  | [], cache => ([], cache)
  | (name, condition) :: rest, cache =>
    let (check, cache) := FieldCheck.compile condition cache
    let (checks, cache) := compileChecks source rest cache
    match check with
    | some check => ((fieldName source name, check) :: checks, cache)
    | none => (checks, cache)

/-- The members of the object that a pattern is, if it is one. -/
def members? (raw : String) : Option (List (String × Json)) :=
  match Json.parse (trimmed raw) with
  | .ok (.object members) => some members
  | _ => none

/-- Compiles a pattern, if it asks for something. -/
def compile [Regex.SizeLimit] (source : FieldSource) (raw : Option String) (cache : Regex.Cache) :
    Option FieldMatcher × Regex.Cache :=
  match raw.bind members? with
  | none => (none, cache)
  | some members =>
    let (checks, cache) := compileChecks source members cache
    (some { source, checks }, cache)

/-- The values of a field of a request. -/
def values (source : FieldSource) (request : Request) (name : String) : List String :=
  match source with
  | .header => request.headerValues name
  | .query => request.queryValues name

/-- Whether a request is accepted. -/
def accepts (matcher : FieldMatcher) (request : Request) : Bool :=
  matcher.checks.all fun (name, check) =>
    (values matcher.source request name).any check.accepts

end FieldMatcher

end StubServer
