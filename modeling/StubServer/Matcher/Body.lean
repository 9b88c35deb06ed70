import StubServer.Json.Containment
import StubServer.Json.Read
import StubServer.Json.Write
import StubServer.JsonPath.Read
import StubServer.Regex.Cache
import StubServer.Text.Split

/-!
# Body patterns

A body pattern is a JSON object that gives one condition, by the first of its members with one of
four names. Patterns are often typed by hand: one that is no JSON is read again with its
backslashes doubled, and if that is of no help, it is a text that must occur in the body.

## Main definitions

* `BodyMatcher`: a compiled pattern; `BodyMatcher.accepts` decides on a body.
* `BodyMatcher.compile`: compiles a pattern.
-/

namespace StubServer

/-- A compiled body pattern. -/
inductive BodyMatcher where
  /-- The body is JSON that contains a document. -/
  | document (expected : Json)
  /-- The body is the given text. -/
  | verbatim (text : String)
  /-- The body is JSON in which a query finds something. What is no query finds nothing. -/
  | path (query : Option JsonPath.Query)
  /-- The body contains the given text. -/
  | contains (text : String)
  /-- The whole body matches a regular expression. What is none accepts nothing. -/
  | matches (regex : Option Regex)
  /-- The body contains the pattern itself, which gives no condition. -/
  | literal (text : String)

namespace BodyMatcher

/-- The name of the condition. -/
def kind : BodyMatcher → String
  | .document _ | .verbatim _ => "equalToJson"
  | .path _ => "matchesJsonPath"
  | .contains _ => "contains"
  | .matches _ => "matches"
  | .literal _ => "literal"

/-- The condition that a body is equal to a document. A text stands for the document that it is;
one that is none must be the body itself. -/
def ofExpected : Json → BodyMatcher
  | .string text =>
    match Json.parse text with
    | .ok v => .document v
    | .error _ => .verbatim text
  | v => .document v

/-- The condition that an object gives by the first of its members with one of four names. -/
def ofObject [Regex.SizeLimit] (object : Json) (cache : Regex.Cache) : Option BodyMatcher × Regex.Cache :=
  match object.member? "equalToJson" with
  | some v => (some (ofExpected v), cache)
  | none =>
    match object.member? "matchesJsonPath" with
    | some v => (some (.path (JsonPath.parse? v.asText)), cache)
    | none =>
      match object.member? "contains" with
      | some v => (some (.contains v.asText), cache)
      | none =>
        match object.member? "matches" with
        | some v =>
          let (regex, cache) := cache.getFull v.asText
          (some (.matches regex), cache)
        | none => (none, cache)

/-- A text with each backslash doubled. -/
def doubled (text : List Char) : List Char :=
  text.flatMap fun c => if c = '\\' then ['\\', '\\'] else [c]

/-- The condition that a pattern gives after its backslashes were doubled, if it gives one and has
any. Only two conditions come into question, and here regular expressions come first. -/
def ofDoubled [Regex.SizeLimit] (raw : String) (cache : Regex.Cache) : Option BodyMatcher × Regex.Cache :=
  if !raw.toList.contains '\\' then (none, cache)
  else
    match Json.document (doubled raw.toList) with
    | .ok (.object members) =>
      match (Json.object members).member? "matches", (Json.object members).member? "contains" with
      | some v, _ =>
        let (regex, cache) := cache.getFull v.asText
        (some (.matches regex), cache)
      | none, some v => (some (.contains v.asText), cache)
      | none, none => (none, cache)
    | _ => (none, cache)

/-- Compiles a pattern, if it asks for something. Blank patterns and JSON that gives no condition
ask for nothing. -/
def compile [Regex.SizeLimit] (raw : Option String) (cache : Regex.Cache) : Option BodyMatcher × Regex.Cache :=
  match raw with
  | none => (none, cache)
  | some raw =>
    if isBlankText raw then (none, cache)
    else
      match Json.parse raw with
      | .ok (.object members) => ofObject (.object members) cache
      | .ok _ => (none, cache)
      | .error _ =>
        match ofDoubled raw cache with
        | (some matcher, cache) => (some matcher, cache)
        | (none, cache) => (some (.literal raw), cache)

/-- Whether a body is JSON for which a condition holds. -/
def holdsOfJson (condition : Json → Bool) (body : String) : Bool :=
  match Json.parse body with
  | .ok v => condition v
  | .error _ => false

/-- Whether a body is accepted. -/
def accepts : BodyMatcher → String → Bool
  | .document expected, body => holdsOfJson expected.containedIn body
  | .verbatim text, body => body == text
  | .path (some query), body => holdsOfJson query.finds body
  | .path none, _ => false
  | .contains text, body | .literal text, body => occursIn text.toList body.toList
  | .matches (some regex), body => regex.isMatch body
  | .matches none, _ => false

end BodyMatcher

end StubServer
