import StubServer.Text.Blank
import StubServer.Timestamp.Basic

/-!
# Stub rules

A stub rule describes one canned response: which requests it answers, by method, URL, headers,
query and body, and with what. Patterns are kept as the text that the operator wrote; they are
interpreted when the rule is compiled.

## Main definitions

* `Rule`: a stub rule; `Rule.new` is one with nothing but the fields it needs.
* `UrlMatch`: how the URL pattern is interpreted.
* `Rule.key`: the key under which the rule is served.
* `Rule.normalizedMethod`, `Rule.sameRoute`: the method in capitals, and whether two rules are
  for the same method and URL pattern.
-/

namespace StubServer

/-- How the URL pattern of a rule is interpreted. -/
inductive UrlMatch where
  /-- The path is the pattern. -/
  | equals
  /-- The pattern occurs in the path. -/
  | contains
  /-- The pattern is a regular expression for the whole path. -/
  | regex
  /-- The pattern has placeholders in braces, each for a part of one path segment. -/
  | pathTemplate
  deriving DecidableEq, Inhabited

namespace UrlMatch

/-- The name of an interpretation. -/
def name : UrlMatch → String
  | .equals => "EQUALS"
  | .contains => "CONTAINS"
  | .regex => "REGEX"
  | .pathTemplate => "PATH_TEMPLATE"

/-- All interpretations. -/
def all : List UrlMatch := [.equals, .contains, .regex, .pathTemplate]

/-- The interpretation with the given name. -/
def ofName? (name : String) : Option UrlMatch :=
  all.find? fun m => m.name == name

end UrlMatch

/-- A stub rule. -/
structure Rule where
  /-- The number that the store gave the rule. -/
  id : Option Int := none
  name : String := ""
  description : Option String := none
  /-- A key of the rule's own, which never changes. -/
  externalKey : Option String := none
  /-- Whether the rule takes part in matching. -/
  enabled : Bool := true
  /-- The rule with the least priority wins. -/
  priority : Int := 0
  method : String := ""
  url : String := ""
  urlMatch : UrlMatch := .equals
  headerPattern : Option String := none
  queryPattern : Option String := none
  bodyPattern : Option String := none
  /-- The body of the response. -/
  response : String := ""
  createdAt : Option Timestamp := none
  updatedAt : Option Timestamp := none
  deriving DecidableEq, Inhabited

/-- The method of a rule that answers every method. -/
def anyMethod : String := "ANY"

/-- A text with its ASCII letters in capitals. -/
def asciiUpper (s : String) : String :=
  .ofList (s.toList.map Char.toUpper)

/-- A text with its ASCII letters in lower case. -/
def asciiLower (s : String) : String :=
  .ofList (s.toList.map Char.toLower)

namespace Rule

/-- A rule that answers with an empty JSON object. -/
def new (name method url : String) : Rule :=
  { name, method, url, response := "\x7b\x7d" }

/-- The key under which the rule is served: its own, else its number, else its name. -/
def key (rule : Rule) : String :=
  match rule.externalKey, rule.id with
  | some key, _ => key
  | none, some id => "stub-" ++ .ofList (intText id)
  | none, none => rule.name

/-- The method in capitals and without blanks around it. -/
def normalizedMethod (rule : Rule) : String :=
  asciiUpper (trimmed rule.method)

/-- Whether two rules are for the same method and URL pattern. -/
def sameRoute (a b : Rule) : Bool :=
  a.normalizedMethod == b.normalizedMethod && a.url == b.url

end Rule

end StubServer
