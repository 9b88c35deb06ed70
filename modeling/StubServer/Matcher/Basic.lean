import StubServer.Matcher.Body
import StubServer.Matcher.Field
import StubServer.Matcher.Url

/-!
# Compiled rules

A rule is compiled once for all requests to come. Compiling never fails: a pattern that makes no
sense accepts nothing or asks for nothing, depending on its kind.

## Main definitions

* `Matcher`: a compiled rule; `Matcher.accepts` decides on a request.
* `Matcher.compile`: compiles a rule.
-/

namespace StubServer

/-- A compiled rule. -/
structure Matcher where
  /-- The rule it was compiled from. -/
  rule : Rule
  url : UrlMatcher
  headers : Option FieldMatcher
  query : Option FieldMatcher
  body : Option BodyMatcher

namespace Matcher

/-- Compiles a rule. -/
def compile [Regex.SizeLimit] (rule : Rule) (cache : Regex.Cache) : Matcher × Regex.Cache :=
  let (url, cache) := UrlMatcher.compile rule.urlMatch rule.url cache
  let (headers, cache) := FieldMatcher.compile .header rule.headerPattern cache
  let (query, cache) := FieldMatcher.compile .query rule.queryPattern cache
  let (body, cache) := BodyMatcher.compile rule.bodyPattern cache
  ({ rule, url, headers, query, body }, cache)

/-- The key under which the rule is served. -/
def key (matcher : Matcher) : String := matcher.rule.key

/-- The method that the rule answers, in capitals. -/
def method (matcher : Matcher) : String := matcher.rule.normalizedMethod

/-- The priority of the rule. -/
def priority (matcher : Matcher) : Int := matcher.rule.priority

/-- Whether the rule answers every method. -/
def isWildcard (matcher : Matcher) : Bool := matcher.method == anyMethod

/-- Whether the method of a request is accepted, in any letter case. -/
def acceptsMethod (matcher : Matcher) (method : String) : Bool :=
  matcher.isWildcard || asciiLower matcher.method == asciiLower method

/-- Whether the path of a request is accepted. -/
def acceptsPath (matcher : Matcher) (path : String) : Bool :=
  matcher.url.accepts path

/-- Whether headers, query and body of a request are accepted. -/
def acceptsDetails (matcher : Matcher) (request : Request) : Bool :=
  (matcher.headers.all fun m => m.accepts request) &&
    (matcher.query.all fun m => m.accepts request) &&
    (matcher.body.all fun m => m.accepts request.body)

/-- Whether a request is accepted. -/
def accepts (matcher : Matcher) (request : Request) : Bool :=
  matcher.acceptsMethod request.method && matcher.acceptsPath request.path &&
    matcher.acceptsDetails request

end Matcher

end StubServer
