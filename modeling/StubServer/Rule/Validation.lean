import StubServer.Json.Read
import StubServer.Rule.Basic

/-!
# Which rules are complete

A rule is accepted if it has a name, a method of ASCII letters, a URL pattern, and a response
that is JSON. All problems are reported together, in this order.

## Main definitions

* `Rule.Problem`: what can be missing or wrong; `Rule.Problem.message` is its wording.
* `Rule.problems`: the problems of a rule; `Rule.validate` refuses a rule that has any.
-/

namespace StubServer.Rule

/-- What can be missing from a rule or wrong with it. -/
inductive Problem where
  | noName
  | noMethod
  | badMethod (method : String)
  | noUrl
  | noResponse
  | badResponse (error : Json.Error)
  deriving DecidableEq

/-- The wording of a problem. -/
def Problem.message : Problem → String
  | .noName => "name is required"
  | .noMethod => "method is required"
  | .badMethod method => "method '" ++ method ++ "' is not a valid HTTP method"
  | .noUrl => "url is required"
  | .noResponse => "responseDefinition is required"
  | .badResponse e => "responseDefinition is not valid JSON: " ++ e.message

/-- Whether a character is an ASCII letter. -/
def isAsciiLetter (c : Char) : Bool :=
  ('a' ≤ c && c ≤ 'z') || ('A' ≤ c && c ≤ 'Z')

/-- The problem of a method, if there is one. -/
def methodProblem (method : String) : List Problem :=
  if isBlankText method then [.noMethod]
  else if (trim method.toList).all isAsciiLetter then []
  else [.badMethod method]

/-- The problem of a response, if there is one. -/
def responseProblem (response : String) : List Problem :=
  if isBlankText response then [.noResponse]
  else match Json.parse response with
    | .ok _ => []
    | .error e => [.badResponse e]

/-- The problems of a rule. -/
def problems (rule : Rule) : List Problem :=
  (if isBlankText rule.name then [.noName] else []) ++ methodProblem rule.method ++
    (if isBlankText rule.url then [.noUrl] else []) ++ responseProblem rule.response

/-- The wording of several problems. -/
def problemsText (problems : List Problem) : String :=
  "; ".intercalate (problems.map Problem.message)

/-- Accepts a rule without problems. -/
def validate (rule : Rule) : Except (List Problem) Unit :=
  match rule.problems with
  | [] => .ok ()
  | problems => .error problems

end StubServer.Rule
