import StubServer.Text.Integer
import StubServer.Text.FormEncoding
import StubServer.Text.Split

/-!
# Paths of the administration

What is asked for at a path below `/admin`. Everything outside is for the rules to answer.

## Main definitions

* `Route`: what is asked for; `Route.ofPath` finds it.
* `Route.isAdmin`: which paths belong to the administration.
* `queryParameter?`: the value of a parameter in a query.
-/

namespace StubServer

/-- What is asked for at a path of the administration. -/
inductive Route where
  /-- How the engine is. -/
  | health
  /-- Whether there is an answer. -/
  | ping
  /-- What was counted. -/
  | metrics
  /-- All rules. -/
  | rules
  /-- Several rules at once. -/
  | batch
  /-- Rules by their names. -/
  | search
  /-- The numbers of rules. -/
  | statistics
  /-- The index, to be made anew. -/
  | reload
  /-- The rule with a number. -/
  | rule (id : Int)
  /-- Whether the rule with a number is enabled. -/
  | toggle (id : Int)
  /-- A rule with something for its number that is none. -/
  | invalidId (text : String)
  /-- Nothing. -/
  | unknown
  deriving DecidableEq

namespace Route

/-- Whether a path belongs to the administration. -/
def isAdmin (path : String) : Bool :=
  path == "/admin" || "/admin/".toList.isPrefixOf path.toList

/-- What is asked for by the parts of a path below that of the rules. -/
def ofSegments : List (List Char) → Route
  | [] => rules
  | [part] =>
    if part = "batch".toList then batch
    else if part = "search".toList then search
    else if part = "statistics".toList then statistics
    else if part = "reload".toList then reload
    else
      match readInteger? part with
      | some id => rule id
      | none => invalidId (.ofList part)
  | [part, action] =>
    match readInteger? part with
    | some id => if action = "toggle".toList then toggle id else unknown
    | none => invalidId (.ofList part)
  | _ => unknown

/-- The parts of a path below that of the rules. Slashes that separate nothing do not matter. -/
def segments (path : List Char) : List (List Char) :=
  (pieces '/' path).filter fun part => !part.isEmpty

/-- The rest of a text after its start, if it begins so. -/
def after? : (start text : List Char) → Option (List Char)
  | [], text => some text
  | _ :: _, [] => none
  | c :: start, d :: text => if c = d then after? start text else none

/-- What is asked for at a path of the administration. -/
def ofPath (path : String) : Route :=
  if path = "/admin/health" then health
  else if path = "/admin/health/ping" then ping
  else if path = "/admin/metrics" then metrics
  else
    match after? "/admin/stubs".toList path.toList with
    | some [] => rules
    | some ('/' :: rest) => ofSegments (segments rest)
    | _ => unknown

end Route

/-- The value of the first parameter with a name, which is compared as it is written. Without an
equals sign the value is empty. -/
def queryParameter? (query : Option (List Char)) (name : List Char) : Option (List Char) :=
  query.bind fun query =>
    ((pieces '&' query).find? fun part => (cut '=' part).1 == name).map fun part =>
      FormEncoding.decode ((cut '=' part).2.getD [])

end StubServer
