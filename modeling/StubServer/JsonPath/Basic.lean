import StubServer.Json.Basic
import StubServer.Regex.Pattern

/-!
# JSON paths

Queries into JSON values after RFC 9535. A query starts at the root of a value, or inside a filter
at the value that is filtered, and goes down by segments. What may be compared and what may be
tested is kept apart by the types: an operand has at most one value, a test is true or false.

## Main definitions

* `JsonPath.Query`: a query; `JsonPath.Query.select` is the list of the values it selects.
* `JsonPath.Test`, `JsonPath.Operand`: the conditions of filters and what they compare.
-/

namespace StubServer.JsonPath

/-! ### Queries -/

/-- How two operands are compared. -/
inductive Comparison where
  | equal
  | unequal
  | less
  | lessOrEqual
  | greater
  | greaterOrEqual
  deriving DecidableEq

/-- Which values of an array a slice takes. -/
structure Slice where
  start : Option Int
  stop : Option Int
  step : Int
  deriving DecidableEq

mutual

/-- A query. -/
inductive Query where
  /-- `absolute` tells whether the query starts at the root. -/
  | path (absolute : Bool) (segments : List Segment)

/-- A step of a query, to the children of each value or, if `deep`, to the children of the value
and of everything inside it. -/
inductive Segment where
  | select (deep : Bool) (selectors : List Selector)

/-- Which children of a value are selected. -/
inductive Selector where
  | member (name : String)
  | all
  | item (index : Int)
  | slice (slice : Slice)
  | filter (test : Test)

/-- A condition on a value. -/
inductive Test where
  | or (a b : Test)
  | and (a b : Test)
  | not (a : Test)
  | compare (comparison : Comparison) (a b : Operand)
  /-- The query selects something. -/
  | exist (query : Query)
  /-- A text matches a regular expression, as a whole or in some part. -/
  | matches (whole : Bool) (text pattern : Operand)

/-- Something that is at most one value. -/
inductive Operand where
  | literal (value : Json)
  /-- What a query selects that selects one value at most. -/
  | only (query : Query)
  /-- The length of a text, an array or an object. -/
  | length (a : Operand)
  /-- How many values a query selects. -/
  | count (query : Query)
  /-- The value that a query selects if it selects exactly one. -/
  | value (query : Query)

end

/-- Whether a segment goes to one child at most. -/
def Segment.isSingular : Segment → Bool
  | .select false [.member _] | .select false [.item _] => true
  | _ => false

/-- Whether a query can never select several values. -/
def Query.isSingular : Query → Bool
  | .path _ segments => segments.all Segment.isSingular

/-! ### Children -/

/-- The children of a value. -/
def children : Json → List Json
  | .array items => items
  | .object members => members.map (·.2)
  | _ => []

mutual

/-- A value and everything inside it. -/
def inside : Json → List Json
  | .array items => .array items :: insideItems items
  | .object members => .object members :: insideMembers members
  | v => [v]

/-- Everything inside the items of an array, with the items. -/
def insideItems : List Json → List Json
  | [] => []
  | item :: rest => inside item ++ insideItems rest

/-- Everything inside the members of an object, with the members. -/
def insideMembers : List (String × Json) → List Json
  | [] => []
  | (_, value) :: rest => inside value ++ insideMembers rest

end

/-- The place that an index means in an array of the given length, counting from the end if it is
negative. -/
def fromEnd (length index : Int) : Int :=
  if index < 0 then length + index else index

/-- The item at an index. -/
def itemAt? (index : Int) (items : List Json) : Option Json :=
  let place := fromEnd items.length index
  if place < 0 then none else items[place.toNat]?

/-- Whether a slice takes the item at a place of an array of the given length. -/
def Slice.takes (slice : Slice) (length place : Int) : Bool :=
  let within (low high i : Int) : Int := max low (min i high)
  if 0 < slice.step then
    let first := within 0 length (fromEnd length (slice.start.getD 0))
    let bound := within 0 length (fromEnd length (slice.stop.getD length))
    first ≤ place && place < bound && (place - first) % slice.step == 0
  else if slice.step < 0 then
    let first := within (-1) (length - 1) (fromEnd length (slice.start.getD (length - 1)))
    let bound := within (-1) (length - 1) (fromEnd length (slice.stop.getD (-length - 1)))
    bound < place && place ≤ first && (first - place) % slice.step == 0
  else false

/-- The items that a slice takes, from the first one or, with a negative step, from the last. -/
def Slice.select (slice : Slice) (items : List Json) : List Json :=
  let taken := (items.zipIdx.filter fun (_, i) => slice.takes items.length i).map (·.1)
  if slice.step < 0 then taken.reverse else taken

/-! ### Comparison -/

/-- Equality of values, where numbers are equal if they are so as floating point numbers. -/
def sameValue : Json → Json → Bool
  | .number a, .number b => a.toReal.same b.toReal
  | a, b => a.same b

/-- The order of numbers and of texts; no other values are ordered. -/
def lessValue : Json → Json → Bool
  | .number a, .number b => a.toReal.less b.toReal
  | .string a, .string b => a < b
  | _, _ => false

/-- Equality where nothing equals nothing. -/
def sameOrNothing : Option Json → Option Json → Bool
  | none, none => true
  | some a, some b => sameValue a b
  | _, _ => false

/-- The order where nothing is not ordered. -/
def lessThan : Option Json → Option Json → Bool
  | some a, some b => lessValue a b
  | _, _ => false

/-- Whether a comparison holds. -/
def Comparison.holds (comparison : Comparison) (a b : Option Json) : Bool :=
  match comparison with
  | .equal => sameOrNothing a b
  | .unequal => !sameOrNothing a b
  | .less => lessThan a b
  | .lessOrEqual => lessThan a b || sameOrNothing a b
  | .greater => lessThan b a
  | .greaterOrEqual => lessThan b a || sameOrNothing a b

/-! ### Functions -/

/-- The length of a text in characters, of an array or of an object. -/
def lengthOf : Option Json → Option Json
  | some (.string s) => some (.ofInt s.length)
  | some (.array items) => some (.ofInt items.length)
  | some (.object members) => some (.ofInt members.length)
  | _ => none

/-- The only value of a list. -/
def onlyValue : List Json → Option Json
  | [v] => some v
  | _ => none

/-- Whether a text matches a regular expression. Carriage returns end lines here. What is no
regular expression matches nothing. -/
def matchesPattern (whole : Bool) : Option Json → Option Json → Bool
  | some (.string text), some (.string pattern) =>
    let source := if whole then "(?R)^(" ++ pattern ++ ")$" else "(?R)(" ++ pattern ++ ")"
    match Regex.compile? source with
    | some regex => regex.isMatch text
    | none => false
  | _, _ => false

/-! ### Selection -/

mutual

/-- The values that a query selects, from a root and the value at hand. -/
def Query.select (root : Json) : Query → Json → List Json
  | .path absolute segments, current =>
    selectSegments root segments [if absolute then root else current]

/-- The values that segments select one after the other. -/
def selectSegments (root : Json) : List Segment → List Json → List Json
  | [], values => values
  | segment :: rest, values => selectSegments root rest (values.flatMap (segment.values root))

/-- The values that a segment selects from one value. -/
def Segment.values (root : Json) : Segment → Json → List Json
  | .select deep selectors, current =>
    (if deep then inside current else [current]).flatMap (selectAll root selectors)

/-- The children of a value that any of the selectors select, selector by selector. -/
def selectAll (root : Json) : List Selector → Json → List Json
  | [], _ => []
  | selector :: rest, current => selector.values root current ++ selectAll root rest current

/-- The children of a value that a selector selects. -/
def Selector.values (root : Json) : Selector → Json → List Json
  | .member name, current => (current.member? name).toList
  | .all, current => children current
  | .item index, .array items => (itemAt? index items).toList
  | .item _, _ => []
  | .slice slice, .array items => slice.select items
  | .slice _, _ => []
  | .filter test, current => (children current).filter (test.holds root)

/-- Whether a condition holds for a value. -/
def Test.holds (root : Json) : Test → Json → Bool
  | .or a b, current => a.holds root current || b.holds root current
  | .and a b, current => a.holds root current && b.holds root current
  | .not a, current => !a.holds root current
  | .compare comparison a b, current =>
    comparison.holds (a.value? root current) (b.value? root current)
  | .exist query, current => !(query.select root current).isEmpty
  | .matches whole text pattern, current =>
    matchesPattern whole (text.value? root current) (pattern.value? root current)

/-- The value of an operand, if it has one. -/
def Operand.value? (root : Json) : Operand → Json → Option Json
  | .literal value, _ => some value
  | .only query, current => (query.select root current).head?
  | .length a, current => lengthOf (a.value? root current)
  | .count query, current => some (.ofInt (query.select root current).length)
  | .value query, current => onlyValue (query.select root current)

end

/-- Whether a query selects something in a value. -/
def Query.finds (query : Query) (value : Json) : Bool :=
  !(query.select value value).isEmpty

end StubServer.JsonPath
