import StubServer.Binary64.Basic

/-!
# JSON values

Rules, patterns and bodies are JSON. An object is the list of its members; the members of a
value that was read are sorted by name and no name occurs twice, which `insertMember` keeps.

## Main definitions

* `Json.Number`: an integer of 64 bits, with or without a sign, or a floating point number.
* `Json`: a value.
* `Json.ofMembers`: the object of members in the order of a text, of which the last one of a
  name counts.
* `Json.same`: equality of values.
-/

namespace StubServer

/-- Whether an integer fits into 64 bits, with or without a sign. -/
def Json.InRange (i : Int) : Prop := 
  -9223372036854775808 ≤ i ∧ i ≤ 18446744073709551615

instance (i : Int) : Decidable (Json.InRange i) :=
  inferInstanceAs (Decidable (_ ∧ _))

/-- A JSON number. -/
inductive Json.Number where
  | integer (value : Int) (inRange : Json.InRange value)
  | real (value : Binary64)
  deriving DecidableEq

/-- A JSON value. -/
inductive Json where
  | null
  | bool (value : Bool)
  | number (value : Json.Number)
  | string (value : String)
  | array (items : List Json)
  | object (members : List (String × Json))
  deriving Inhabited

namespace Json

/-! ### Numbers -/

/-- The floating point number nearest to a number. -/
def Number.toReal : Number → Binary64
  | .integer i _ => Binary64.ofInt i
  | .real x => x

/-- Equality of numbers of the same kind; an integer never equals a floating point number. -/
def Number.same : Number → Number → Bool
  | .integer i _, .integer j _ => i == j
  | .real x, .real y => x.same y
  | _, _ => false

/-- The number that an integer is, if it fits. -/
def Number.ofInt? (i : Int) : Option Number :=
  if h : InRange i then some (.integer i h) else none

/-- An integer that fits into 64 bits, as a value; any other is written as a floating point
number. -/
def ofInt (i : Int) : Json :=
  if h : InRange i then .number (.integer i h) else .number (.real (Binary64.ofInt i))

/-! ### Objects -/

/-- Puts a member in its place by name, where it replaces a member of the same name. -/
def insertMember (name : String) (value : Json) : List (String × Json) → List (String × Json)
  | [] => [(name, value)]
  | member :: rest =>
    if name < member.1 then (name, value) :: member :: rest
    else if name = member.1 then (name, value) :: rest
    else member :: insertMember name value rest

/-- Sorts members by name; of several with one name the last one counts. -/
def sortMembers (members : List (String × Json)) : List (String × Json) :=
  members.foldl (fun sorted member => insertMember member.1 member.2 sorted) []

/-- The object with the given members. -/
def ofMembers (members : List (String × Json)) : Json :=
  .object (sortMembers members)

/-- The member of an object with the given name. -/
def member? (name : String) : Json → Option Json
  | .object members => (members.find? fun member => member.1 == name).map (·.2)
  | _ => none

/-! ### Equality -/

mutual

/-- Equality of values. Numbers of different kinds differ; both zeros are the same. -/
def same : Json → Json → Bool
  | .null, .null => true
  | .bool a, .bool b => a == b
  | .number a, .number b => a.same b
  | .string a, .string b => a == b
  | .array a, .array b => sameItems a b
  | .object a, .object b => sameMembers a b
  | _, _ => false

/-- Equality of lists of items. -/
def sameItems : List Json → List Json → Bool
  | [], [] => true
  | a :: as, b :: bs => same a b && sameItems as bs
  | _, _ => false

/-- Equality of lists of members. -/
def sameMembers : List (String × Json) → List (String × Json) → Bool
  | [], [] => true
  | (m, a) :: as, (n, b) :: bs => m == n && same a b && sameMembers as bs
  | _, _ => false

end

end Json

end StubServer
