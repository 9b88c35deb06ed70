import StubServer.Json.Basic

/-!
# Containment of JSON values

A value is contained in another if everything it says holds of the other: its members are there,
each of its items is contained in some item, in whatever order and number, and any other value is
the same. Numbers are the same, too, if they are so as floating point numbers.

## Main definitions

* `Json.containedIn`: whether a value is contained in another.
-/

namespace StubServer.Json

mutual

/-- Whether a value is contained in another. -/
def containedIn : Json → Json → Bool
  | .object members, .object whole => membersIn members whole
  | .array items, .array whole => itemsIn items whole
  | .number a, .number b => a.same b || a.toReal.same b.toReal
  | v, w => v.same w

/-- Whether each member has one of its name that it is contained in. -/
def membersIn : List (String × Json) → List (String × Json) → Bool
  | [], _ => true
  | (name, v) :: rest, whole =>
    (match whole.find? fun member => member.1 == name with
      | some member => containedIn v member.2
      | none => false) && membersIn rest whole

/-- Whether each item is contained in some item. -/
def itemsIn : List Json → List Json → Bool
  | [], _ => true
  | v :: rest, whole => whole.any (containedIn v) && itemsIn rest whole

end

end StubServer.Json
