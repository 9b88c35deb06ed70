/-!
# Dictionaries

Values under names. A name has at most one value; the order of the entries means nothing.

## Main definitions

* `Dictionary.find?`, `Dictionary.insert`, `Dictionary.erase`: the value of a name, and the dictionary
  with or without one.
-/

namespace StubServer

/-- Values under names. -/
abbrev Dictionary (α : Type) := List (String × α)

namespace Dictionary

variable {α : Type}

/-- The value under a name. -/
def find? (name : String) (d : Dictionary α) : Option α :=
  d.lookup name

/-- The dictionary without a name. -/
def erase (name : String) (d : Dictionary α) : Dictionary α :=
  d.filter fun entry => entry.1 != name

/-- The dictionary with a value under a name, in place of any other there. -/
def insert (name : String) (value : α) (d : Dictionary α) : Dictionary α :=
  (name, value) :: erase name d

end Dictionary

end StubServer
