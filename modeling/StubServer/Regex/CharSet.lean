import StubServer.Unicode.Casing

/-!
# Sets of characters

The sets that a regular expression names: stretches of code points and what can be made of them.
A set is kept as the operations that make it up, so that membership is decided by the structure
of the set.

## Main definitions

* `CharSet`: a set of characters; `CharSet.contains` is membership.
* `CharSet.of`: the set of one character.
-/

namespace StubServer

open Unicode

/-- A set of characters. -/
inductive CharSet where
  /-- The characters of stretches of code points. -/
  | ranges (stretches : Ranges)
  | union (a b : CharSet)
  | inter (a b : CharSet)
  | diff (a b : CharSet)
  | symmDiff (a b : CharSet)
  | compl (a : CharSet)
  /-- The characters of a set and those that differ from one of them in case alone. -/
  | fold (a : CharSet)
  deriving DecidableEq, Inhabited

namespace CharSet

/-- Membership in a set. -/
def contains : CharSet → Char → Bool
  | ranges stretches, c => stretches.contains c
  | union a b, c => a.contains c || b.contains c
  | inter a b, c => a.contains c && b.contains c
  | diff a b, c => a.contains c && !b.contains c
  | symmDiff a b, c => a.contains c != b.contains c
  | compl a, c => !a.contains c
  | fold a, c => a.contains c || (caseVariants c).any a.contains

/-- The set without members. -/
def empty : CharSet := ranges []

/-- The set of one character. -/
def of (c : Char) : CharSet := ranges [(c.toNat, c.toNat)]

/-- The set of the characters from one to another. -/
def between (first last : Char) : CharSet := ranges [(first.toNat, last.toNat)]

/-- How many stretches the description of a set takes. -/
def stretchCount : CharSet → Nat
  | ranges stretches => stretches.length
  | union a b | inter a b | diff a b | symmDiff a b => a.stretchCount + b.stretchCount
  | compl a => a.stretchCount + 1
  | fold a => 2 * a.stretchCount

end CharSet

end StubServer
