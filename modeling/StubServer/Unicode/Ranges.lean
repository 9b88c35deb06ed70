import StubServer.Text.Split

/-!
# Sets of code points

A property of characters is a set of code points, kept as the stretches of consecutive code
points that make it up. The tables of the sibling modules write such a set as *runs*: the
lengths of the stretches outside and inside the set, in turn, from U+0000 on, in base 36 and
separated by blanks.

## Main definitions

* `Ranges`: a set of code points; `Ranges.contains` is membership of a character.
* `Ranges.ofRuns`: the set that a text of runs describes.
-/

namespace StubServer.Unicode

/-- A set of code points: each pair is the first and the last point of a stretch. -/
abbrev Ranges := List (Nat × Nat)

/-- Whether a code point lies in one of the stretches. -/
def Ranges.has (ranges : Ranges) (point : Nat) : Bool :=
  ranges.any fun r => r.1 ≤ point && point ≤ r.2

/-- Whether a character is in the set. -/
def Ranges.contains (ranges : Ranges) (c : Char) : Bool :=
  ranges.has c.toNat

/-- The value of a base 36 digit; any other character counts as zero. -/
def digitValue (c : Char) : Nat :=
  if '0' ≤ c ∧ c ≤ '9' then c.toNat - '0'.toNat
  else if 'a' ≤ c ∧ c ≤ 'z' then c.toNat - 'a'.toNat + 10
  else 0

/-- The base 36 numbers of a text, in order; blanks and line ends stand between them. -/
def numbers (text : List Char) : List Nat :=
  let close : Option Nat → List Nat → List Nat
    | some n, done => n :: done
    | none, done => done
  let state := text.foldl (fun (state : Option Nat × List Nat) c =>
    if c = ' ' ∨ c = '\n' then (none, close state.1 state.2)
    else (some (state.1.getD 0 * 36 + digitValue c), state.2)) (none, [])
  (close state.1 state.2).reverse

/-- The stretches of a list of runs, of which the first starts at `start` and lies outside. -/
def Ranges.ofLengths (start : Nat) : List Nat → Ranges
  | outside :: inside :: rest =>
    (start + outside, start + outside + inside - 1) ::
      Ranges.ofLengths (start + outside + inside) rest
  | _ => []

/-- The set that a text of runs describes. -/
def Ranges.ofRuns (text : String) : Ranges :=
  Ranges.ofLengths 0 (numbers text.toList)

/-- Finds the set listed under `name` in a table whose entries start with their names,
separated by blanks. -/
def lookup? (table : List (String × String)) (name : String) : Option Ranges :=
  (table.find? fun entry => (pieces ' ' entry.1.toList).contains name.toList).map fun entry =>
    Ranges.ofRuns entry.2

end StubServer.Unicode
