import StubServer.Regex.Escape

/-!
# Classes in brackets

A class in brackets lists characters, stretches of characters and further classes. Two such lists
can be intersected or subtracted; these operations associate to the left.

The mutual readers take *fuel*, which they spend on every nested call.

## Main definitions

* `Regex.readBracket`: reads a class after its opening bracket, together with the height of its
  structure, which is limited.
-/

namespace StubServer.Regex

/-- A list of items: what they make up together, how many there are and how high the highest of
them is. -/
structure Items where
  set : CharSet := .empty
  count : Nat := 0
  height : Nat := 0

/-- The list with one more item. -/
def Items.push (items : Items) (set : CharSet) (height : Nat) : Items where
  set := if items.count = 0 then set else .union items.set set
  count := items.count + 1
  height := max items.height height

/-- The height of a list of items: several of them make up a level of their own. -/
def Items.total (items : Items) : Nat :=
  if items.count ≤ 1 then items.height else items.height + 1

/-- An operation on two lists of items. -/
inductive Operation where
  | inter
  | diff
  | symmDiff

/-- The operation that a pair of equal characters stands for. -/
def Operation.ofPair? (first second : Char) : Option Operation :=
  if first ≠ second then none
  else match first with
    | '&' => some .inter
    | '-' => some .diff
    | '~' => some .symmDiff
    | _ => none

/-- The result of an operation. -/
def Operation.apply : Operation → CharSet → CharSet → CharSet
  | .inter => .inter
  | .diff => .diff
  | .symmDiff => .symmDiff

/-- An operation that waits for its right side. -/
structure Waiting where
  operation : Operation
  left : CharSet
  height : Nat

/-- What was read so far, given the items after the last operation, and its height. If case does
not matter, it does not matter before the operation. -/
def settled (flags : Flags) (waiting : Option Waiting) (items : Items) : CharSet × Nat :=
  match waiting with
  | none => (items.set, items.total)
  | some w =>
    (w.operation.apply (flags.folded w.left) (flags.folded items.set),
      max w.height items.total + 1)

/-- Reads a class that is named by a word between colons, after its opening bracket. -/
def readAsciiClass (flags : Flags) : List Char → Option (CharSet × List Char)
  | ':' :: rest =>
    let (negated, rest) := match rest with
      | '^' :: rest => (true, rest)
      | rest => (false, rest)
    match cut ':' rest with
    | (word, some (']' :: rest)) => (asciiClass? flags negated word).map fun set => (set, rest)
    | _ => none
  | _ => none

/-- Reads a single character or an escape. -/
def readItem (flags : Flags) : List Char → Option (Atom × List Char)
  | [] => none
  | c :: rest => if c = '\\' then readEscape flags rest else some (.char c false, rest)

/-- The character of an atom that is one which may be listed. Without Unicode only ASCII characters
may. -/
def Atom.member? (flags : Flags) : Atom → Option Char
  | .char c _ => if flags.unicode || c.toNat < 0x80 then some c else none
  | _ => none

/-- Reads an item: a class, a character or a stretch of characters. A hyphen makes a stretch
unless a bracket or a hyphen follows. -/
def readRange (flags : Flags) (pattern : List Char) : Option (CharSet × List Char) := do
  let (first, rest) ← readItem flags pattern
  let single : Option (CharSet × List Char) :=
    match first with
    | .set set => some (set, rest)
    | atom => (atom.member? flags).map fun c => (.of c, rest)
  match flags.skip rest with
  | [] => none
  | '-' :: more =>
    let next := flags.skip more
    if next.head? = some ']' ∨ next.head? = some '-' then single
    else
      let (last, rest) ← readItem flags next
      let first ← first.member? flags
      let last ← last.member? flags
      if first ≤ last then return (.between first last, rest) else none
  | _ => single

mutual

/-- Reads a class after its opening bracket. -/
def readBracket (flags : Flags) : (fuel : Nat) → List Char → Option (CharSet × Nat × List Char)
  | 0, _ => none
  | fuel + 1, pattern => do
    let pattern := flags.skip pattern
    let negated := pattern.head? = some '^'
    let pattern := if negated then pattern.drop 1 else pattern
    let (set, height, rest) ← readItems flags fuel true none {} pattern
    let set := flags.folded set
    let set := if negated then flags.complement set else set
    if flags.allows set then return (set, height + 1, rest) else none

/-- Reads items up to the closing bracket. At the start, where `leading` holds, hyphens and a
bracket stand for themselves. -/
def readItems (flags : Flags) : (fuel : Nat) → (leading : Bool) → Option Waiting → Items →
    List Char → Option (CharSet × Nat × List Char)
  | 0, _, _, _, _ => none
  | fuel + 1, leading, waiting, items, pattern =>
    match flags.skip pattern with
    | [] => none
    | c :: rest =>
      if leading && c == '-' then
        readItems flags fuel true waiting (items.push (.of '-') 0) rest
      else if leading && c == ']' && items.count == 0 then
        readItems flags fuel false waiting (items.push (.of ']') 0) rest
      else if c = ']' then
        let (set, height) := settled flags waiting items
        some (set, height, rest)
      else if c = '[' then
        match readAsciiClass flags rest with
        | some (set, rest) =>
          if flags.allows set then readItems flags fuel false waiting (items.push set 0) rest
          else none
        | none =>
          match readBracket flags fuel rest with
          | none => none
          | some (set, height, rest) =>
            readItems flags fuel false waiting (items.push set height) rest
      else
        match rest.head?.bind (Operation.ofPair? c) with
        | some operation =>
          let (left, height) := settled flags waiting items
          readItems flags fuel false (some { operation, left, height }) {} (rest.drop 1)
        | none =>
          match readRange flags (c :: rest) with
          | none => none
          | some (set, rest) => readItems flags fuel false waiting (items.push set 0) rest

end

end StubServer.Regex
