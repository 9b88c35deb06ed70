import StubServer.Regex.Bracket
import StubServer.Regex.Search
import StubServer.Unicode.Category

/-!
# Patterns

The written form of regular expressions. Groups and repetitions nest to a limited height; there
are neither references to groups nor assertions about more than the two characters around a place,
so that searching takes time in proportion to the pattern and the text.

The mutual readers take *fuel*, which they spend on every nested call; three for each character
of the pattern are always enough.

## Main definitions

* `Regex`: a pattern together with the expression that it stands for.
* `Regex.SizeLimit`: how large patterns may be.
* `Regex.compile?`: the regular expression of a pattern, if it is one.
* `Regex.isMatch`: whether a regular expression matches some part of a text.
-/

namespace StubServer

/-- A pattern together with the expression that it stands for. -/
structure Regex where
  /-- The pattern. -/
  source : String
  /-- What it stands for. -/
  expr : Regex.Expr
  deriving DecidableEq, Inhabited

namespace Regex

open Unicode

/-! ### Groups and repetitions -/

/-- What is known at a place of a pattern: the settings, and the names of the groups before it. -/
structure Scope where
  flags : Flags := {}
  names : List (List Char) := []

/-- The characters that are letters or digits in names of groups. -/
def nameCharacters (first : Bool) : Ranges :=
  (lookup? binaryProperties "alphabetic").getD [] ++
    if first then [] else ["nd", "nl", "no"].flatMap category

/-- Whether a character may stand in the name of a group. -/
def isNameCharacter (first : Bool) (c : Char) : Bool :=
  c == '_' || (!first && (c == '.' || c == '[' || c == ']')) || (nameCharacters first).contains c

/-- Whether a text can be the name of a group. -/
def isName : List Char → Bool
  | [] => false
  | c :: rest => isNameCharacter true c && rest.all (isNameCharacter false)

/-- Reads the name of a group up to the closing angle bracket. Names must differ. -/
def readName (scope : Scope) (pattern : List Char) : Option (Scope × List Char) :=
  match cut '>' pattern with
  | (name, some rest) =>
    if isName name && !scope.names.contains name then
      some ({ scope with names := name :: scope.names }, rest)
    else none
  | (_, none) => none

/-- What the opening of a group says. -/
inductive Opening where
  /-- A group follows, read in the given scope. -/
  | group (scope : Scope)
  /-- There is no group, but the settings change. -/
  | change (flags : Flags)

/-- Reads the opening of a group after its parenthesis. -/
def readOpening (scope : Scope) (pattern : List Char) : Option (Opening × List Char) :=
  match scope.flags.skip pattern with
  | '?' :: '=' :: _ | '?' :: '!' :: _ | '?' :: '<' :: '=' :: _ | '?' :: '<' :: '!' :: _ => none
  | '?' :: 'P' :: '<' :: rest | '?' :: '<' :: rest =>
    (readName scope rest).map fun (scope, rest) => (.group scope, rest)
  | '?' :: rest =>
    match readFlags scope.flags [] rest with
    | some (flags, ':', rest) => some (.group { scope with flags }, rest)
    | some (flags, _, rest) => some (.change flags, rest)
    | none => none
  | pattern => some (.group scope, pattern)

/-- The number that decimal digits between blanks stand for, if it fits into 32 bits. -/
def count? (text : List Char) : Option Nat :=
  let digits := trim text
  if digits ≠ [] ∧ digits.all Char.isDigit then
    let n := digits.foldl (fun n c => n * 10 + (c.toNat - '0'.toNat)) 0
    if n < 4294967296 then some n else none
  else none

/-- The numbers of a counted repetition: how often at least, and how often more at most. -/
def counts? (text : List Char) : Option (Nat × Option Nat) :=
  match cut ',' text with
  | (least, none) => (count? least).map fun n => (n, some 0)
  | (least, some []) => (count? least).map fun n => (n, none)
  | (least, some most) => do
    let least ← count? least
    let most ← count? most
    if least ≤ most then return (least, some (most - least)) else none

/-- Reads the operator of a repetition: how often at least, and how often more at most. A question
mark after it says to prefer short matches, which makes no difference to whether there is one. -/
def readRepetition (flags : Flags) (operator : Char) (pattern : List Char) :
    Option ((Nat × Option Nat) × List Char) :=
  let lazily (pattern : List Char) : List Char :=
    if pattern.head? = some '?' then pattern.drop 1 else pattern
  match operator with
  | '?' => some ((0, some 1), lazily pattern)
  | '*' => some ((0, none), lazily pattern)
  | '+' => some ((1, none), lazily pattern)
  | _ => do
    let (text, rest) ← readBraced flags false pattern
    return (← counts? text, lazily (flags.skip rest))

/-! ### Sequences -/

/-- A part of a pattern: an expression and the height of its structure. -/
abbrev Part := Expr × Nat

/-- The part that parts one after the other make up. A change of settings counts as a part that
is nothing. -/
def sequenceOf (parts : List (Option Part)) : Part :=
  match parts with
  | [] => (.empty, 0)
  | [part] => part.getD (.empty, 0)
  | parts =>
    let parts := parts.map fun part => part.getD (.empty, 0)
    (.seqAll (parts.map (·.1)), (parts.map (·.2)).foldl max 0 + 1)

/-- The part that alternatives make up. -/
def choiceOf (parts : List Part) : Part :=
  match parts with
  | [part] => part
  | parts => (.altAll (parts.map (·.1)), (parts.map (·.2)).foldl max 0 + 1)

/-- The expression for a character that stands for itself. -/
def charExpr (flags : Flags) (c : Char) : Expr :=
  if flags.unicode || c.toNat < 0x80 then .chars (flags.folded (.of c)) else .chars (.of c)

/-- The expression of an atom. Without Unicode, a byte beyond ASCII is no character. -/
def Atom.expr? (flags : Flags) : Atom → Option Expr
  | .char c byte =>
    if byte && !flags.unicode && 0x80 ≤ c.toNat then none else some (charExpr flags c)
  | .set s => some (.chars s)
  | .look l => some (.look l)

/-- The expression for a dot, which needs Unicode. -/
def dotExpr? (flags : Flags) : Option Expr :=
  if !flags.unicode then none
  else if flags.dotNewline then some (.chars flags.everything)
  else if flags.carriage then
    some (.chars (.compl (.ranges [('\n'.toNat, '\n'.toNat), ('\r'.toNat, '\r'.toNat)])))
  else some (.chars (.compl (.of '\n')))

/-- Reads a single character, an escape, a dot or an assertion. -/
def readSingle (flags : Flags) (c : Char) (rest : List Char) : Option (Expr × List Char) :=
  match c with
  | '\\' => do
    let (atom, rest) ← readEscape flags rest
    return (← atom.expr? flags, rest)
  | '.' => (dotExpr? flags).map fun e => (e, rest)
  | '^' => some (.look (if flags.multiLine then .lineStart flags.carriage else .textStart), rest)
  | '$' => some (.look (if flags.multiLine then .lineEnd flags.carriage else .textEnd), rest)
  | c => some (charExpr flags c, rest)

/-- The characters that repeat what stands before them. -/
def repetitionOperators : List Char := ['?', '*', '+', '\x7b']

mutual

/-- Reads alternatives up to the end of the pattern or of the group around them. -/
def readChoice : (fuel : Nat) → Scope → (done : List Part) → List Char →
    Option (Part × Scope × List Char)
  | 0, _, _, _ => none
  | fuel + 1, scope, done, pattern =>
    match readSequence fuel scope [] pattern with
    | none => none
    | some (part, scope, '|' :: rest) => readChoice fuel scope (part :: done) rest
    | some (part, scope, rest) => some (choiceOf (part :: done).reverse, scope, rest)

/-- Reads parts one after the other, up to the end of the alternative. -/
def readSequence : (fuel : Nat) → Scope → (done : List (Option Part)) → List Char →
    Option (Part × Scope × List Char)
  | 0, _, _, _ => none
  | fuel + 1, scope, done, pattern =>
    match scope.flags.skip pattern with
    | [] => some (sequenceOf done.reverse, scope, [])
    | c :: rest =>
      if c = ')' ∨ c = '|' then some (sequenceOf done.reverse, scope, c :: rest)
      else if c = '(' then
        match readGroup fuel scope rest with
        | none => none
        | some (part, scope, rest) => readSequence fuel scope (part :: done) rest
      else if c = '[' then
        match readBracket scope.flags fuel rest with
        | none => none
        | some (set, height, rest) =>
          readSequence fuel scope (some (.chars set, height) :: done) rest
      else if repetitionOperators.contains c then
        match done with
        | some (e, height) :: done =>
          match readRepetition scope.flags c rest with
          | none => none
          | some ((least, extra), rest) =>
            readSequence fuel scope (some (.rep least extra e, height + 1) :: done) rest
        | _ => none
      else
        match readSingle scope.flags c rest with
        | none => none
        | some (e, rest) => readSequence fuel scope (some (e, 0) :: done) rest

/-- Reads a group after its opening parenthesis. The settings inside end with it. -/
def readGroup : (fuel : Nat) → Scope → List Char → Option (Option Part × Scope × List Char)
  | 0, _, _ => none
  | fuel + 1, scope, pattern =>
    match readOpening scope pattern with
    | none => none
    | some (.change flags, rest) => some (none, { scope with flags }, rest)
    | some (.group inside, rest) =>
      match readChoice fuel inside [] rest with
      | some ((e, height), inside, ')' :: rest) =>
        some (some (e, height + 1), { inside with flags := scope.flags }, rest)
      | _ => none

end

/-! ### Whole patterns -/

/-- How high the structure of a pattern may be. -/
def heightLimit : Nat := 250

/-- How large patterns may be. A pattern that takes too much room when it is prepared for matching is refused. -/
class SizeLimit where
  /-- Whether a pattern that stands for an expression is small enough. -/
  allows : (pattern : List Char) → Expr → Bool

/-- Where no other limit is given, what a pattern takes is estimated from its expression. The server runs with this
estimate. -/
instance (priority := low) SizeLimit.estimate : SizeLimit where
  allows _ e := e.weight ≤ Expr.weightLimit

/-- The expression that a pattern stands for. -/
def parse? [SizeLimit] (pattern : List Char) : Option Expr :=
  match readChoice (3 * (pattern.length + 1)) {} [] pattern with
  | some ((e, height), _, []) =>
    if height ≤ heightLimit ∧ SizeLimit.allows pattern e then some e else none
  | _ => none

/-- The regular expression of a pattern, if it is one. -/
def compile? [SizeLimit] (source : String) : Option Regex :=
  (parse? source.toList).map fun expr => { source, expr }

/-- Whether a regular expression matches some part of a text. -/
def isMatch (regex : Regex) (text : String) : Bool :=
  regex.expr.isMatch text.toList

end Regex

end StubServer
