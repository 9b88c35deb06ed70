import StubServer.Json.Lexeme
import StubServer.JsonPath.Basic

/-!
# Reading JSON paths

The written form of queries. Blanks may stand between the parts of a query and inside brackets,
but not at its ends. Functions must be given what they are for: their number of arguments and the
kind of each are part of the grammar.

The mutual readers take *fuel*, which they spend on every nested call; eight for each character
are always enough.

## Main definitions

* `JsonPath.parse?`: the query that a text is.
-/

namespace StubServer.JsonPath

open Json (skipSpace hex? pairChar)

/-! ### Names, numbers and texts -/

/-- Whether a character may start a name after a dot. -/
def isNameStart (c : Char) : Bool :=
  c.isAlpha || c == '_' || 0x80 ≤ c.toNat

/-- Whether a character may go on a name after a dot. -/
def isNameMore (c : Char) : Bool :=
  isNameStart c || c.isDigit

/-- Reads a name after a dot. -/
def readName : List Char → Option (String × List Char)
  | [] => none
  | c :: rest =>
    if isNameStart c then
      some (.ofList (c :: rest.takeWhile isNameMore), rest.dropWhile isNameMore)
    else none

/-- The greatest integer that may be written, up to its sign. -/
def intMax : Nat := 9007199254740991

/-- Reads the digits of an integer. -/
def readNatural : List Char → Option (Nat × List Char)
  | [] => none
  | c :: rest =>
    if c = '0' then some (0, rest)
    else if c.isDigit then
      let digits := c :: rest.takeWhile Char.isDigit
      let n := digits.foldl (fun n d => n * 10 + (d.toNat - '0'.toNat)) 0
      if n ≤ intMax then some (n, rest.dropWhile Char.isDigit) else none
    else none

/-- Reads an integer, which has no leading zeros; zero has no sign. -/
def readInt : List Char → Option (Int × List Char)
  | '-' :: rest =>
    match readNatural rest with
    | some (0, _) | none => none
    | some (n, rest) => some (-(n : Int), rest)
  | text => (readNatural text).map fun (n, rest) => ((n : Int), rest)

/-- Reads an integer, if there is one. -/
def readInt? (text : List Char) : Option Int × List Char :=
  match readInt text with
  | some (i, rest) => (some i, rest)
  | none => (none, text)

/-- The number that four digits of base 16 stand for, the first of them a digit or a capital. -/
def unit? (a b c d : Char) : Option Nat :=
  if a.isLower then none else hex? a b c d

/-- The character that a letter after a backslash stands for, in a text between the given
quotes. -/
def escape? (quote : Char) : Char → Option Char
  | 'b' => some '\x08'
  | 'f' => some '\x0c'
  | 'n' => some '\n'
  | 'r' => some '\r'
  | 't' => some '\t'
  | c => if c = '/' ∨ c = '\\' ∨ c = quote then some c else none

/-- Reads a text after its opening quote. -/
def readText (quote : Char) : List Char → Option (List Char × List Char)
  | '\\' :: 'u' :: a :: b :: c :: d :: rest =>
    match unit? a b c d with
    | none => none
    | some n =>
      if n < 0xD800 ∨ 0xE000 ≤ n then
        (readText quote rest).map fun r => (Char.ofNat n :: r.1, r.2)
      else
        match rest with
        | '\\' :: 'u' :: e :: f :: g :: h :: more =>
          match unit? e f g h with
          | none => none
          | some m =>
            if n < 0xDC00 ∧ 0xDC00 ≤ m ∧ m < 0xE000 then
              (readText quote more).map fun r => (pairChar n m :: r.1, r.2)
            else none
        | _ => none
  | '\\' :: c :: rest =>
    match escape? quote c with
    | some c => (readText quote rest).map fun r => (c :: r.1, r.2)
    | none => none
  | c :: rest =>
    if c = quote then some ([], rest)
    else if c < ' ' ∨ c = '\\' then none
    else (readText quote rest).map fun r => (c :: r.1, r.2)
  | [] => none

/-- The rest of a text after a word that it starts with. -/
def after? (word : List Char) (text : List Char) : Option (List Char) :=
  if word.isPrefixOf text then some (text.drop word.length) else none

/-- Reads a literal value: a text, a number or one of the three words. -/
def readLiteral (text : List Char) : Option (Json × List Char) :=
  match text with
  | [] => none
  | c :: rest =>
    if c = '"' ∨ c = '\'' then (readText c rest).map fun (s, rest) => (.string (.ofList s), rest)
    else if c = '-' ∨ c.isDigit then
      match if c = '-' then Json.readNumber true rest else Json.readNumber false text with
      | .ok (n, rest) => some (.number n, rest)
      | .error _ => none
    else
      ((after? "true".toList text).map fun rest => (Json.bool true, rest)) <|>
      ((after? "false".toList text).map fun rest => (Json.bool false, rest)) <|>
      ((after? "null".toList text).map fun rest => (Json.null, rest))

/-- Reads the sign of a comparison. -/
def readComparison : List Char → Option (Comparison × List Char)
  | '=' :: '=' :: rest => some (.equal, rest)
  | '!' :: '=' :: rest => some (.unequal, rest)
  | '<' :: '=' :: rest => some (.lessOrEqual, rest)
  | '>' :: '=' :: rest => some (.greaterOrEqual, rest)
  | '<' :: rest => some (.less, rest)
  | '>' :: rest => some (.greater, rest)
  | _ => none

/-- Reads the name of a function and the parenthesis after it. -/
def readFunction (text : List Char) : Option (String × List Char) :=
  let isMore (c : Char) : Bool := c.isLower || c == '_' || c.isDigit
  match text.dropWhile isMore with
  | '(' :: rest =>
    if (text.head?.any Char.isLower) then some (.ofList (text.takeWhile isMore), rest) else none
  | _ => none

/-- Reads the parenthesis that closes a list of arguments. -/
def closing (text : List Char) : Option (List Char) :=
  after? [')'] (skipSpace text)

/-- Reads the comma between arguments, with the blanks around it. -/
def comma (text : List Char) : Option (List Char) :=
  (after? [','] (skipSpace text)).map skipSpace

/-- Reads an index or a slice. -/
def readIndexOrSlice (text : List Char) : Option (Selector × List Char) :=
  let (start, rest) := readInt? text
  match skipSpace rest with
  | ':' :: more =>
    let (stop, more) := readInt? (skipSpace more)
    match skipSpace more with
    | ':' :: last =>
      let (step, last) := readInt? (skipSpace last)
      some (.slice { start, stop, step := step.getD 1 }, last)
    | more => some (.slice { start, stop, step := 1 }, more)
  | _ => start.map fun i => (.item i, rest)

/-! ### Queries -/

mutual

/-- Reads the segments of a query, with blanks before each but not after the last. -/
def readSegments : (fuel : Nat) → List Char → Option (List Segment × List Char)
  | 0, _ => none
  | fuel + 1, text =>
    let next : Option (Option (Segment × List Char)) :=
      match skipSpace text with
      | '.' :: '.' :: '*' :: rest => some (some (.select true [.all], rest))
      | '.' :: '.' :: '[' :: rest =>
        some ((readSelectors fuel (skipSpace rest)).map fun (s, rest) => (.select true s, rest))
      | '.' :: '.' :: rest =>
        some ((readName rest).map fun (name, rest) => (.select true [.member name], rest))
      | '.' :: '*' :: rest => some (some (.select false [.all], rest))
      | '.' :: rest =>
        some ((readName rest).map fun (name, rest) => (.select false [.member name], rest))
      | '[' :: rest =>
        some ((readSelectors fuel (skipSpace rest)).map fun (s, rest) => (.select false s, rest))
      | _ => none
    match next with
    | none => some ([], text)
    | some none => none
    | some (some (segment, rest)) =>
      (readSegments fuel rest).map fun (segments, rest) => (segment :: segments, rest)

/-- Reads selectors between commas, and the bracket after them. -/
def readSelectors : (fuel : Nat) → List Char → Option (List Selector × List Char)
  | 0, _ => none
  | fuel + 1, text =>
    match readSelector fuel text with
    | none => none
    | some (selector, rest) =>
      match skipSpace rest with
      | ',' :: rest =>
        (readSelectors fuel (skipSpace rest)).map fun (s, rest) => (selector :: s, rest)
      | ']' :: rest => some ([selector], rest)
      | _ => none

/-- Reads a selector. -/
def readSelector : (fuel : Nat) → List Char → Option (Selector × List Char)
  | 0, _ => none
  | fuel + 1, text =>
    match text with
    | [] => none
    | c :: rest =>
      if c = '*' then some (.all, rest)
      else if c = '"' ∨ c = '\'' then
        (readText c rest).map fun (name, rest) => (.member (.ofList name), rest)
      else if c = '?' then
        (readTest fuel (skipSpace rest)).map fun (test, rest) => (.filter test, rest)
      else readIndexOrSlice text

/-- Reads a query inside a filter. -/
def readQuery : (fuel : Nat) → List Char → Option (Query × List Char)
  | 0, _ => none
  | fuel + 1, text =>
    match text with
    | '$' :: rest => (readSegments fuel rest).map fun (s, rest) => (.path true s, rest)
    | '@' :: rest => (readSegments fuel rest).map fun (s, rest) => (.path false s, rest)
    | _ => none

/-- Reads a condition: alternatives. -/
def readTest : (fuel : Nat) → List Char → Option (Test × List Char)
  | 0, _ => none
  | fuel + 1, text =>
    match readConjunction fuel text with
    | none => none
    | some (test, rest) =>
      match after? ['|', '|'] (skipSpace rest) with
      | none => some (test, rest)
      | some more => (readTest fuel (skipSpace more)).map fun (other, rest) => (.or test other, rest)

/-- Reads conditions of which all must hold. -/
def readConjunction : (fuel : Nat) → List Char → Option (Test × List Char)
  | 0, _ => none
  | fuel + 1, text =>
    match readCondition fuel text with
    | none => none
    | some (test, rest) =>
      match after? ['&', '&'] (skipSpace rest) with
      | none => some (test, rest)
      | some more =>
        (readConjunction fuel (skipSpace more)).map fun (other, rest) => (.and test other, rest)

/-- Reads a single condition. An exclamation mark may stand before what is in parentheses, asks for
existence or calls a function, but not before a comparison. -/
def readCondition : (fuel : Nat) → List Char → Option (Test × List Char)
  | 0, _ => none
  | fuel + 1, text =>
    match text with
    | '!' :: rest =>
      let rest := skipSpace rest
      let negated : Option (Test × List Char) :=
        match rest with
        | '(' :: rest => readParenthesized fuel rest
        | _ => readPlain fuel rest
      negated.map fun (test, rest) => (.not test, rest)
    | '(' :: rest => readParenthesized fuel rest
    | _ =>
      match readCompared fuel text with
      | some r => some r
      | none => readPlain fuel text

/-- Reads a condition and the parenthesis after it. -/
def readParenthesized : (fuel : Nat) → List Char → Option (Test × List Char)
  | 0, _ => none
  | fuel + 1, text => do
    let (test, rest) ← readTest fuel (skipSpace text)
    return (test, ← closing rest)

/-- Reads a comparison. -/
def readCompared : (fuel : Nat) → List Char → Option (Test × List Char)
  | 0, _ => none
  | fuel + 1, text => do
    let (a, rest) ← readOperand fuel text
    let (comparison, rest) ← readComparison (skipSpace rest)
    let (b, rest) ← readOperand fuel (skipSpace rest)
    return (.compare comparison a b, rest)

/-- Reads a condition that a query or a function is by itself. -/
def readPlain : (fuel : Nat) → List Char → Option (Test × List Char)
  | 0, _ => none
  | fuel + 1, text =>
    match readQuery fuel text with
    | some (query, rest) => some (.exist query, rest)
    | none => do
      let (name, rest) ← readFunction text
      let whole ← if name = "match" then some true
        else if name = "search" then some false
        else none
      let (a, rest) ← readOperand fuel (skipSpace rest)
      let (b, rest) ← readOperand fuel (← comma rest)
      return (.matches whole a b, ← closing rest)

/-- Reads something that is at most one value. -/
def readOperand : (fuel : Nat) → List Char → Option (Operand × List Char)
  | 0, _ => none
  | fuel + 1, text =>
    match readLiteral text with
    | some (value, rest) => some (.literal value, rest)
    | none =>
      match readQuery fuel text with
      | some (query, rest) => if query.isSingular then some (.only query, rest) else none
      | none => do
        let (name, rest) ← readFunction text
        let rest := skipSpace rest
        if name = "length" then
          let (a, rest) ← readOperand fuel rest
          return (.length a, ← closing rest)
        else if name = "count" then
          let (query, rest) ← readQuery fuel rest
          return (.count query, ← closing rest)
        else if name = "value" then
          let (query, rest) ← readQuery fuel rest
          return (.value query, ← closing rest)
        else none

end

/-- The query that a text is. It starts at the root. -/
def parse? (s : String) : Option Query :=
  match s.toList with
  | '$' :: rest =>
    match readSegments (8 * (rest.length + 1)) rest with
    | some (segments, []) => some (.path true segments)
    | _ => none
  | _ => none

end StubServer.JsonPath
