import StubServer.Regex.Class
import StubServer.Text.Hex

/-!
# Escapes in patterns

What may follow a backslash in a pattern, and the literal form of a text, in which everything that
could mean something is escaped.

## Main definitions

* `Regex.literal`: the pattern for a text itself.
* `Regex.Atom`: what an escape stands for.
* `Regex.readEscape`: reads an escape after its backslash.
-/

namespace StubServer.Regex

/-! ### Literals -/

/-- The characters that mean something in patterns or might do so. -/
def metaCharacters : List Char :=
  ['\\', '.', '+', '*', '?', '(', ')', '|', '[', ']', '\x7b', '\x7d', '^', '$', '#', '&', '-', '~']

/-- The pattern for a text itself. -/
def literal (text : List Char) : List Char :=
  text.flatMap fun c => if metaCharacters.contains c then ['\\', c] else [c]

/-- Whether a character may be escaped to stand for itself: any ASCII character other than letters,
digits and angle brackets. -/
def isEscapable (c : Char) : Bool :=
  c.toNat < 0x80 && !c.isAlphanum && c != '<' && c != '>'

/-! ### Escapes -/

/-- What an escape stands for. -/
inductive Atom where
  /-- A character; `byte` tells whether it is written as two digits of base 16. -/
  | char (c : Char) (byte : Bool)
  | set (set : CharSet)
  | look (look : Look)

/-- The character that stands for itself after a backslash, or for a control character. -/
def plainEscape? (c : Char) : Option Char :=
  if isEscapable c then some c
  else match c with
    | 'a' => some '\x07'
    | 'f' => some '\x0c'
    | 't' => some '\t'
    | 'n' => some '\n'
    | 'r' => some '\r'
    | 'v' => some '\x0b'
    | _ => none

/-- The number that digits of base 16 stand for. -/
def hexNumber? (digits : List Char) : Option Nat :=
  digits.foldlM (fun n c => (hexDigit? c).map (n * 16 + ·)) 0

/-- The character with the given number, if there is one. -/
def scalar? (n : Nat) : Option Char :=
  if n.isValidChar then some (Char.ofNat n) else none

/-- Reads the given number of digits of base 16. -/
def readHexDigits (flags : Flags) : (count : Nat) → List Char → Option (List Char × List Char)
  | 0, pattern => some ([], pattern)
  | count + 1, pattern =>
    match flags.skip pattern with
    | [] => none
    | c :: rest =>
      if (hexDigit? c).isSome then
        (readHexDigits flags count rest).map fun r => (c :: r.1, r.2)
      else none

/-- Reads the number of a character: digits in braces, or as many digits as the letter before
them asks for. -/
def readCodePoint (flags : Flags) (count : Nat) (pattern : List Char) :
    Option (Atom × List Char) :=
  match flags.skip pattern with
  | '\x7b' :: rest => do
    let (digits, rest) ← readBraced flags false rest
    if digits = [] then none
    else return (.char (← (hexNumber? digits).bind scalar?) false, rest)
  | _ => do
    let (digits, rest) ← readHexDigits flags count pattern
    return (.char (← (hexNumber? digits).bind scalar?) (count = 2), rest)

/-- Reads the name of a property, in braces or as a single character. -/
def readProperty (flags : Flags) (negated : Bool) (pattern : List Char) :
    Option (Atom × List Char) :=
  match flags.skip pattern with
  | [] => none
  | '\x7b' :: rest => do
    let (name, rest) ← readBraced flags false rest
    return (.set (← property? flags negated name), rest)
  | c :: rest =>
    if c = '\\' then none
    else (propertyClass? flags negated (propertyByName? (.ofList (normalName [c])))).map fun set =>
      (.set set, rest)

/-- The words that name assertions about words, in the braces after a word boundary. -/
def namedBoundary? (words : Words) (name : List Char) : Option Look :=
  if name = "start".toList then some (.wordStart words)
  else if name = "end".toList then some (.wordEnd words)
  else if name = "start-half".toList then some (.wordStartHalf words)
  else if name = "end-half".toList then some (.wordEndHalf words)
  else none

/-- Reads what may follow the letter of a word boundary. Braces that start with neither a letter
nor a hyphen are left for a repetition. -/
def readBoundary (flags : Flags) (words : Words) (pattern : List Char) :
    Option (Atom × List Char) :=
  match pattern with
  | '\x7b' :: rest =>
    match flags.skip rest with
    | [] => none
    | c :: _ =>
      if c.isAlpha || c == '-' then do
        let (name, rest) ← readBraced flags false rest
        return (.look (← namedBoundary? words name), rest)
      else some (.look (.wordBoundary words), pattern)
  | _ => some (.look (.wordBoundary words), pattern)

/-- Reads an escape after its backslash. -/
def readEscape (flags : Flags) : List Char → Option (Atom × List Char)
  | [] => none
  | c :: rest =>
    let words : Words := if flags.unicode then .unicode else .ascii
    match c with
    | 'x' => readCodePoint flags 2 rest
    | 'u' => readCodePoint flags 4 rest
    | 'U' => readCodePoint flags 8 rest
    | 'p' => readProperty flags false rest
    | 'P' => readProperty flags true rest
    | 'A' => some (.look .textStart, rest)
    | 'z' => some (.look .textEnd, rest)
    | 'b' => readBoundary flags words rest
    | 'B' => some (.look (.notWordBoundary words), rest)
    | '<' => some (.look (.wordStart words), rest)
    | '>' => some (.look (.wordEnd words), rest)
    | c =>
      match letterClass? flags c with
      | some set => some (.set set, rest)
      | none => (plainEscape? c).map fun c => (.char c false, rest)

end StubServer.Regex
