import StubServer.Yaml.Scalar

/-!
# The words of a YAML text

A YAML text is read in two steps. First it is cut into tokens; where the layout opens or closes a
list or a mapping, a token is put in for that. Then the tokens are put together to nodes.

## Main definitions

* `Token`: the tokens.
* `Token.readAnchor`, `Token.readTag`, `Token.readDirective`: the readers of names, tags and
  directives.
-/

namespace StubServer.Yaml

/-- A word of a YAML text. -/
inductive Token where
  /-- The version that a document is written for. -/
  | version (major minor : Nat)
  /-- What the handle of a tag stands for. -/
  | tagHandle (name meaning : String)
  | documentStart
  | documentEnd
  /-- A list begins that is laid out by indentation. -/
  | blockSequence
  /-- A mapping begins that is laid out by indentation. -/
  | blockMapping
  /-- A list or mapping that is laid out by indentation ends. -/
  | blockEnd
  | flowSequence
  | flowSequenceEnd
  | flowMapping
  | flowMappingEnd
  /-- The dash before an item. -/
  | item
  /-- The comma between items. -/
  | comma
  /-- A key follows. -/
  | key
  /-- A value follows. -/
  | value
  | reference (name : String)
  | anchor (name : String)
  /-- A tag, by its handle and the text after it. -/
  | tag (handle suffix : String)
  | scalar (style : Style) (text : String)
  deriving DecidableEq

namespace Token

/-! ### Names -/

/-- Reads the name of an anchor, after its mark. -/
def readAnchor (cursor : Cursor) : Option (String × Cursor) :=
  let (name, cursor) := cursor.takeWhile isNameChar
  if name.isEmpty then none
  else if endsWord cursor.rest || startsWith ("?:,]\x7d%@\x60".toList.contains ·) cursor.rest then
    some (.ofList name, cursor)
  else none

/-! ### Tags -/

/-- Whether a character may stand in a tag. Some more may between angle brackets. -/
def isTagChar (bracketed : Bool) (c : Char) : Bool :=
  isNameChar c || ";/?:@&=+$.!~*'()".toList.contains c || (bracketed && ",[]".toList.contains c)

/-- How many bytes a character has whose first byte is given, or nothing if no character begins
so. -/
def byteCount? (first : Nat) : Option Nat :=
  if first < 0x80 then some 1
  else if 0xC0 ≤ first ∧ first < 0xE0 then some 2
  else if 0xE0 ≤ first ∧ first < 0xF0 then some 3
  else if 0xF0 ≤ first ∧ first < 0xF8 then some 4
  else none

/-- Reads the characters of a tag, where a percent sign and two digits stand for a byte. `owed` bytes
of a character are still to come; a character of several bytes is read as U+FFFD, since no tag that
is looked for has one. -/
def tagText (bracketed : Bool) : Nat → List Char → Option (List Char × List Char)
  | owed, '%' :: a :: b :: rest => do
    let byte := 16 * (← hexDigit? a) + (← hexDigit? b)
    match owed with
    | 0 =>
      let count ← byteCount? byte
      let (text, rest) ← tagText bracketed (count - 1) rest
      return ((if count = 1 then Char.ofNat byte else '\ufffd') :: text, rest)
    | owed + 1 =>
      if 0x80 ≤ byte ∧ byte < 0xC0 then tagText bracketed owed rest else none
  | 0, c :: rest =>
    if isTagChar bracketed c then (tagText bracketed 0 rest).map fun (text, end_) => (c :: text, end_)
    else if c == '%' then none
    else some ([], c :: rest)
  | 0, [] => some ([], [])
  | _ + 1, _ => none

/-- Reads the text of a tag. -/
def readTagText (bracketed : Bool) (cursor : Cursor) : Option (List Char × Cursor) := do
  let (text, rest) ← tagText bracketed 0 cursor.rest
  return (text, cursor.moveTo rest)

/-- Reads an exclamation mark, the name after it, and the exclamation mark after that if there is
one. -/
def readHandle (cursor : Cursor) : Option (List Char × Cursor) :=
  if startsWith (· == '!') cursor.rest then
    let (name, cursor) := (cursor.move 1).takeWhile isNameChar
    if startsWith (· == '!') cursor.rest then some ('!' :: name ++ ['!'], cursor.move 1)
    else some ('!' :: name, cursor)
  else none

/-- Whether a handle is closed by an exclamation mark of its own. -/
def isClosedHandle (handle : List Char) : Bool :=
  1 < handle.length && handle.getLast? == some '!'

/-- Reads a tag: in angle brackets, after a handle, or after a single exclamation mark. An
exclamation mark alone is a tag without a handle. -/
def tagToken (cursor : Cursor) : Option (Token × Cursor) :=
  match cursor.rest with
  | '!' :: '<' :: _ => do
    let (text, cursor) ← readTagText true (cursor.move 2)
    if text.isEmpty || !startsWith (· == '>') cursor.rest then none
    else some (.tag "" (.ofList text), cursor.move 1)
  | _ => do
    let (handle, cursor) ← readHandle cursor
    let (text, cursor) ← readTagText false cursor
    if isClosedHandle handle then
      if text.isEmpty then none else some (.tag (.ofList handle) (.ofList text), cursor)
    else
      let text := handle.drop 1 ++ text
      some (if text.isEmpty then .tag "" "!" else .tag "!" (.ofList text), cursor)

/-- Reads a tag, after which a word has to end. -/
def readTag (inBrackets : Bool) (cursor : Cursor) : Option (Token × Cursor) := do
  let (token, cursor) ← tagToken cursor
  if endsWord cursor.rest || (inBrackets && startsWith (· == ',') cursor.rest) then
    some (token, cursor)
  else none

/-! ### Directives -/

/-- Reads a part of a version, of at most nine digits. -/
def readVersionPart (cursor : Cursor) : Option (Nat × Cursor) :=
  let (digits, cursor) := cursor.takeWhile Char.isDigit
  if digits.isEmpty || 9 < digits.length then none
  else some (digits.foldl (fun n c => 10 * n + (c.toNat - '0'.toNat)) 0, cursor)

/-- Reads what follows the name of a directive: a version, or a handle and what it stands for. -/
def readDirectiveValue (name : String) (cursor : Cursor) : Option (Token × Cursor) := do
  let cursor := cursor.skipWhile isSpace
  match name with
  | "YAML" =>
    let (major, cursor) ← readVersionPart cursor
    if !startsWith (· == '.') cursor.rest then none
    let (minor, cursor) ← readVersionPart (cursor.move 1)
    return (.version major minor, cursor)
  | "TAG" =>
    let (handle, cursor) ← readHandle cursor
    if !(isClosedHandle handle || handle.length == 1) || !startsWith isSpace cursor.rest then none
    let (text, cursor) ← readTagText true (cursor.skipWhile isSpace)
    if text.isEmpty || !endsWord cursor.rest then none
    return (.tagHandle (.ofList handle) (.ofList text), cursor)
  | _ => none

/-- Reads a directive with the rest of its line. -/
def readDirective (cursor : Cursor) : Option (Token × Cursor) := do
  let (name, cursor) := (cursor.move 1).takeWhile isNameChar
  if name.isEmpty || !endsWord cursor.rest then none
  let (token, cursor) ← readDirectiveValue (.ofList name) cursor
  return (token, ← cursor.restOfLine?)

end Token

end StubServer.Yaml
