import StubServer.Yaml.Token.Basic

/-!
# Cutting a YAML text into tokens

Outside of brackets the layout says where lists and mappings begin and end: what stands further right
than what holds it opens a level of indentation, and what stands further left closes it.

That a scalar is a key is only seen at the colon after it. So every token that could begin a key is
remembered, and at the colon the token `Token.key` is put in before it. A key of this kind has to
fit on one line, within 1024 characters.

## Main definitions

* `Scan`: what is known in the middle of a text.
* `Scan.step`: reads the next token.
* `Token.ofText?`: the tokens of a text.
-/

namespace StubServer.Yaml

/-- A token that could begin a key. -/
structure PossibleKey where
  /-- The number of tokens before it. -/
  position : Nat
  index : Nat
  line : Nat
  column : Nat
  /-- Whether it must be a key, because it stands where only keys may. -/
  required : Bool

/-- What is known in the middle of a text. -/
structure Scan where
  cursor : Cursor
  /-- The tokens so far, the last one first. -/
  tokens : List Token := []
  /-- The columns of the open levels of indentation, the innermost one first. -/
  indents : List Nat := []
  /-- Whether a key may begin here. -/
  keyAllowed : Bool := true
  /-- What could begin a key at this level of brackets. -/
  key : Option PossibleKey := none
  /-- The same for the outer levels of brackets. -/
  outerKeys : List (Option PossibleKey) := []

namespace Scan

/-- Whether this place is inside brackets. -/
def inBrackets (scan : Scan) : Bool :=
  !scan.outerKeys.isEmpty

/-- Adds a token. -/
def push (token : Token) (scan : Scan) : Scan :=
  { scan with tokens := token :: scan.tokens }

/-- Adds a token and goes on. -/
def emit (token : Token) (cursor : Cursor) (scan : Scan) : Scan :=
  { scan.push token with cursor }

/-- Adds a token of the given number of characters. -/
def mark (token : Token) (size : Nat) (scan : Scan) : Scan :=
  scan.emit token (scan.cursor.move size)

/-- Puts a token in behind the given number of tokens. -/
def putIn (position : Nat) (token : Token) (scan : Scan) : Scan :=
  { scan with tokens := scan.tokens.insertIdx (scan.tokens.length - position) token }

/-- Allows or forbids a key to begin here. -/
def allowKey (keyAllowed : Bool) (scan : Scan) : Scan :=
  { scan with keyAllowed }

/-! ### Indentation -/

/-- Whether a column is further right than the innermost level. -/
def isDeeper (column : Nat) : List Nat → Bool
  | [] => true
  | indent :: _ => indent < column

/-- Opens a level at a column that is further right, with a token behind the given number of
tokens. Inside brackets there are no levels. -/
def openLevel (column position : Nat) (token : Token) (scan : Scan) : Scan :=
  if !scan.inBrackets && isDeeper column scan.indents then
    { scan.putIn position token with indents := column :: scan.indents }
  else scan

/-- Closes the levels of a list that a place is left of; at the end there is no place. -/
def closeLevelsOf (column : Option Nat) : List Nat → Scan → Scan
  | [], scan => { scan with indents := [] }
  | indent :: outer, scan =>
    if column.all (· < indent) then closeLevelsOf column outer (scan.push .blockEnd)
    else { scan with indents := indent :: outer }

/-- Closes the levels that a place is left of. Inside brackets there are none to close. -/
def closeLevels (column : Option Nat) (scan : Scan) : Scan :=
  if scan.inBrackets then scan else closeLevelsOf column scan.indents scan

/-! ### Keys -/

/-- Gives up that something begins a key. -/
def abandon : Option PossibleKey → Option (Option PossibleKey)
  | some key => if key.required then none else some none
  | none => some none

/-- Gives up on what could begin a key at this level. -/
def abandonKey (scan : Scan) : Option Scan := do
  return { scan with key := ← abandon scan.key }

/-- Whether a key that began somewhere can still end here. -/
def PossibleKey.isStale (cursor : Cursor) (key : PossibleKey) : Bool :=
  key.line < cursor.line || key.index + 1024 < cursor.index

/-- Gives up on a key that would be too long. -/
def abandonStale (cursor : Cursor) : Option PossibleKey → Option (Option PossibleKey)
  | some key => if PossibleKey.isStale cursor key then abandon (some key) else some (some key)
  | none => some none

/-- Gives up on the keys that would be too long. -/
def abandonStaleKeys (scan : Scan) : Option Scan := do
  return { scan with
    key := ← abandonStale scan.cursor scan.key
    outerKeys := ← scan.outerKeys.mapM (abandonStale scan.cursor) }

/-- Remembers that the next token could begin a key. -/
def rememberKey (scan : Scan) : Option Scan :=
  if scan.keyAllowed then do
    let cursor := scan.cursor
    let required := !scan.inBrackets && scan.indents.head? == some cursor.column
    let scan ← scan.abandonKey
    return { scan with key := some {
      position := scan.tokens.length, index := cursor.index, line := cursor.line
      column := cursor.column, required } }
  else some scan

/-! ### Blanks -/

/-- Goes on to the next token, over blanks, comments and line ends. Where a key may begin, a tab is no
blank. -/
def skipBlanks : Nat → Scan → Scan
  | 0, scan => scan
  | fuel + 1, scan =>
    let cursor := scan.cursor
    let cursor := if cursor.index == 0 && startsWith (· == '\ufeff') cursor.rest then
      cursor.move 1 else cursor
    let cursor := cursor.skipWhile fun c =>
      c == ' ' || ((scan.inBrackets || !scan.keyAllowed) && c == '\t')
    let cursor := if startsWith (· == '#') cursor.rest then
      cursor.skipWhile (!isBreak ·) else cursor
    if startsWith isBreak cursor.rest then
      skipBlanks fuel { scan with
        cursor := cursor.skipBreak, keyAllowed := scan.keyAllowed || !scan.inBrackets }
    else { scan with cursor }

/-! ### Tokens -/

/-- A mark between documents. It closes all levels. -/
def documentMark (token : Token) (scan : Scan) : Option Scan := do
  let scan ← (scan.closeLevels none).abandonKey
  return (scan.mark token 3).allowKey false

/-- A directive before a document. -/
def directive (scan : Scan) : Option Scan := do
  let scan ← (scan.closeLevels none).abandonKey
  let (token, cursor) ← Token.readDirective scan.cursor
  return (scan.emit token cursor).allowKey false

/-- An opening bracket. It could begin a key. -/
def openBracket (token : Token) (scan : Scan) : Option Scan := do
  let scan ← scan.rememberKey
  let scan := { scan with key := none, outerKeys := scan.key :: scan.outerKeys }
  return (scan.mark token 1).allowKey true

/-- A closing bracket. -/
def closeBracket (token : Token) (scan : Scan) : Option Scan := do
  let scan ← scan.abandonKey
  let scan := match scan.outerKeys with
    | key :: outerKeys => { scan with key, outerKeys }
    | [] => scan
  return (scan.mark token 1).allowKey false

/-- A comma between brackets. -/
def comma (scan : Scan) : Option Scan := do
  return ((← scan.abandonKey).mark .comma 1).allowKey true

/-- A dash before an item. It opens a list if it is further right than what holds it. -/
def item (scan : Scan) : Option Scan := do
  if !scan.inBrackets && !scan.keyAllowed then none
  let scan := scan.openLevel scan.cursor.column scan.tokens.length .blockSequence
  return ((← scan.abandonKey).mark .item 1).allowKey true

/-- A question mark before a key. -/
def explicitKey (scan : Scan) : Option Scan := do
  if !scan.inBrackets && !scan.keyAllowed then none
  let scan := scan.openLevel scan.cursor.column scan.tokens.length .blockMapping
  return ((← scan.abandonKey).mark .key 1).allowKey (!scan.inBrackets)

/-- A colon before a value. What could begin a key was one. -/
def value (scan : Scan) : Option Scan := do
  match scan.key with
  | some key =>
    let scan := scan.putIn key.position .key
    let scan := scan.openLevel key.column key.position .blockMapping
    return ({ scan with key := none }.mark .value 1).allowKey false
  | none =>
    if !scan.inBrackets && !scan.keyAllowed then none
    let scan := scan.openLevel scan.cursor.column scan.tokens.length .blockMapping
    return (scan.mark .value 1).allowKey (!scan.inBrackets)

/-- The name of a node that stands elsewhere, or the name of the next one. -/
def named (token : String → Token) (scan : Scan) : Option Scan := do
  let scan ← scan.rememberKey
  let (name, cursor) ← Token.readAnchor (scan.cursor.move 1)
  return (scan.emit (token name) cursor).allowKey false

/-- A tag. -/
def tag (scan : Scan) : Option Scan := do
  let scan ← scan.rememberKey
  let (token, cursor) ← Token.readTag scan.inBrackets scan.cursor
  return (scan.emit token cursor).allowKey false

/-- A block of lines. No key begins there, but one may after it. -/
def block (style : Style) (scan : Scan) : Option Scan := do
  let scan ← scan.abandonKey
  let (text, cursor) ← readBlock style scan.indents.head? scan.cursor
  return (scan.emit (.scalar style (.ofList text)) cursor).allowKey true

/-- A quoted scalar. -/
def quoted (style : Style) (quote : Char) (scan : Scan) : Option Scan := do
  let scan ← scan.rememberKey
  let (text, cursor) ← readQuoted quote scan.cursor
  return (scan.emit (.scalar style (.ofList text)) cursor).allowKey false

/-- A plain scalar. If it ends with the line, a key may follow. -/
def plain (scan : Scan) : Option Scan := do
  let scan ← scan.rememberKey
  let indent := match scan.indents with
    | [] => 0
    | indent :: _ => indent + 1
  let scanned ← readPlain scan.inBrackets indent scan.cursor
  return (scan.emit (.scalar .plain (.ofList scanned.text)) scanned.cursor).allowKey scanned.broken

/-- Reads the next token that does not stand at the start of a line on its own account. -/
def word (scan : Scan) : Option Scan :=
  match scan.cursor.rest with
  | [] => none
  | '[' :: _ => scan.openBracket .flowSequence
  | '{' :: _ => scan.openBracket .flowMapping
  | ']' :: _ => scan.closeBracket .flowSequenceEnd
  | '}' :: _ => scan.closeBracket .flowMappingEnd
  | ',' :: _ => scan.comma
  | '*' :: _ => scan.named .reference
  | '&' :: _ => scan.named .anchor
  | '!' :: _ => scan.tag
  | '\'' :: _ => scan.quoted .singleQuoted '\''
  | '"' :: _ => scan.quoted .doubleQuoted '"'
  | '-' :: rest => if endsWord rest then scan.item else scan.plain
  | '?' :: rest => if scan.inBrackets || endsWord rest then scan.explicitKey else scan.plain
  | ':' :: rest => if scan.inBrackets || endsWord rest then scan.value else scan.plain
  | '|' :: _ => if scan.inBrackets then none else scan.block .literal
  | '>' :: _ => if scan.inBrackets then none else scan.block .folded
  | c :: _ => if isSpace c || "#%@\x60".toList.contains c then none else scan.plain

/-- Reads the next token, or the end of the text. -/
def step (scan : Scan) : Option Scan := do
  let scan := scan.skipBlanks (scan.cursor.rest.length + 1)
  let scan ← scan.abandonStaleKeys
  let scan := scan.closeLevels (some scan.cursor.column)
  if scan.cursor.rest.isEmpty then (scan.closeLevels none).abandonKey
  else if scan.cursor.column == 0 && startsWith (· == '%') scan.cursor.rest then scan.directive
  else if scan.cursor.atDocumentMark "---".toList then scan.documentMark .documentStart
  else if scan.cursor.atDocumentMark "...".toList then scan.documentMark .documentEnd
  else scan.word

/-- Reads the tokens up to the end of the text. -/
def run : Nat → Scan → Option Scan
  | 0, scan => some scan
  | fuel + 1, scan => do
    let next ← scan.step
    if next.cursor.rest.isEmpty && scan.cursor.rest.isEmpty then return next else run fuel next

end Scan

/-- The tokens of a text. Each step reads a character at least, but for the last one, which closes
what is open. -/
def Token.ofText? (text : String) : Option (List Token) :=
  let chars := text.toList
  if chars.all isAllowed then
    (Scan.run (chars.length + 1) { cursor := { rest := chars } }).map (·.tokens.reverse)
  else none

end StubServer.Yaml
