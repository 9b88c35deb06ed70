import StubServer.Text.Hex
import StubServer.Yaml.Cursor

/-!
# Scalars

The texts of a YAML document: plain ones, quoted ones, and blocks of lines. A plain or quoted text
may go over several lines, whose breaks are folded; in a block the indentation is taken off and
breaks are kept or folded.

## Main definitions

* `Style`: the ways to write a scalar.
* `readPlain`, `readQuoted`, `readBlock`: the readers. Each gives the text and the place after it, or
  nothing if the scalar is malformed.
-/

namespace StubServer.Yaml

/-- The ways to write a scalar. -/
inductive Style where
  | plain
  | singleQuoted
  | doubleQuoted
  | literal
  | folded
  deriving DecidableEq

/-! ### Between words -/

/-- The blanks and breaks between two words. -/
structure Gap where
  /-- The blanks before the first break. -/
  blanks : List Char := []
  /-- The breaks. -/
  breaks : List Char := []

/-- What a gap stands for: blanks on one line for themselves, breaks as they are folded. -/
def Gap.text (gap : Gap) : List Char :=
  if gap.breaks.isEmpty then gap.blanks else fold gap.breaks

/-- Reads the blanks and breaks up to the next word. After the first break no tab may stand before
the column `indent`. -/
def readGap (indent : Nat) : Nat → Bool → Gap → Cursor → Option (Gap × Cursor)
  | 0, _, gap, cursor => some (gap, cursor)
  | fuel + 1, broken, gap, cursor =>
    match cursor.rest with
    | [] => some (gap, cursor)
    | c :: _ =>
      if isSpace c then
        if broken then
          if c == '\t' && cursor.column < indent then none
          else readGap indent fuel true gap (cursor.move 1)
        else readGap indent fuel false { gap with blanks := gap.blanks ++ [c] } (cursor.move 1)
      else if isBreak c then
        readGap indent fuel true { gap with breaks := gap.breaks ++ [breakText c] } cursor.skipBreak
      else some (gap, cursor)

/-! ### Plain scalars -/

/-- The characters up to the end of a word of a plain scalar. Inside brackets a colon must not stand
before a bracket, a comma or a question mark. -/
def plainWord (inBrackets : Bool) : List Char → Option (List Char)
  | [] => some []
  | ':' :: rest =>
    if inBrackets && startsWith (fun c => isFlowMark c || c == '?') rest then none
    else if endsWord rest then some []
    else (plainWord inBrackets rest).map (':' :: ·)
  | c :: rest =>
    if isSpace c || isBreak c || (inBrackets && isFlowMark c) then some []
    else (plainWord inBrackets rest).map (c :: ·)

/-- A scalar as it is read: its text, whether breaks came after its last word, and the place where
the reader stands. -/
structure Scanned where
  text : List Char
  broken : Bool := false
  cursor : Cursor

/-- Reads the words of a plain scalar, each after its gap. -/
def plainWords (inBrackets : Bool) (indent : Nat) :
    Nat → List Char → Gap → Cursor → Option Scanned
  | 0, _, _, _ => none
  | fuel + 1, text, gap, cursor => do
    let stop : Scanned := { text, broken := !gap.breaks.isEmpty, cursor }
    if cursor.atDocumentBorder || startsWith (· == '#') cursor.rest then return stop
    let word ← plainWord inBrackets cursor.rest
    let cursor := cursor.move word.length
    let text := if word.isEmpty then text else text ++ gap.text ++ word
    if startsWith (fun c => isSpace c || isBreak c) cursor.rest then
      let (gap, next) ← readGap indent cursor.rest.length false {} cursor
      if !inBrackets && next.column < indent then
        return { text, broken := !gap.breaks.isEmpty, cursor := next }
      else plainWords inBrackets indent fuel text gap next
    else if word.isEmpty then return { stop with cursor }
    else return { text, cursor }

/-- Reads a plain scalar whose lines, outside of brackets, are indented by `indent` at least. -/
def readPlain (inBrackets : Bool) (indent : Nat) (cursor : Cursor) : Option Scanned :=
  plainWords inBrackets indent (cursor.rest.length + 1) [] {} cursor

/-! ### Quoted scalars -/

/-- The characters of a quoted scalar up to a blank, a break or the closing quote. -/
structure QuotedWord where
  text : List Char
  /-- Whether the word ends with a backslash at the end of the line. -/
  joined : Bool := false
  /-- The text after the word. -/
  rest : List Char

/-- Puts a character before a word. -/
def QuotedWord.push (c : Char) (word : QuotedWord) : QuotedWord :=
  { word with text := c :: word.text }

/-- A word between single quotes, where two quotes stand for one. -/
def singleQuotedWord : List Char → QuotedWord
  | [] => { text := [], rest := [] }
  | '\'' :: '\'' :: rest => (singleQuotedWord rest).push '\''
  | c :: rest =>
    if c == '\'' || isSpace c || isBreak c then { text := [], rest := c :: rest }
    else (singleQuotedWord rest).push c

/-- What a character after a backslash stands for. -/
def simpleEscape? : Char → Option Char
  | '0' => some '\x00'
  | 'a' => some '\x07'
  | 'b' => some '\x08'
  | 't' | '\t' => some '\t'
  | 'n' => some '\n'
  | 'v' => some '\x0b'
  | 'f' => some '\x0c'
  | 'r' => some '\r'
  | 'e' => some '\x1b'
  | ' ' => some ' '
  | '"' => some '"'
  | '/' => some '/'
  | '\\' => some '\\'
  | 'N' => some '\x85'
  | '_' => some '\xa0'
  | 'L' => some '\u2028'
  | 'P' => some '\u2029'
  | _ => none

/-- The number that digits of base 16 denote. -/
def hexNumber? : Nat → List Char → Option Nat
  | value, [] => some value
  | value, c :: rest => do hexNumber? (16 * value + (← hexDigit? c)) rest

/-- The character whose code point is written in base 16. Surrogates have none. -/
def hexChar? (digits : List Char) : Option Char := do
  let point ← hexNumber? 0 digits
  if point.isValidChar then some (Char.ofNat point) else none

/-- A word between double quotes. -/
def doubleQuotedWord : List Char → Option QuotedWord
  | [] => some { text := [], rest := [] }
  | '\\' :: 'x' :: a :: b :: rest => do
    return (← doubleQuotedWord rest).push (← hexChar? [a, b])
  | '\\' :: 'u' :: a :: b :: c :: d :: rest => do
    return (← doubleQuotedWord rest).push (← hexChar? [a, b, c, d])
  | '\\' :: 'U' :: a :: b :: c :: d :: e :: f :: g :: h :: rest => do
    return (← doubleQuotedWord rest).push (← hexChar? [a, b, c, d, e, f, g, h])
  | '\\' :: escaped :: rest =>
    if isBreak escaped then some { text := [], joined := true, rest := escaped :: rest }
    else do return (← doubleQuotedWord rest).push (← simpleEscape? escaped)
  | c :: rest =>
    if c == '"' || isSpace c || isBreak c then some { text := [], rest := c :: rest }
    else do return (← doubleQuotedWord rest).push c

/-- Reads the words of a quoted scalar up to the closing quote. A backslash at the end of a line
joins the next line without a blank. -/
def quotedWords (quote : Char) : Nat → List Char → Cursor → Option (List Char × Cursor)
  | 0, _, _ => none
  | fuel + 1, text, cursor => do
    if cursor.atDocumentBorder || cursor.rest.isEmpty then none
    let word ←
      if quote == '"' then doubleQuotedWord cursor.rest
      else some (singleQuotedWord cursor.rest)
    let text := text ++ word.text
    let cursor := cursor.moveTo word.rest
    let cursor := if word.joined then cursor.skipBreak else cursor
    if startsWith (· == quote) cursor.rest then return (text, cursor.move 1)
    let (gap, cursor) ← readGap 0 cursor.rest.length word.joined {} cursor
    quotedWords quote fuel (text ++ if word.joined then gap.breaks else gap.text) cursor

/-- Reads a quoted scalar from its opening quote on. -/
def readQuoted (quote : Char) (cursor : Cursor) : Option (List Char × Cursor) :=
  quotedWords quote (cursor.rest.length + 1) [] (cursor.move 1)

/-! ### Blocks of lines -/

/-- What becomes of the breaks at the end of a block. -/
inductive Chomping where
  /-- The last line keeps its break. -/
  | clip
  /-- All breaks are dropped. -/
  | strip
  /-- All breaks are kept. -/
  | keep
  deriving DecidableEq

/-- What stands after the mark of a block: how it ends, and how far it is indented if that is said.
-/
structure BlockHeader where
  chomping : Chomping := .clip
  increment : Option Nat := none

/-- How a block ends, by its sign. -/
def chomping? : Char → Option Chomping
  | '+' => some .keep
  | '-' => some .strip
  | _ => none

/-- Reads a step of indentation, from one to nine. -/
def increment? (c : Char) : Option Nat :=
  if '1' ≤ c ∧ c ≤ '9' then some (c.toNat - '0'.toNat) else none

/-- Reads the header of a block: a sign and a digit, in any order, and each may be missing. -/
def blockHeader : List Char → BlockHeader × Nat
  | a :: b :: _ =>
    match chomping? a, increment? a with
    | some chomping, _ =>
      match increment? b with
      | some n => ({ chomping, increment := some n }, 2)
      | none => ({ chomping }, 1)
    | none, some n =>
      match chomping? b with
      | some chomping => ({ chomping, increment := some n }, 2)
      | none => ({ increment := some n }, 1)
    | none, none => ({}, 0)
  | [a] =>
    match chomping? a, increment? a with
    | some chomping, _ => ({ chomping }, 1)
    | none, some n => ({ increment := some n }, 1)
    | none, none => ({}, 0)
  | [] => ({}, 0)

/-- Reads the empty lines before a line of a block, taking off its indentation. As long as that is
not known, it is the widest one seen. A tab must not stand in it. Gives the breaks, the widest
indentation and the place. -/
def emptyLines (indent : Option Nat) :
    Nat → Nat → List Char → Cursor → Option (List Char × Nat × Cursor)
  | 0, widest, breaks, cursor => some (breaks, widest, cursor)
  | fuel + 1, widest, breaks, cursor =>
    let spaces := (cursor.rest.takeWhile (· == ' ')).length
    let cursor := cursor.move <|
      match indent with
      | some n => min spaces (n - cursor.column)
      | none => spaces
    let widest := max widest cursor.column
    let within : Bool :=
      match indent with
      | some n => cursor.column < n
      | none => true
    if within && startsWith (· == '\t') cursor.rest then none
    else if startsWith isBreak cursor.rest then
      emptyLines indent fuel widest (breaks ++ cursor.takeBreak.1) cursor.skipBreak
    else some (breaks, widest, cursor)

/-- What was read of a block: its text, the break of the last line, the breaks of the empty lines
after it, and whether that line began with a blank. -/
structure BlockText where
  text : List Char := []
  lastBreak : List Char := []
  emptyBreaks : List Char
  startsBlank : Bool := false

/-- Reads the lines of a block that is indented by `indent`. A folded block joins two lines of which
neither begins with a blank. -/
def blockLines (style : Style) (indent : Nat) :
    Nat → BlockText → Cursor → Option (BlockText × Cursor)
  | 0, block, cursor => some (block, cursor)
  | fuel + 1, block, cursor =>
    if cursor.column != indent || cursor.rest.isEmpty then some (block, cursor)
    else do
      let startsBlank := startsWith isSpace cursor.rest
      let isFolded := style == .folded && block.lastBreak == ['\n'] &&
        !block.startsBlank && !startsBlank
      let border :=
        if isFolded then (if block.emptyBreaks.isEmpty then [' '] else block.emptyBreaks)
        else block.lastBreak ++ block.emptyBreaks
      let (line, cursor) := cursor.takeWhile (!isBreak ·)
      let (lastBreak, cursor) := cursor.takeBreak
      let (emptyBreaks, _, cursor) ← emptyLines (some indent) (fuel + 1) 0 [] cursor
      blockLines style indent fuel
        { text := block.text ++ border ++ line, lastBreak, emptyBreaks, startsBlank } cursor

/-- The text of a block, with the breaks at its end that are kept. -/
def BlockText.chomp (block : BlockText) : Chomping → List Char
  | .strip => block.text
  | .clip => block.text ++ block.lastBreak
  | .keep => block.text ++ block.lastBreak ++ block.emptyBreaks

/-- Reads a block from its mark on, where `outer` is the indentation of what holds it, or nothing at
the top of the document. -/
def readBlock (style : Style) (outer : Option Nat) (cursor : Cursor) :
    Option (List Char × Cursor) := do
  let (header, size) := blockHeader (cursor.rest.drop 1)
  let cursor ← (cursor.move (1 + size)).restOfLine?
  let least := match outer with
    | some n => n + 1
    | none => 0
  let known := header.increment.map (outer.getD 0 + ·)
  let fuel := cursor.rest.length + 1
  let (emptyBreaks, widest, cursor) ← emptyLines known fuel 0 [] cursor
  let indent := known.getD (max (max widest least) 1)
  let (block, cursor) ← blockLines style indent fuel { emptyBreaks } cursor
  return (block.chomp header.chomping, cursor)

end StubServer.Yaml
