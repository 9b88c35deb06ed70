/-!
# Places in a YAML text

A reader of YAML text has to know how far it is into its line, because indentation carries meaning.
A cursor is the text that is still to be read together with its place in the whole.

## Main definitions

* `Cursor`: a place in a text; `Cursor.move`, `Cursor.moveTo` and `Cursor.skipBreak` go on from it.
* `isSpace`, `isBreak`, `endsWord`: what stands between words.
* `isAllowed`: the characters that a YAML text may hold.
* `fold`: what line breaks between words stand for.
-/

namespace StubServer.Yaml

/-! ### Characters -/

/-- Whether a character separates words on a line. -/
def isSpace (c : Char) : Bool :=
  c == ' ' || c == '\t'

/-- Whether a character ends a line: the two line ends, the next line character, and the separators
of lines and paragraphs. -/
def isBreak (c : Char) : Bool :=
  c == '\r' || c == '\n' || c == '\x85' || c == '\u2028' || c == '\u2029'

/-- What a line end is read as. The separators of lines and paragraphs are kept. -/
def breakText (c : Char) : Char :=
  if c == '\u2028' || c == '\u2029' then c else '\n'

/-- Whether nothing, a blank or a line end comes next. -/
def endsWord : List Char → Bool
  | [] => true
  | c :: _ => isSpace c || isBreak c

/-- Whether a text begins with a character of a class. -/
def startsWith (isMember : Char → Bool) : List Char → Bool
  | [] => false
  | c :: _ => isMember c

/-- Whether a character may stand in a name: a letter, a digit, a dash or an underscore. -/
def isNameChar (c : Char) : Bool :=
  c.isAlphanum || c == '-' || c == '_'

/-- Whether a character has a meaning of its own inside brackets. -/
def isFlowMark (c : Char) : Bool :=
  c == ',' || c == '[' || c == ']' || c == '{' || c == '}'

/-- Whether a YAML text may hold a character. Control characters and the two last code points of the
basic plane are out. -/
def isAllowed (c : Char) : Bool :=
  let point := c.toNat
  point == 0x09 || point == 0x0A || point == 0x0D || point == 0x85 ||
    (0x20 ≤ point && point ≤ 0x7E) || (0xA0 ≤ point && point ≤ 0xFFFD) || 0x10000 ≤ point

/-- What line breaks between two words stand for: a single one for a blank, and of several ones the
first is dropped. Separators of lines and paragraphs are not folded. -/
def fold : List Char → List Char
  | ['\n'] => [' ']
  | '\n' :: more => more
  | breaks => breaks

/-! ### Places -/

/-- A place in a text. -/
structure Cursor where
  /-- The text from here on. -/
  rest : List Char
  /-- The number of characters before this place. -/
  index : Nat := 0
  /-- The number of lines before this one. -/
  line : Nat := 0
  /-- The number of characters before this place on its line. -/
  column : Nat := 0
  deriving DecidableEq

namespace Cursor

/-- The place some characters further on the same line. -/
def move (n : Nat) (cursor : Cursor) : Cursor :=
  { cursor with
    rest := cursor.rest.drop n, index := cursor.index + n, column := cursor.column + n }

/-- The place on the same line where only the given end of the text is left. -/
def moveTo (rest : List Char) (cursor : Cursor) : Cursor :=
  let n := cursor.rest.length - rest.length
  { cursor with rest, index := cursor.index + n, column := cursor.column + n }

/-- The place after the characters of a class. -/
def skipWhile (isMember : Char → Bool) (cursor : Cursor) : Cursor :=
  cursor.moveTo (cursor.rest.dropWhile isMember)

/-- The characters of a class that come next, and the place after them. -/
def takeWhile (isMember : Char → Bool) (cursor : Cursor) : List Char × Cursor :=
  (cursor.rest.takeWhile isMember, cursor.skipWhile isMember)

/-- The start of the next line, if there is a line end here. -/
def skipBreak (cursor : Cursor) : Cursor :=
  let next (n : Nat) (rest : List Char) : Cursor :=
    { rest, index := cursor.index + n, line := cursor.line + 1, column := 0 }
  match cursor.rest with
  | '\r' :: '\n' :: rest => next 2 rest
  | c :: rest => if isBreak c then next 1 rest else cursor
  | [] => cursor

/-- What a line end here is read as, and the start of the next line. -/
def takeBreak (cursor : Cursor) : List Char × Cursor :=
  ((cursor.rest.take 1).filterMap fun c => if isBreak c then some (breakText c) else none,
    cursor.skipBreak)

/-- The end of the line, if there are only blanks and a comment before it. -/
def restOfLine? (cursor : Cursor) : Option Cursor :=
  let cursor := cursor.skipWhile isSpace
  let cursor :=
    if startsWith (· == '#') cursor.rest then cursor.skipWhile (!isBreak ·) else cursor
  if cursor.rest.isEmpty || startsWith isBreak cursor.rest then some cursor.skipBreak else none

/-- Whether a mark of three characters that separates documents stands alone at the start of the
line. -/
def atDocumentMark (cursor : Cursor) (mark : List Char) : Bool :=
  cursor.column == 0 && mark.isPrefixOf cursor.rest && endsWord (cursor.rest.drop mark.length)

/-- Whether one of the two marks that separate documents stands here. -/
def atDocumentBorder (cursor : Cursor) : Bool :=
  cursor.atDocumentMark "---".toList || cursor.atDocumentMark "...".toList

end Cursor

end StubServer.Yaml
