import StubServer.Regex.CharSet
import StubServer.Unicode.Category

/-!
# Regular expressions

What a pattern means, apart from how it is written: an expression over sets of characters and
assertions about the place in the text.

## Main definitions

* `Regex.Expr`: an expression.
* `Regex.Look`: an assertion; `Regex.Look.holds` decides it from the characters on either side.
* `Regex.Expr.weight`: how much room an expression takes, which is limited.
-/

namespace StubServer.Regex

open Unicode

/-! ### Assertions -/

/-- The characters of words: letters, marks, digits and connectors. -/
def wordCharacters : CharSet :=
  .ranges (["alphabetic", "joincontrol"].flatMap (fun p => (lookup? binaryProperties p).getD []) ++
    ["mn", "mc", "me", "nd", "pc"].flatMap category)

/-- The characters of words among the ASCII characters. -/
def asciiWordCharacters : CharSet :=
  .ranges [('0'.toNat, '9'.toNat), ('A'.toNat, 'Z'.toNat), ('_'.toNat, '_'.toNat),
    ('a'.toNat, 'z'.toNat)]

/-- Which characters make up words. -/
inductive Words where
  | unicode
  | ascii
  deriving DecidableEq, Inhabited

/-- The characters that make up words. -/
def Words.characters : Words → CharSet
  | .unicode => wordCharacters
  | .ascii => asciiWordCharacters

/-- An assertion about a place in a text. -/
inductive Look where
  /-- The text starts here. -/
  | textStart
  /-- The text ends here. -/
  | textEnd
  /-- A line starts here; `carriage` tells whether carriage returns end lines, too. -/
  | lineStart (carriage : Bool)
  /-- A line ends here. -/
  | lineEnd (carriage : Bool)
  /-- Exactly one of the two sides is in a word. -/
  | wordBoundary (words : Words)
  /-- Both sides are in a word, or neither is. -/
  | notWordBoundary (words : Words)
  /-- A word starts here. -/
  | wordStart (words : Words)
  /-- A word ends here. -/
  | wordEnd (words : Words)
  /-- No word goes on up to here. -/
  | wordStartHalf (words : Words)
  /-- No word goes on from here. -/
  | wordEndHalf (words : Words)
  deriving DecidableEq, Inhabited

/-- Whether an assertion holds between two characters, where nothing stands for the ends of the
text. -/
def Look.holds (look : Look) (before after : Option Char) : Bool :=
  let inWord (words : Words) (c : Option Char) : Bool := c.any words.characters.contains
  match look with
  | .textStart => before.isNone
  | .textEnd => after.isNone
  | .lineStart false => before.isNone || before == some '\n'
  | .lineStart true =>
    before.isNone || before == some '\n' || (before == some '\r' && after != some '\n')
  | .lineEnd false => after.isNone || after == some '\n'
  | .lineEnd true =>
    after.isNone || after == some '\r' || (after == some '\n' && before != some '\r')
  | .wordBoundary words => inWord words before != inWord words after
  | .notWordBoundary words => inWord words before == inWord words after
  | .wordStart words => !inWord words before && inWord words after
  | .wordEnd words => inWord words before && !inWord words after
  | .wordStartHalf words => !inWord words before
  | .wordEndHalf words => !inWord words after

/-! ### Expressions -/

/-- A regular expression. -/
inductive Expr where
  | empty
  /-- One character of a set. -/
  | chars (set : CharSet)
  | look (look : Look)
  | seq (a b : Expr)
  | alt (a b : Expr)
  /-- `least` times in a row, and then some times more, at most `extra` times if there is a
  limit. -/
  | rep (least : Nat) (extra : Option Nat) (a : Expr)
  deriving DecidableEq, Inhabited

namespace Expr

/-- The expressions one after the other. -/
def seqAll : List Expr → Expr
  | [] => .empty
  | [a] => a
  | a :: rest => .seq a (seqAll rest)

/-- Any one of the expressions. -/
def altAll : List Expr → Expr
  | [] => .empty
  | [a] => a
  | a :: rest => .alt a (altAll rest)

/-- About how much room an expression takes when it is prepared for matching. A repetition takes the
room of all its rounds. -/
def weight : Expr → Nat
  | empty | look _ => 32
  | chars (.ranges [(first, last)]) =>
    if first = last then 32 * (Char.ofNat first).utf8Size else 64
  | chars set => 32 + 26 * set.stretchCount
  | seq a b => a.weight + b.weight
  | alt a b => a.weight + b.weight + 64
  | rep least none a => max least 1 * a.weight + 64
  | rep least (some extra) a => least * a.weight + extra * (a.weight + 32) + 32

/-- The room that an expression may take by this estimate. -/
def weightLimit : Nat := 10485760

end Expr

end StubServer.Regex
