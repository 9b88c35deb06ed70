import StubServer.Regex.Expr
import StubServer.Regex.Flags
import StubServer.Text.Split
import StubServer.Unicode.Age
import StubServer.Unicode.Script
import StubServer.Unicode.ScriptExtension

/-!
# Named classes of characters

The classes that a pattern can name: by a letter after a backslash, by a property of the Unicode
standard, and by a word between colons inside a bracket.

## Main definitions

* `Regex.letterClass?`: the class of a letter, such as the digits.
* `Regex.property?`: the class of a Unicode property, by its name or by its name and value.
* `Regex.asciiClass?`: the class of a word, such as the hexadecimal digits.
-/

namespace StubServer.Regex

open Unicode

/-! ### Letters -/

/-- The class of a lower case letter after a backslash. -/
def baseClass? (unicode : Bool) : Char → Option CharSet
  | 'd' => some (if unicode then .ranges (category "nd") else .between '0' '9')
  | 's' =>
    some (if unicode then .ranges ((lookup? binaryProperties "whitespace").getD [])
      else .ranges [(9, 13), (32, 32)])
  | 'w' => some (if unicode then wordCharacters else asciiWordCharacters)
  | _ => none

/-- The class of a letter after a backslash. A capital stands for the complement, which needs
Unicode. -/
def letterClass? (flags : Flags) (letter : Char) : Option CharSet :=
  if letter.isUpper then
    (baseClass? flags.unicode letter.toLower).bind fun set =>
      if flags.unicode then some (.compl set) else none
  else baseClass? flags.unicode letter

/-! ### Words -/

/-- The ASCII characters that a word between colons stands for. -/
def asciiStretches? (word : List Char) : Option Ranges :=
  let between (first last : Char) : Nat × Nat := (first.toNat, last.toNat)
  let lower := between 'a' 'z'
  let upper := between 'A' 'Z'
  let digit := between '0' '9'
  if word = "alnum".toList then some [digit, upper, lower]
  else if word = "alpha".toList then some [upper, lower]
  else if word = "ascii".toList then some [(0, 0x7F)]
  else if word = "blank".toList then some [(9, 9), (32, 32)]
  else if word = "cntrl".toList then some [(0, 0x1F), (0x7F, 0x7F)]
  else if word = "digit".toList then some [digit]
  else if word = "graph".toList then some [between '!' '~']
  else if word = "lower".toList then some [lower]
  else if word = "print".toList then some [between ' ' '~']
  else if word = "punct".toList then
    some [between '!' '/', between ':' '@', between '[' '`', between '\x7b' '~']
  else if word = "space".toList then some [(9, 13), (32, 32)]
  else if word = "upper".toList then some [upper]
  else if word = "word".toList then some [digit, upper, between '_' '_', lower]
  else if word = "xdigit".toList then some [digit, between 'A' 'F', between 'a' 'f']
  else none

/-- The class of a word between colons, or its complement. -/
def asciiClass? (flags : Flags) (negated : Bool) (word : List Char) : Option CharSet :=
  (asciiStretches? word).map fun stretches =>
    let set := flags.folded (.ranges stretches)
    if negated then flags.complement set else set

/-! ### Properties -/

/-- A name of a property in normal form: ASCII characters in lower case, without blanks, hyphens,
underscores and a leading *is*. The name *isc* is not taken for *c* with such a beginning. -/
def normalName (name : List Char) : List Char :=
  let keep (text : List Char) : List Char :=
    (text.filter fun c => c.toNat < 0x80 && c != ' ' && c != '-' && c != '_').map Char.toLower
  match name with
  | i :: s :: rest =>
    if i.toLower = 'i' ∧ s.toLower = 's' then
      if keep rest = ['c'] then ['i', 's', 'c'] else keep rest
    else keep name
  | _ => keep name

/-- The characters assigned in a version of the standard or before. -/
def assignedBy? (version : String) : List (String × String) → Option Ranges
  | [] => none
  | entry :: later =>
    let stretches := Ranges.ofRuns entry.2
    if (entry.1.splitOn " ").contains version then some stretches
    else (assignedBy? version later).map (stretches ++ ·)

/-- The characters of a property that is named alone: one that a character has or has not, a
general category or a script. Three names of categories are names of other properties, too, which
cannot be named alone. -/
def propertyByName? (name : String) : Option Ranges :=
  let property := if name ∈ ["cf", "sc", "lc"] then none else lookup? binaryProperties name
  property <|> category? name <|> lookup? scripts name

/-- The characters for which a property has a value. -/
def propertyByValue? (name value : String) : Option Ranges :=
  if name ∈ ["gc", "generalcategory"] then category? value
  else if name ∈ ["sc", "script"] then lookup? scripts value
  else if name ∈ ["scx", "scriptextensions"] then lookup? scriptExtensions value
  else if name = "age" then assignedBy? value ages
  else none

/-- Where a text first holds the two given characters in a row: the text before and after. -/
def cutPair (first second : Char) : List Char → Option (List Char × List Char)
  | a :: b :: rest =>
    if a = first ∧ b = second then some ([], rest)
    else (cutPair first second (b :: rest)).map fun r => (a :: r.1, r.2)
  | _ => none

/-- The class of a property with the given characters, or its complement. It needs Unicode. -/
def propertyClass? (flags : Flags) (negated : Bool) (stretches : Option Ranges) :
    Option CharSet :=
  if !flags.unicode then none
  else stretches.map fun stretches =>
    let set := flags.folded (.ranges stretches)
    if negated then .compl set else set

/-- The class that the text inside the braces of a property stands for. Name and value are
separated by an equals sign, a colon, or an exclamation mark and an equals sign for the
complement. -/
def property? (flags : Flags) (negated : Bool) (text : List Char) : Option CharSet :=
  let normal (name : List Char) : String := .ofList (normalName name)
  match cutPair '!' '=' text with
  | some (name, value) =>
    propertyClass? flags (!negated) (propertyByValue? (normal name) (normal value))
  | none =>
    match cut ':' text, cut '=' text with
    | (name, some value), _ | _, (name, some value) =>
      propertyClass? flags negated (propertyByValue? (normal name) (normal value))
    | _, _ => propertyClass? flags negated (propertyByName? (normal text))

end StubServer.Regex
