import StubServer.Json.NumberText

/-!
# Writing JSON

A value has two texts: the compact one, without blanks, and the pretty one, with each item and
each member on a line of its own and two blanks for each level. In strings the quote, the
backslash and the control characters are escaped and nothing else is.

## Main definitions

* `compact`, `pretty`: the two texts, as lists of characters.
* `Json.render`, `Json.renderPretty`: the same as strings.
-/

namespace StubServer.Json

/-- A base 16 digit. -/
def hexChar (n : Nat) : Char := Nat.digitChar n

/-- One character of a string. -/
def escapeChar (c : Char) : List Char :=
  if c = '"' then ['\\', '"']
  else if c = '\\' then ['\\', '\\']
  else if c = '\x08' then ['\\', 'b']
  else if c = '\x0c' then ['\\', 'f']
  else if c = '\n' then ['\\', 'n']
  else if c = '\r' then ['\\', 'r']
  else if c = '\t' then ['\\', 't']
  else if c.toNat < 0x20 then
    ['\\', 'u', '0', '0', hexChar (c.toNat / 16), hexChar (c.toNat % 16)]
  else [c]

/-- The characters of a string with the escapes in place, without its quotes. -/
def escape (cs : List Char) : List Char :=
  cs.flatMap escapeChar

/-- A string in its quotes. -/
def stringText (s : String) : List Char :=
  '"' :: (escape s.toList ++ ['"'])

/-- The text of a truth value. -/
def boolText (b : Bool) : List Char :=
  if b then ['t', 'r', 'u', 'e'] else ['f', 'a', 'l', 's', 'e']

mutual

/-- The compact text of a value. -/
def compact : Json → List Char
  | .null => ['n', 'u', 'l', 'l']
  | .bool b => boolText b
  | .number n => n.text
  | .string s => stringText s
  | .array [] => ['[', ']']
  | .array (v :: vs) => '[' :: (compact v ++ compactItems vs)
  | .object [] => ['\x7b', '\x7d']
  | .object ((name, v) :: ms) => '\x7b' :: (stringText name ++ ':' :: (compact v ++ compactMembers ms))

/-- The items after the first one, and the bracket that closes the array. -/
def compactItems : List Json → List Char
  | [] => [']']
  | v :: vs => ',' :: (compact v ++ compactItems vs)

/-- The members after the first one, and the brace that closes the object. -/
def compactMembers : List (String × Json) → List Char
  | [] => ['\x7d']
  | (name, v) :: ms => ',' :: (stringText name ++ ':' :: (compact v ++ compactMembers ms))

end

/-- A line end and the blanks of a level. -/
def newline (level : Nat) : List Char :=
  '\n' :: List.replicate (2 * level) ' '

mutual

/-- The pretty text of a value whose first line stands at the given level. -/
def pretty (level : Nat) : Json → List Char
  | .null => ['n', 'u', 'l', 'l']
  | .bool b => boolText b
  | .number n => n.text
  | .string s => stringText s
  | .array [] => ['[', ']']
  | .array (v :: vs) =>
    '[' :: (newline (level + 1) ++ (pretty (level + 1) v ++ prettyItems level vs))
  | .object [] => ['\x7b', '\x7d']
  | .object ((name, v) :: ms) =>
    '\x7b' :: (newline (level + 1) ++
      (stringText name ++ ':' :: ' ' :: (pretty (level + 1) v ++ prettyMembers level ms)))

/-- The items after the first one, and the bracket that closes the array. -/
def prettyItems (level : Nat) : List Json → List Char
  | [] => newline level ++ [']']
  | v :: vs => ',' :: (newline (level + 1) ++ (pretty (level + 1) v ++ prettyItems level vs))

/-- The members after the first one, and the brace that closes the object. -/
def prettyMembers (level : Nat) : List (String × Json) → List Char
  | [] => newline level ++ ['\x7d']
  | (name, v) :: ms =>
    ',' :: (newline (level + 1) ++
      (stringText name ++ ':' :: ' ' :: (pretty (level + 1) v ++ prettyMembers level ms)))

end

/-- The compact text as a string. -/
def render (v : Json) : String := .ofList (compact v)

/-- The pretty text as a string. -/
def renderPretty (v : Json) : String := .ofList (pretty 0 v)

/-- The text that a value stands for where a text is expected: a string itself, and the compact
text of any other value. -/
def asText : Json → String
  | .string s => s
  | v => v.render

end StubServer.Json
