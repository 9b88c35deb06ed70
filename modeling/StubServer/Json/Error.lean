import StubServer.Json.Basic
import StubServer.Json.NumberText
import StubServer.Text.Quoted

/-!
# What can be wrong with a JSON text

A text may break the grammar, may end too soon, or may be well formed and hold something other
than what its reader expects.

## Main definitions

* `Json.Error`: the causes; `Json.Error.message` is their wording.
* `Json.Error.kind`: which of the three ways of being wrong a cause belongs to.
* `Json.Found`, `Json.Mismatch`: what was found in place of what was expected.
-/

namespace StubServer.Json

/-- What a reader met in place of what it expected. -/
inductive Found where
  | null
  | bool (value : Bool)
  | number (value : Number)
  | string (value : String)
  | sequence
  | map
  deriving DecidableEq

/-- What a value is, for a reader that did not expect it. -/
def Found.ofValue : Json → Found
  | .null => .null
  | .bool b => .bool b
  | .number n => .number n
  | .string s => .string s
  | .array _ => .sequence
  | .object _ => .map

/-- A value other than the reader expects. -/
inductive Mismatch where
  /-- A value of another type. -/
  | invalidType (found : Found) (expected : String)
  /-- A value of the right type outside the range. -/
  | invalidValue (found : Found) (expected : String)
  /-- A sequence of the wrong length. -/
  | invalidLength (length : Nat) (expected : String)
  /-- A word that is none of the alternatives. -/
  | unknownVariant (name : String) (alternatives : List String)
  /-- A field that is given twice. -/
  | duplicateField (name : String)
  /-- A text that the format of its field refuses. -/
  | refused (reason : String)
  deriving DecidableEq

/-- What can be wrong with a JSON text. -/
inductive Error where
  | endOfList
  | endOfObject
  | endOfString
  | endOfValue
  | expectedColon
  | expectedListCommaOrEnd
  | expectedObjectCommaOrEnd
  | expectedIdent
  | expectedValue
  | invalidEscape
  | invalidNumber
  | numberOutOfRange
  | invalidCodePoint
  | controlCharacter
  | keyMustBeString
  | loneSurrogate
  | trailingComma
  | trailingCharacters
  | endOfHexEscape
  | recursionLimit
  | mismatch (cause : Mismatch)
  deriving DecidableEq

/-- The three ways of being wrong. -/
inductive Error.Kind where
  /-- The text breaks the grammar. -/
  | grammar
  /-- The text ends too soon. -/
  | ending
  /-- The text holds something other than expected. -/
  | content
  deriving DecidableEq

/-- Which way of being wrong a cause belongs to. -/
def Error.kind : Error → Error.Kind
  | .endOfList | .endOfObject | .endOfString | .endOfValue => .ending
  | .mismatch _ => .content
  | _ => .grammar

/-! ### Wording -/

/-- What was found, in words. -/
def Found.message : Found → String
  | .null => "null"
  | .bool b => "boolean `" ++ (if b then "true" else "false") ++ "`"
  | .number (.integer i _) => "integer `" ++ i.repr ++ "`"
  | .number (.real x) => "floating point `" ++ String.ofList x.text ++ "`"
  | .string s => "string " ++ quoted s
  | .sequence => "sequence"
  | .map => "map"

/-- A list of alternatives, in words. -/
def alternativesText (names : List String) : String :=
  ", ".intercalate (names.map fun name => "`" ++ name ++ "`")

/-- The wording of a mismatch. -/
def Mismatch.message : Mismatch → String
  | .invalidType found expected => "invalid type: " ++ found.message ++ ", expected " ++ expected
  | .invalidValue found expected => "invalid value: " ++ found.message ++ ", expected " ++ expected
  | .invalidLength length expected =>
    "invalid length " ++ length.repr ++ ", expected " ++ expected
  | .unknownVariant name alternatives =>
    "unknown variant `" ++ name ++ "`, expected one of " ++ alternativesText alternatives
  | .duplicateField name => "duplicate field `" ++ name ++ "`"
  | .refused reason => reason

/-- The wording of an error. -/
def Error.message : Error → String
  | .endOfList => "EOF while parsing a list"
  | .endOfObject => "EOF while parsing an object"
  | .endOfString => "EOF while parsing a string"
  | .endOfValue => "EOF while parsing a value"
  | .expectedColon => "expected `:`"
  | .expectedListCommaOrEnd => "expected `,` or `]`"
  | .expectedObjectCommaOrEnd => "expected `,` or `\x7d`"
  | .expectedIdent => "expected ident"
  | .expectedValue => "expected value"
  | .invalidEscape => "invalid escape"
  | .invalidNumber => "invalid number"
  | .numberOutOfRange => "number out of range"
  | .invalidCodePoint => "invalid unicode code point"
  | .controlCharacter => "control character (\\u0000-\\u001F) found while parsing a string"
  | .keyMustBeString => "key must be a string"
  | .loneSurrogate => "lone leading surrogate in hex escape"
  | .trailingComma => "trailing comma"
  | .trailingCharacters => "trailing characters"
  | .endOfHexEscape => "unexpected end of hex escape"
  | .recursionLimit => "recursion limit exceeded"
  | .mismatch cause => cause.message

end StubServer.Json
