import StubServer.Json.Lexeme

/-!
# Reading JSON

Reads a value from a text, to a depth of 127 containers inside each other. A value that nobody
asked for is read over instead, to any depth and with less care. Strings in a value must be made of
characters where the text was made from bytes; strings that are read over need not.

Each of the mutual readers takes *fuel*, which it spends on every nested call; a text never
needs more of it than it has characters, and `document` provides that much.

## Main definitions

* `readValue`: a value, from where it may stand after blanks.
* `document`: a text that is one value.
* `skipValue`: reads over a value.
-/

namespace StubServer.Json

/-- How deep containers may be nested, and one more. -/
def depthLimit : Nat := 128

/-- Looks for the next item of an array: true and the text from the item on, or false and the
text after the bracket that closes the array. -/
def nextItem (first : Bool) (text : Text) : Reading Bool :=
  match skipSpace text with
  | [] => .error .endOfList
  | c :: rest =>
    if c = ']' then .ok (false, rest)
    else if first then .ok (true, c :: rest)
    else if c = ',' then
      match skipSpace rest with
      | [] => .error .endOfValue
      | d :: rest => if d = ']' then .error .trailingComma else .ok (true, d :: rest)
    else .error .expectedListCommaOrEnd

/-- Reads the name of the next member of an object, or nothing together with the text after the
brace that closes the object. -/
def nextName (breaks : Breaks) (first : Bool) (text : Text) : Reading (Option String) :=
  let name (text : Text) : Reading (Option String) :=
    (readCharacters breaks text).map fun r => (some (.ofList r.1), r.2)
  match skipSpace text with
  | [] => .error .endOfObject
  | c :: rest =>
    if c = '\x7d' then .ok (none, rest)
    else if first then if c = '"' then name rest else .error .keyMustBeString
    else if c = ',' then
      match skipSpace rest with
      | [] => .error .endOfValue
      | d :: rest =>
        if d = '"' then name rest
        else if d = '\x7d' then .error .trailingComma
        else .error .keyMustBeString
    else .error .expectedObjectCommaOrEnd

/-- Reads the colon after a name. -/
def colon (text : Text) : Except Error Text :=
  match skipSpace text with
  | [] => .error .endOfObject
  | c :: rest => if c = ':' then .ok rest else .error .expectedColon

mutual

/-- Reads a value in which `depth - 1` containers may be nested. -/
def readValue (breaks : Breaks) : (fuel depth : Nat) → Text → Reading Json
  | 0, _, _ => .error .endOfValue
  | fuel + 1, depth, text =>
    match skipSpace text with
    | [] => .error .endOfValue
    | c :: rest =>
      if c = 'n' then (readWord ['u', 'l', 'l'] rest).map fun rest => (.null, rest)
      else if c = 't' then (readWord ['r', 'u', 'e'] rest).map fun rest => (.bool true, rest)
      else if c = 'f' then (readWord ['a', 'l', 's', 'e'] rest).map fun rest => (.bool false, rest)
      else if c = '-' then (readNumber true rest).map fun r => (.number r.1, r.2)
      else if isDigit c then (readNumber false (c :: rest)).map fun r => (.number r.1, r.2)
      else if c = '"' then (readCharacters breaks rest).map fun r => (.string (.ofList r.1), r.2)
      else if c = '[' then
        if depth ≤ 1 then .error .recursionLimit
        else (readItems breaks fuel (depth - 1) true rest).map fun r => (.array r.1, r.2)
      else if c = '\x7b' then
        if depth ≤ 1 then .error .recursionLimit
        else (readMembers breaks fuel (depth - 1) true rest).map fun r => (.ofMembers r.1, r.2)
      else .error .expectedValue

/-- Reads the items of an array and the bracket that closes it. -/
def readItems (breaks : Breaks) : (fuel depth : Nat) → (first : Bool) → Text → Reading (List Json)
  | 0, _, _, _ => .error .endOfList
  | fuel + 1, depth, first, text =>
    match nextItem first text with
    | .error e => .error e
    | .ok (false, rest) => .ok ([], rest)
    | .ok (true, rest) =>
      match readValue breaks fuel depth rest with
      | .error e => .error e
      | .ok (v, rest) => (readItems breaks fuel depth false rest).map fun r => (v :: r.1, r.2)

/-- Reads the members of an object and the brace that closes it. -/
def readMembers (breaks : Breaks) : (fuel depth : Nat) → (first : Bool) → Text → Reading (List (String × Json))
  | 0, _, _, _ => .error .endOfObject
  | fuel + 1, depth, first, text =>
    match nextName breaks first text with
    | .error e => .error e
    | .ok (none, rest) => .ok ([], rest)
    | .ok (some name, rest) =>
      match colon rest with
      | .error e => .error e
      | .ok rest =>
        match readValue breaks fuel depth rest with
        | .error e => .error e
        | .ok (v, rest) =>
          (readMembers breaks fuel depth false rest).map fun r => ((name, v) :: r.1, r.2)

end

/-- The fuel that suffices for a text: of two nested calls at least one takes a character. -/
def fuelFor (text : Text) : Nat := 2 * text.length + 2

/-- Refuses anything but blanks after a value. -/
def finish {α : Type} : α × Text → Except Error α
  | (v, rest) => match skipSpace rest with
    | [] => .ok v
    | _ :: _ => .error .trailingCharacters

/-- Reads a text that is one value. -/
def document (text : Text) : Except Error Json :=
  readValue [] (fuelFor text) depthLimit text >>= finish

/-- Reads a string that is one value. -/
def parse (s : String) : Except Error Json := document s.toList

/-! ### Reading over values -/

/-- Reads over the digits of an exponent after its letter. -/
def skipExponent (text : Text) : Except Error Text :=
  let text := match text with
    | '+' :: rest => rest
    | '-' :: rest => rest
    | rest => rest
  match text with
  | [] => .error .invalidNumber
  | c :: rest => if isDigit c then .ok (rest.dropWhile isDigit) else .error .invalidNumber

/-- Reads over a number after its sign. -/
def skipNumber (text : Text) : Except Error Text :=
  match text with
  | [] => .error .invalidNumber
  | first :: after =>
    if !isDigit first then .error .invalidNumber
    else if first = '0' ∧ (after.head?.any isDigit) then .error .invalidNumber
    else match text.dropWhile isDigit with
      | '.' :: rest =>
        match rest with
        | [] => .error .invalidNumber
        | c :: _ =>
          if !isDigit c then .error .invalidNumber
          else match rest.dropWhile isDigit with
            | 'e' :: rest => skipExponent rest
            | 'E' :: rest => skipExponent rest
            | rest => .ok rest
      | 'e' :: rest => skipExponent rest
      | 'E' :: rest => skipExponent rest
      | rest => .ok rest

mutual

/-- Reads over a value. -/
def skipValue : (fuel : Nat) → Text → Except Error Text
  | 0, _ => .error .endOfValue
  | fuel + 1, text =>
    match skipSpace text with
    | [] => .error .endOfValue
    | c :: rest =>
      if c = 'n' then readWord ['u', 'l', 'l'] rest
      else if c = 't' then readWord ['r', 'u', 'e'] rest
      else if c = 'f' then readWord ['a', 'l', 's', 'e'] rest
      else if c = '-' then skipNumber rest
      else if isDigit c then skipNumber (c :: rest)
      else if c = '"' then skipString rest
      else if c = '[' then skipItems fuel true rest
      else if c = '\x7b' then skipMembers fuel true rest
      else .error .expectedValue

/-- Reads over the items of an array and the bracket that closes it. -/
def skipItems : (fuel : Nat) → (first : Bool) → Text → Except Error Text
  | 0, _, _ => .error .endOfList
  | fuel + 1, first, text =>
    match skipSpace text with
    | [] => .error .endOfList
    | c :: rest =>
      if c = ']' then .ok rest
      else if first then skipValue fuel (c :: rest) >>= skipItems fuel false
      else if c = ',' then skipValue fuel rest >>= skipItems fuel false
      else .error .expectedListCommaOrEnd

/-- Reads over the members of an object and the brace that closes it. -/
def skipMembers : (fuel : Nat) → (first : Bool) → Text → Except Error Text
  | 0, _, _ => .error .endOfObject
  | fuel + 1, first, text =>
    match skipSpace text with
    | [] => .error .endOfObject
    | c :: rest =>
      if c = '\x7d' then .ok rest
      else if first then skipMember fuel (c :: rest) >>= skipMembers fuel false
      else if c = ',' then skipMember fuel rest >>= skipMembers fuel false
      else .error .expectedObjectCommaOrEnd

/-- Reads over one member. -/
def skipMember : (fuel : Nat) → Text → Except Error Text
  | 0, _ => .error .endOfObject
  | fuel + 1, text =>
    match skipSpace text with
    | [] => .error .endOfObject
    | c :: rest =>
      if c ≠ '"' then .error .keyMustBeString else
      match skipString rest with
      | .error e => .error e
      | .ok rest =>
        match skipSpace rest with
        | [] => .error .endOfObject
        | d :: rest => if d ≠ ':' then .error .expectedColon else skipValue fuel rest

end

end StubServer.Json
