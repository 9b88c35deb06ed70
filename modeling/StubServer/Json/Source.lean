import StubServer.Json.Read

/-!
# Reading what is expected

A reader that knows what it wants can read it from a text, where it finds mistakes in the order
of the text, or from a value that was read before. A *source* offers the same questions over
both, so that the fields of a record are read by one definition.

## Main definitions

* `Source`: the questions that a reader can ask.
* `Source.text`: reading from a text, with a bound on the depth of what it holds.
* `Source.value`: reading from a value.
* `Source.optional`: null or what is expected; `boundedInt`: an integer within bounds.
-/

namespace StubServer.Json

/-- A place to read from, at which the next thing is of an expected type. Each question gives
the answer and the place after it. -/
structure Source (σ : Type) where
  /-- The place after null, if null is next. -/
  null? : σ → Except Error (Option σ)
  /-- A truth value. -/
  bool : σ → Except Error (Bool × σ)
  /-- A number; the argument says what the reader expects. -/
  number : (expected : String) → σ → Except Error (Number × σ)
  /-- A string; the argument says what the reader expects. -/
  string : (expected : String) → σ → Except Error (String × σ)
  /-- One of the given names, which may also be the only name of an object, over null. -/
  variant : (names : List String) → σ → Except Error (String × σ)
  /-- Any value. -/
  any : σ → Except Error (Json × σ)

/-- The error of finding a value of another type. -/
def wrongType (found : Found) (expected : String) : Error :=
  .mismatch (.invalidType found expected)

/-- Accepts one of the names. -/
def chooseVariant (names : List String) (name : String) : Except Error String :=
  if names.contains name then .ok name else .error (.mismatch (.unknownVariant name names))

/-! ### From a text -/

/-- The error of a text whose next character does not start what is expected. A value of another
type is read as far as it takes to name it. -/
def misfit (breaks : Breaks) (expected : String) (c : Char) (rest : Text) : Error :=
  let word (chars : List Char) (found : Found) : Error :=
    match readWord chars rest with
    | .ok _ => wrongType found expected
    | .error e => e
  let number (r : Reading Number) : Error :=
    match r with
    | .ok (n, _) => wrongType (.number n) expected
    | .error e => e
  if c = 'n' then word ['u', 'l', 'l'] .null
  else if c = 't' then word ['r', 'u', 'e'] (.bool true)
  else if c = 'f' then word ['a', 'l', 's', 'e'] (.bool false)
  else if c = '-' then number (readNumber true rest)
  else if isDigit c then number (readNumber false (c :: rest))
  else if c = '"' then
    match readCharacters breaks rest with
    | .ok (s, _) => wrongType (.string (.ofList s)) expected
    | .error e => e
  else if c = '[' then wrongType .sequence expected
  else if c = '\x7b' then wrongType .map expected
  else .expectedValue

/-- Goes on with the first character that is not blank, if there is one. -/
def atNext {α : Type} (text : Text) (k : Char → Text → Except Error α) : Except Error α :=
  match skipSpace text with
  | [] => .error .endOfValue
  | c :: rest => k c rest

/-- Null, if it is next. -/
def nullText? (text : Text) : Except Error (Option Text) :=
  match skipSpace text with
  | 'n' :: rest => (readWord ['u', 'l', 'l'] rest).map some
  | _ => .ok none

/-- A truth value. -/
def boolText? (breaks : Breaks) (text : Text) : Reading Bool :=
  atNext text fun c rest =>
    if c = 't' then (readWord ['r', 'u', 'e'] rest).map fun rest => (true, rest)
    else if c = 'f' then (readWord ['a', 'l', 's', 'e'] rest).map fun rest => (false, rest)
    else .error (misfit breaks "a boolean" c rest)

/-- A number. -/
def numberText (breaks : Breaks) (expected : String) (text : Text) : Reading Number :=
  atNext text fun c rest =>
    if c = '-' then readNumber true rest
    else if isDigit c then readNumber false (c :: rest)
    else .error (misfit breaks expected c rest)

/-- A string. -/
def stringText? (breaks : Breaks) (expected : String) (text : Text) : Reading String :=
  atNext text fun c rest =>
    if c = '"' then (readCharacters breaks rest).map fun r => (.ofList r.1, r.2)
    else .error (misfit breaks expected c rest)

/-- Null and nothing else. -/
def unitText (breaks : Breaks) (text : Text) : Except Error Text :=
  atNext text fun c rest =>
    if c = 'n' then readWord ['u', 'l', 'l'] rest else .error (misfit breaks "unit" c rest)

/-- One of the names, as a string or as the only member of an object. -/
def variantText (breaks : Breaks) (depth : Nat) (names : List String) (text : Text) : Reading String :=
  atNext text fun c rest =>
    if c = '"' then do
      let (s, rest) ← readCharacters breaks rest
      return (← chooseVariant names (.ofList s), rest)
    else if c = '\x7b' then
      if depth ≤ 1 then .error .recursionLimit else do
        let (s, rest) ← stringText? breaks "variant identifier" rest
        let name ← chooseVariant names s
        let rest ← colon rest >>= unitText breaks
        match skipSpace rest with
        | [] => .error .endOfObject
        | d :: rest => if d = '\x7d' then .ok (name, rest) else .error .expectedValue
    else .error .expectedValue

/-- Reading from a text in which `depth - 1` containers may be nested. -/
def Source.text (breaks : Breaks) (depth : Nat) : Source Text where
  null? := nullText?
  bool := boolText? breaks
  number := numberText breaks
  string := stringText? breaks
  variant := variantText breaks depth
  any := fun text => readValue breaks (fuelFor text) depth text

/-! ### From a value -/

/-- One of the names, as a string or as the only member of an object. -/
def variantValue (names : List String) : Json → Except Error String
  | .string s => chooseVariant names s
  | .object [(s, content)] => do
    let name ← chooseVariant names s
    match content with
    | .null => .ok name
    | other => .error (wrongType (.ofValue other) "unit")
  | .object _ => .error (.mismatch (.invalidValue .map "map with a single key"))
  | other => .error (wrongType (.ofValue other) "string or map")

/-- Reading from a value, which is its own place throughout. -/
def Source.value : Source Json where
  null? := fun v => match v with
    | .null => .ok (some v)
    | _ => .ok none
  bool := fun v => match v with
    | .bool b => .ok (b, v)
    | _ => .error (wrongType (.ofValue v) "a boolean")
  number := fun expected v => match v with
    | .number n => .ok (n, v)
    | _ => .error (wrongType (.ofValue v) expected)
  string := fun expected v => match v with
    | .string s => .ok (s, v)
    | _ => .error (wrongType (.ofValue v) expected)
  variant := fun names v => (variantValue names v).map fun name => (name, v)
  any := fun v => .ok (v, v)

/-! ### Combinations -/

/-- Null, or what is expected. -/
def Source.optional {σ α : Type} (source : Source σ) (read : σ → Except Error (α × σ)) (place : σ) :
    Except Error (Option α × σ) := do
  match ← source.null? place with
  | some rest => return (none, rest)
  | none =>
    let (v, rest) ← read place
    return (some v, rest)

/-- An integer within bounds. -/
def boundedInt (low high : Int) (expected : String) : Number → Except Error Int
  | .integer i inRange =>
    if low ≤ i ∧ i ≤ high then .ok i
    else .error (.mismatch (.invalidValue (.number (.integer i inRange)) expected))
  | .real x => .error (wrongType (.number (.real x)) expected)

/-- An integer within bounds, from a source. -/
def Source.int {σ : Type} (source : Source σ) (low high : Int) (expected : String) (place : σ) :
    Except Error (Int × σ) := do
  let (n, rest) ← source.number expected place
  return (← boundedInt low high expected n, rest)

end StubServer.Json
