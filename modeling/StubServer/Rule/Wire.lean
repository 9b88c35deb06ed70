import StubServer.Json.Bytes
import StubServer.Json.Source
import StubServer.Json.Write
import StubServer.Rule.Basic
import StubServer.Timestamp.Parse

/-!
# The JSON form of rules

A rule is written as an object with its fields in a fixed order, without those that are absent.
It is read from an object, in which fields may be missing, in any order and mixed with others
that are read over, or from a list of its fields in that fixed order. A pattern or a response
may be given as a JSON value in place of a text; it then stands for its compact text.

## Main definitions

* `Rule.Field`: the fields; `Rule.readField` reads one of them into a rule.
* `Rule.ofText`, `Rule.listOfText`: read a rule or a list of rules from a text.
* `Rule.ofBytes`, `Rule.listOfBytes`: the same from bytes, which need not be a text where they are read
  over.
* `Rule.ofValue`, `Rule.listOfValue`: the same from a value that was read before.
* `Rule.toJson`: the object that a rule is written as.
-/

namespace StubServer.Rule

open Json (Breaks Source Text Error)

/-- The fields of a rule, in the order in which they are written. -/
inductive Field where
  | id
  | name
  | description
  | externalKey
  | enabled
  | priority
  | method
  | url
  | urlMatch
  | headerPattern
  | queryPattern
  | bodyPattern
  | response
  | createdAt
  | updatedAt
  deriving DecidableEq

/-- The fields in order. -/
def Field.all : List Field :=
  [.id, .name, .description, .externalKey, .enabled, .priority, .method, .url, .urlMatch,
    .headerPattern, .queryPattern, .bodyPattern, .response, .createdAt, .updatedAt]

/-- The name of a field. -/
def Field.label : Field → String
  | .id => "id"
  | .name => "name"
  | .description => "description"
  | .externalKey => "uuid"
  | .enabled => "enabled"
  | .priority => "priority"
  | .method => "method"
  | .url => "url"
  | .urlMatch => "urlMatchType"
  | .headerPattern => "requestHeadersPattern"
  | .queryPattern => "queryParametersPattern"
  | .bodyPattern => "requestBodyPattern"
  | .response => "responseDefinition"
  | .createdAt => "createdAt"
  | .updatedAt => "updatedAt"

/-- The field with the given name. -/
def Field.ofLabel? (label : String) : Option Field :=
  Field.all.find? fun f => f.label == label

/-! ### Reading -/

variable {σ : Type}

/-- Reads a text, or a value that stands for one. -/
def readRawText (source : Source σ) (place : σ) : Except Error (Option String × σ) := do
  let (v, rest) ← source.any place
  match v with
  | .null => return (none, rest)
  | v => return (some (v.asText), rest)

/-- Reads a timestamp. -/
def readTimestamp (source : Source σ) (place : σ) : Except Error (Timestamp × σ) := do
  let (s, rest) ← source.string "an RFC 3339 formatted date and time string" place
  match Timestamp.parse s with
  | .ok t => return (t, rest)
  | .error fault => throw (.mismatch (.refused fault.message))

/-- Reads how the URL pattern is interpreted. -/
def readUrlMatch (source : Source σ) (place : σ) : Except Error (UrlMatch × σ) := do
  let (name, rest) ← source.variant (UrlMatch.all.map UrlMatch.name) place
  return ((UrlMatch.ofName? name).getD .equals, rest)

/-- Reads one field into a rule. -/
def readField (source : Source σ) (field : Field) (rule : Rule) (place : σ) :
    Except Error (Rule × σ) := do
  let string := source.string "a string"
  match field with
  | .id =>
    let (id, rest) ← source.optional (source.int (-9223372036854775808) 9223372036854775807 "i64") place
    return ({ rule with id }, rest)
  | .name =>
    let (name, rest) ← string place
    return ({ rule with name }, rest)
  | .description =>
    let (description, rest) ← source.optional string place
    return ({ rule with description }, rest)
  | .externalKey =>
    let (externalKey, rest) ← source.optional string place
    return ({ rule with externalKey }, rest)
  | .enabled =>
    let (enabled, rest) ← source.bool place
    return ({ rule with enabled }, rest)
  | .priority =>
    let (priority, rest) ← source.int (-2147483648) 2147483647 "i32" place
    return ({ rule with priority }, rest)
  | .method =>
    let (method, rest) ← string place
    return ({ rule with method }, rest)
  | .url =>
    let (url, rest) ← string place
    return ({ rule with url }, rest)
  | .urlMatch =>
    let (urlMatch, rest) ← readUrlMatch source place
    return ({ rule with urlMatch }, rest)
  | .headerPattern =>
    let (headerPattern, rest) ← readRawText source place
    return ({ rule with headerPattern }, rest)
  | .queryPattern =>
    let (queryPattern, rest) ← readRawText source place
    return ({ rule with queryPattern }, rest)
  | .bodyPattern =>
    let (bodyPattern, rest) ← readRawText source place
    return ({ rule with bodyPattern }, rest)
  | .response =>
    let (response, rest) ← readRawText source place
    return ({ rule with response := response.getD "" }, rest)
  | .createdAt =>
    let (createdAt, rest) ← source.optional (readTimestamp source) place
    return ({ rule with createdAt }, rest)
  | .updatedAt =>
    let (updatedAt, rest) ← source.optional (readTimestamp source) place
    return ({ rule with updatedAt }, rest)

/-! ### From a text -/

/-- Reads the members of a rule's object. A field that was seen may not come again. -/
def membersOfText (breaks : Breaks) (depth : Nat) : (fuel : Nat) → (first : Bool) → List Field → Rule → Text →
    Except Error (Rule × Text)
  | 0, _, _, _, _ => .error .endOfObject
  | fuel + 1, first, seen, rule, text => do
    match ← Json.nextName breaks first text with
    | (none, rest) => return (rule, rest)
    | (some label, rest) =>
      match Field.ofLabel? label with
      | none =>
        let rest ← Json.colon rest
        let rest ← Json.skipValue (Json.fuelFor rest) rest
        membersOfText breaks depth fuel false seen rule rest
      | some field =>
        if seen.contains field then throw (.mismatch (.duplicateField label)) else
        let rest ← Json.colon rest
        let (rule, rest) ← readField (.text breaks depth) field rule rest
        membersOfText breaks depth fuel false (field :: seen) rule rest

/-- The bracket after the last field of a list. -/
def listEnd (text : Text) : Except Error Text :=
  match Json.skipSpace text with
  | [] => .error .endOfList
  | c :: rest =>
    if c = ']' then .ok rest
    else if c = ',' then
      match Json.skipSpace rest with
      | ']' :: _ => .error .trailingComma
      | _ => .error .trailingCharacters
    else .error .trailingCharacters

/-- Reads the fields of a rule's list, as many as there are. -/
def fieldsOfText (breaks : Breaks) (depth : Nat) : (first : Bool) → List Field → Rule → Text →
    Except Error (Rule × Text)
  | _, [], rule, text => do return (rule, ← listEnd text)
  | first, field :: fields, rule, text => do
    match ← Json.nextItem first text with
    | (false, rest) => return (rule, rest)
    | (true, rest) =>
      let (rule, rest) ← readField (.text breaks depth) field rule rest
      fieldsOfText breaks depth false fields rule rest

/-- Reads a rule in which `depth - 1` containers may be nested, the rule included. -/
def readText (breaks : Breaks) (depth : Nat) (text : Text) : Except Error (Rule × Text) :=
  Json.atNext text fun c rest =>
    if c = '[' then
      if depth ≤ 1 then .error .recursionLimit
      else fieldsOfText breaks (depth - 1) true Field.all {} rest
    else if c = '\x7b' then
      if depth ≤ 1 then .error .recursionLimit
      else membersOfText breaks (depth - 1) (rest.length + 1) true [] {} rest
    else .error (Json.misfit breaks "struct StubRule" c rest)

/-- Reads the rules of a list. -/
def itemsOfText (breaks : Breaks) (depth : Nat) : (fuel : Nat) → (first : Bool) → Text →
    Except Error (List Rule × Text)
  | 0, _, _ => .error .endOfList
  | fuel + 1, first, text => do
    match ← Json.nextItem first text with
    | (false, rest) => return ([], rest)
    | (true, rest) =>
      let (rule, rest) ← readText breaks depth rest
      let (rules, rest) ← itemsOfText breaks depth fuel false rest
      return (rule :: rules, rest)

/-- Reads a list of rules. -/
def readList (breaks : Breaks) (text : Text) : Except Error (List Rule × Text) :=
  Json.atNext text fun c rest =>
    if c = '[' then itemsOfText breaks (Json.depthLimit - 1) (rest.length + 1) true rest
    else .error (Json.misfit breaks "a sequence" c rest)

/-- Reads a text that is one rule. -/
def ofText (s : String) : Except Error Rule :=
  readText [] Json.depthLimit s.toList >>= Json.finish

/-- Reads a text that is a list of rules. -/
def listOfText (s : String) : Except Error (List Rule) :=
  readList [] s.toList >>= Json.finish

/-- Reads bytes that are one rule. -/
def ofBytes (bytes : List UInt8) : Except Error Rule :=
  let parts := Utf8.scan none bytes
  readText (Json.breaksOf parts) Json.depthLimit (Json.textOf parts) >>= Json.finish

/-- Reads bytes that are a list of rules. -/
def listOfBytes (bytes : List UInt8) : Except Error (List Rule) :=
  let parts := Utf8.scan none bytes
  readList (Json.breaksOf parts) (Json.textOf parts) >>= Json.finish

/-! ### From a value -/

/-- Reads the members of a rule's object; those that are no fields are left out. -/
def membersOfValue : List (String × Json) → Rule → Except Error Rule
  | [], rule => .ok rule
  | (label, v) :: members, rule =>
    match Field.ofLabel? label with
    | none => membersOfValue members rule
    | some field => do
      let (rule, _) ← readField .value field rule v
      membersOfValue members rule

/-- Reads the fields of a rule's list, as many as there are; `length` is how long the whole list
is. -/
def fieldsOfValue (length : Nat) : List Field → List Json → Rule → Except Error Rule
  | _, [], rule => .ok rule
  | [], _ :: _, _ =>
    .error (.mismatch (.invalidLength length "fewer elements in array"))
  | field :: fields, v :: items, rule => do
    let (rule, _) ← readField .value field rule v
    fieldsOfValue length fields items rule

/-- Reads a rule from a value. -/
def ofValue : Json → Except Error Rule
  | .object members => membersOfValue members {}
  | .array items => fieldsOfValue items.length Field.all items {}
  | v => .error (Json.wrongType (.ofValue v) "struct StubRule")

/-- Reads a list of rules from a value. -/
def listOfValue : Json → Except Error (List Rule)
  | .array items => items.mapM ofValue
  | v => .error (Json.wrongType (.ofValue v) "a sequence")

/-! ### Writing -/

/-- What is written for a field, if anything. -/
def fieldJson (rule : Rule) : Field → Option Json
  | .id => rule.id.map Json.ofInt
  | .name => some (.string rule.name)
  | .description => rule.description.map .string
  | .externalKey => rule.externalKey.map .string
  | .enabled => some (.bool rule.enabled)
  | .priority => some (.ofInt rule.priority)
  | .method => some (.string rule.method)
  | .url => some (.string rule.url)
  | .urlMatch => some (.string rule.urlMatch.name)
  | .headerPattern => rule.headerPattern.map .string
  | .queryPattern => rule.queryPattern.map .string
  | .bodyPattern => rule.bodyPattern.map .string
  | .response => some (.string rule.response)
  | .createdAt => rule.createdAt.map fun t => .string t.text
  | .updatedAt => rule.updatedAt.map fun t => .string t.text

/-- The object that a rule is written as. -/
def toJson (rule : Rule) : Json :=
  .object (Field.all.filterMap fun field =>
    (rule.fieldJson field).map fun v => (field.label, v))

/-- The list that rules are written as. -/
def listToJson (rules : List Rule) : Json :=
  .array (rules.map toJson)

end StubServer.Rule
