import StubServer.Yaml.Token.Scan

/-!
# YAML documents

A document is a node: a scalar, a list, a mapping, or a reference to a node that has a name. The
nodes are put together from the tokens of a text.

## Main definitions

* `Node`: the nodes; `Node.target?` finds what a reference stands for.
* `Node.ofText?`: the document in a text.
-/

namespace StubServer.Yaml

/-- A node of a document. -/
inductive Node where
  /-- A scalar, with its tag if it has one. -/
  | scalar (tag : Option String) (style : Style) (text : String)
  | sequence (items : List Node)
  | mapping (entries : List (Node × Node))
  /-- A node that can be referred to by a number. -/
  | anchored (number : Nat) (node : Node)
  /-- A reference to the node with a number. -/
  | reference (number : Nat)

namespace Node

/-- A scalar where nothing is written. -/
def blank : Node := scalar none .plain ""

/-! ### Tokens to nodes -/

/-- What is known of the document in the middle of its tokens. -/
structure Context where
  /-- What the handles of tags stand for, those declared last first. -/
  handles : List (String × String) := []
  /-- The numbers that the names of nodes stand for, one for each name. -/
  names : List (String × Nat) := []

/-- The handles that need not be declared. -/
def standardHandles : List (String × String) :=
  [("!", "!"), ("!!", "tag:yaml.org,2002:")]

/-- Gives a name a number, the number of names before. -/
def Context.name (name : String) (context : Context) : Context :=
  { context with
    names := (name, context.names.length) :: context.names.filter fun entry => entry.1 != name }

/-- A part of a document, the tokens after it, and what is known then. -/
structure Parsed (α : Type) where
  part : α
  rest : List Token
  context : Context

/-- Changes the part. -/
def Parsed.map {α β : Type} (f : α → β) (parsed : Parsed α) : Parsed β :=
  { part := f parsed.part, rest := parsed.rest, context := parsed.context }

/-- What stands before a node: a tag and the number it is given, each at most once. -/
structure Properties where
  tag : Option String := none
  number : Option Nat := none

/-- Whether there is a tag or a number. -/
def Properties.isPresent (properties : Properties) : Bool :=
  properties.tag.isSome || properties.number.isSome

/-- A node with a number, if it is given one. -/
def Properties.attach (properties : Properties) (node : Node) : Node :=
  match properties.number with
  | some number => anchored number node
  | none => node

/-- The full text of a tag. Its handle must be declared. -/
def fullTag? (context : Context) (handle suffix : String) : Option String :=
  if handle.isEmpty then some suffix
  else (context.handles.lookup handle).map (· ++ suffix)

/-- The number that is given with a name. -/
def number (name : String) (context : Context) : Option Nat :=
  context.names.lookup name

/-- Reads the properties of a node, in any order. -/
def properties (context : Context) : List Token → Option (Parsed Properties)
  | .anchor name :: .tag handle suffix :: rest | .tag handle suffix :: .anchor name :: rest => do
    let context := context.name name
    let tag ← fullTag? context handle suffix
    return { part := { tag, number := number name context }, rest, context }
  | .anchor name :: rest =>
    let context := context.name name
    some { part := { number := number name context }, rest, context }
  | .tag handle suffix :: rest => do
    return { part := { tag := ← fullTag? context handle suffix }, rest, context }
  | rest => some { part := {}, rest, context }

/-- Whether a node may be left out before some tokens: the document or the level ends, or the next
item, key or value begins. -/
def isOmitted (isEnd : Token → Bool) : List Token → Bool
  | [] => true
  | token :: _ => isEnd token

/-- The tag of a scalar. An exclamation mark alone is none. -/
def scalarTag (tag : Option String) : Option String :=
  if tag = some "!" then none else tag

mutual

/-- Reads a node. A list that is the value of a key may stand at the column of the key, `mayHang`. If
there are only properties, nothing is written in place of the node. -/
def read (mayHang : Bool) : Nat → Context → List Token → Option (Parsed Node)
  | 0, _, _ => none
  | fuel + 1, context, tokens =>
    match tokens with
    | .reference name :: rest => do
      return { part := reference (← number name context), rest, context }
    | tokens => do
      let { part := found, rest, context } ← properties context tokens
      let finish (parsed : Parsed Node) : Parsed Node := parsed.map found.attach
      let nothing : Option (Parsed Node) :=
        if found.isPresent then some (finish { part := scalar found.tag .plain "", rest, context })
        else none
      match rest with
      | .item :: _ =>
        if mayHang then return finish ((← readHanging fuel context rest).map sequence)
        else nothing
      | .scalar style text :: rest =>
        return finish { part := scalar (scalarTag found.tag) style text, rest, context }
      | .flowSequence :: rest =>
        return finish ((← readFlowItems true fuel context rest).map sequence)
      | .flowMapping :: rest =>
        return finish ((← readFlowEntries true fuel context rest).map mapping)
      | .blockSequence :: rest => return finish ((← readItems fuel context rest).map sequence)
      | .blockMapping :: rest => return finish ((← readEntries fuel context rest).map mapping)
      | _ => nothing

/-- Reads a node that may be left out. -/
def readOptional (mayHang : Bool) (isEnd : Token → Bool) :
    Nat → Context → List Token → Option (Parsed Node)
  | 0, _, _ => none
  | fuel + 1, context, tokens =>
    if isOmitted isEnd tokens then some { part := blank, rest := tokens, context }
    else read mayHang fuel context tokens

/-- Reads the items of a list that is laid out by indentation. -/
def readItems : Nat → Context → List Token → Option (Parsed (List Node))
  | 0, _, _ => none
  | fuel + 1, context, tokens =>
    match tokens with
    | .item :: rest => do
      let first ← readOptional false
        (fun token => token = .item ∨ token = .blockEnd) fuel context rest
      return (← readItems fuel first.context first.rest).map (first.part :: ·)
    | .blockEnd :: rest => some { part := [], rest, context }
    | _ => none

/-- Reads the items of a list at the column of its key. -/
def readHanging : Nat → Context → List Token → Option (Parsed (List Node))
  | 0, _, _ => none
  | fuel + 1, context, tokens =>
    match tokens with
    | .item :: rest => do
      let first ← readOptional false
        (fun token => token = .item ∨ token = .key ∨ token = .value ∨ token = .blockEnd)
        fuel context rest
      return (← readHanging fuel first.context first.rest).map (first.part :: ·)
    | rest => some { part := [], rest, context }

/-- Reads the entries of a mapping that is laid out by indentation. -/
def readEntries : Nat → Context → List Token → Option (Parsed (List (Node × Node)))
  | 0, _, _ => none
  | fuel + 1, context, tokens => do
    let isEnd (token : Token) : Bool := token = .key ∨ token = .value ∨ token = .blockEnd
    match tokens with
    | .key :: rest =>
      let key ← readOptional true isEnd fuel context rest
      let value ← match key.rest with
        | .value :: rest => readOptional true isEnd fuel key.context rest
        | rest => some { part := blank, rest, context := key.context }
      return (← readEntries fuel value.context value.rest).map ((key.part, value.part) :: ·)
    | .blockEnd :: rest => return { part := [], rest, context }
    | _ => none

/-- Reads the items of a list in brackets. A key and a value make a mapping of their own. -/
def readFlowItems (isFirst : Bool) : Nat → Context → List Token → Option (Parsed (List Node))
  | 0, _, _ => none
  | fuel + 1, context, tokens => do
    let more (first : Parsed Node) : Option (Parsed (List Node)) := do
      return (← readFlowItems false fuel first.context first.rest).map (first.part :: ·)
    let item (tokens : List Token) : Option (Parsed (List Node)) :=
      match tokens with
      | .flowSequenceEnd :: rest => some { part := [], rest, context }
      | .key :: rest => do more (← readPair fuel context rest)
      | tokens => do more (← read false fuel context tokens)
    match tokens with
    | .flowSequenceEnd :: rest => some { part := [], rest, context }
    | .comma :: rest => if isFirst then item tokens else item rest
    | tokens => if isFirst then item tokens else none

/-- Reads a mapping of one entry in a list in brackets, after the mark of its key. If there is no
key the next token is passed over. -/
def readPair : Nat → Context → List Token → Option (Parsed Node)
  | 0, _, _ => none
  | fuel + 1, context, tokens => do
    let isEnd (token : Token) : Bool := token = .comma ∨ token = .flowSequenceEnd
    let key ←
      if isOmitted (fun token => token = .value ∨ isEnd token) tokens then
        some { part := blank, rest := tokens.drop 1, context }
      else read false fuel context tokens
    let value ← match key.rest with
      | .value :: rest => readOptional false isEnd fuel key.context rest
      | rest => some { part := blank, rest, context := key.context }
    return value.map fun value => mapping [(key.part, value)]

/-- Reads the entries of a mapping in brackets. The mark of a key may be missing, and then the value
is missing too. -/
def readFlowEntries (isFirst : Bool) :
    Nat → Context → List Token → Option (Parsed (List (Node × Node)))
  | 0, _, _ => none
  | fuel + 1, context, tokens => do
    let isEnd (token : Token) : Bool := token = .comma ∨ token = .flowMappingEnd
    let more (key : Node) (value : Parsed Node) : Option (Parsed (List (Node × Node))) := do
      return (← readFlowEntries false fuel value.context value.rest).map ((key, value.part) :: ·)
    let entry (tokens : List Token) : Option (Parsed (List (Node × Node))) :=
      match tokens with
      | .flowMappingEnd :: rest => some { part := [], rest, context }
      | .key :: rest => do
        let key ← readOptional false (fun token => token = .value ∨ isEnd token)
          fuel context rest
        match key.rest with
        | .value :: rest => more key.part (← readOptional false isEnd fuel key.context rest)
        | rest => more key.part { part := blank, rest, context := key.context }
      | tokens => do
        let key ← read false fuel context tokens
        more key.part { part := blank, rest := key.rest, context := key.context }
    match tokens with
    | .flowMappingEnd :: rest => some { part := [], rest, context }
    | .comma :: rest => if isFirst then entry tokens else entry rest
    | tokens => if isFirst then entry tokens else none

end

/-! ### Documents -/

/-- Reads the directives before a document: at most one version, which must be 1.1 or 1.2, and no
handle twice. -/
def readDirectives (hasVersion : Bool) (declared : List (String × String)) :
    List Token → Option (List (String × String) × List Token)
  | .version major minor :: rest =>
    if hasVersion || major != 1 || !(minor == 1 || minor == 2) then none
    else readDirectives true declared rest
  | .tagHandle name meaning :: rest =>
    if (declared.lookup name).isSome then none
    else readDirectives hasVersion ((name, meaning) :: declared) rest
  | rest => some (declared, rest)

/-- Whether a token ends a document. -/
def endsDocument : Token → Bool
  | .version .. | .tagHandle .. | .documentStart | .documentEnd => true
  | _ => false

/-- Reads a document, which may begin without a mark. -/
def readDocument (tokens : List Token) : Option (Parsed Node) :=
  let fuel := 3 * tokens.length + 3
  match tokens with
  | .version .. :: _ | .tagHandle .. :: _ | .documentStart :: _ => do
    let (declared, rest) ← readDirectives false [] tokens
    match rest with
    | .documentStart :: rest =>
      readOptional false endsDocument fuel { handles := declared ++ standardHandles } rest
    | _ => none
  | tokens => read false fuel { handles := standardHandles } tokens

/-- The only document among some tokens, or nothing if there is none. -/
def ofTokens? : List Token → Option (Option Node)
  | [] => some none
  | tokens => do
    let document ← readDocument tokens
    if document.rest.all (· = .documentEnd) then return some document.part else none

/-- The only document in a text, or nothing if there is none. A text of several documents is
malformed. -/
def ofText? (text : String) : Option (Option Node) := do
  ofTokens? (← Token.ofText? text)

/-! ### References -/

mutual

/-- The nodes with a number, in the order of the text. -/
def anchors : Node → List (Nat × Node)
  | scalar .. | reference _ => []
  | anchored number node => (number, node) :: anchors node
  | sequence items => itemAnchors items
  | mapping entries => entryAnchors entries

/-- The nodes with a number in a list. -/
def itemAnchors : List Node → List (Nat × Node)
  | [] => []
  | node :: rest => anchors node ++ itemAnchors rest

/-- The nodes with a number in a mapping. -/
def entryAnchors : List (Node × Node) → List (Nat × Node)
  | [] => []
  | (key, value) :: rest => anchors key ++ anchors value ++ entryAnchors rest

end

/-- The last node with a number in a document. -/
def target? (document : Node) (number : Nat) : Option Node :=
  document.anchors.reverse.lookup number

/-- The node that stands at a place of a document, without its number, after following a reference.
-/
def resolve (document : Node) : Node → Option Node
  | reference number => target? document number
  | anchored _ node => some node
  | node => some node

end Node

end StubServer.Yaml
