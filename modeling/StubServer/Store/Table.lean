import StubServer.Json.Error
import StubServer.Rule.Basic

/-!
# The table of stored rules

Stored rules have numbers, by which they are sorted. A rule that is saved without one gets the next
number that was never given, so that the number of a deleted rule is not used again.

## Main definitions

* `Table`: the rules by number, and the greatest number given so far.
* `Table.ofRules`: the table of rules some of which may have numbers.
* `Table.save`, `Table.delete`: the changes.
* `StoreError`: what can go wrong with a store.
-/

namespace StubServer

/-- What can go wrong with a store. -/
inductive StoreError where
  /-- The file could not be written. -/
  | io (reason : String)
  /-- The file does not hold rules. -/
  | serialization (cause : Json.Error)
  /-- Two rules to be loaded have the same number. -/
  | duplicateId (id : Int)
  /-- A rule is to be saved under a number that was given but is not stored. -/
  | unknownId (id : Int)
  /-- The store cannot be used now. -/
  | unavailable (reason : String)
  deriving DecidableEq

namespace StoreError

/-- The wording of an error. -/
def message : StoreError → String
  | io reason => "Storage I/O error: " ++ reason
  | serialization cause => "Storage serialization error: " ++ cause.message
  | duplicateId id => "Storage conflict: duplicate stub id " ++ .ofList (intText id)
  | unknownId id => "Storage conflict: stub " ++ .ofList (intText id) ++ " does not exist in the store"
  | unavailable reason => "Store unavailable: " ++ reason

/-- Whether a write conflicts with what is stored. -/
def isConflict : StoreError → Bool
  | duplicateId _ | unknownId _ => true
  | _ => false

end StoreError

/-- The rules by number. -/
structure Table where
  /-- The rules with their numbers, in ascending order. -/
  rows : List (Int × Rule) := []
  /-- The greatest number given so far. -/
  lastId : Int := 0
  deriving DecidableEq, Inhabited

namespace Table

/-- The number after another. Numbers have 64 bits with a sign, and after the greatest comes the
least. -/
def following (id : Int) : Int :=
  (id + 1).bmod 18446744073709551616

/-- Puts a rule under its number, in place of any other there. -/
def insertRow (id : Int) (rule : Rule) : List (Int × Rule) → List (Int × Rule)
  | [] => [(id, rule)]
  | row :: rest =>
    if id < row.1 then (id, rule) :: row :: rest
    else if id = row.1 then (id, rule) :: rest
    else row :: insertRow id rule rest

/-- All rules, in the order of their numbers. -/
def all (table : Table) : List Rule :=
  table.rows.map (·.2)

/-- The rule with a number. -/
def find? (id : Int) (table : Table) : Option Rule :=
  (table.rows.find? fun row => row.1 == id).map (·.2)

/-- Whether a number is in use. -/
def contains (id : Int) (table : Table) : Bool :=
  table.rows.any fun row => row.1 == id

/-- Saves a rule, under its own number or under the next one. A rule may bring a number that is in
use, or one that is greater than all that were given. -/
def save (rule : Rule) (table : Table) : Except StoreError (Rule × Table) :=
  match rule.id with
  | some id =>
    if table.contains id then .ok (rule, { table with rows := insertRow id rule table.rows })
    else if table.lastId < id then
      .ok (rule, { rows := insertRow id rule table.rows, lastId := id })
    else .error (.unknownId id)
  | none =>
    let id := following table.lastId
    let rule := { rule with id := some id }
    .ok (rule, { rows := insertRow id rule table.rows, lastId := id })

/-- Deletes the rule with a number, and tells whether there was one. -/
def delete (id : Int) (table : Table) : Bool × Table :=
  (table.contains id, { table with rows := table.rows.filter fun row => row.1 != id })

/-- Puts rules with numbers into a table. -/
def loadNumbered : List (Int × Rule) → Table → Except StoreError Table
  | [], table => .ok table
  | (id, rule) :: rest, table =>
    if table.contains id then .error (.duplicateId id)
    else loadNumbered rest
      { rows := insertRow id rule table.rows, lastId := max table.lastId id }

/-- Saves rules one after the other. -/
def saveAll : List Rule → Table → Except StoreError Table
  | [], table => .ok table
  | rule :: rest, table =>
    match table.save rule with
    | .ok (_, table) => saveAll rest table
    | .error e => .error e

/-- The table of rules. Those with numbers keep them, in whatever order they come; the others are
numbered after the greatest one. -/
def ofRules (rules : List Rule) : Except StoreError Table :=
  match loadNumbered (rules.filterMap fun rule => rule.id.map fun id => (id, rule)) {} with
  | .ok table => saveAll (rules.filter fun rule => rule.id.isNone) table
  | .error e => .error e

/-- The number of rules. -/
def size (table : Table) : Nat :=
  table.rows.length

/-- The number of enabled rules. -/
def enabledCount (table : Table) : Nat :=
  (table.all.filter Rule.enabled).length

end Table

end StubServer
