import StubServer.Rule.Wire
import StubServer.Store.Disk
import StubServer.Store.Table

/-!
# Stores

A store keeps rules in a table, and if it has a file, in that file as well: the file is written anew
with every change, and a change that cannot be written is taken back.

What may go wrong with a call is decided from outside and given to the call as its condition.

## Main definitions

* `Store`: a store; `Store.ofRules` is one in memory, `Store.ofDisk` one with a file.
* `Store.Condition`: what goes wrong with a call.
* `Store.loadAll`, `Store.load`, `Store.save`, `Store.delete`, `Store.count`, `Store.countEnabled`: the
  calls.
-/

namespace StubServer

/-- A store. -/
structure Store where
  table : Table := {}
  /-- The file, if the store has one. -/
  disk : Option Disk := none
  deriving DecidableEq, Inhabited

/-- What goes wrong with a call of a store. -/
structure Store.Condition where
  /-- Why nothing can be read. -/
  noReads : Option String := none
  /-- Why nothing can be written. -/
  noWrites : Option String := none
  /-- Whether deleting reports that there was nothing to delete. -/
  losesDelete : Bool := false
  /-- Where writing the file anew is cut off. -/
  cut : Option Disk.Cut := none
  deriving DecidableEq, Inhabited

namespace Store

/-- The text of the file of a table. -/
def fileText (table : Table) : String :=
  (Rule.listToJson table.all).renderPretty

/-- The rules that the text of a file holds. A blank file holds none. -/
def rulesOfFile (text : String) : Except StoreError (List Rule) :=
  if isBlankText text then .ok []
  else
    match Rule.listOfText text with
    | .ok rules => .ok rules
    | .error cause => .error (.serialization cause)

/-- A store in memory with the given rules. -/
def ofRules (rules : List Rule) : Except StoreError Store :=
  (Table.ofRules rules).map fun table => { table }

/-- The store with a file. If the file does not exist the store is empty. -/
def ofDisk (disk : Disk) : Except StoreError Store :=
  match disk.content? with
  | none => .ok { disk := some disk }
  | some text => do
    let table ← Table.ofRules (← rulesOfFile text)
    return { table, disk := some disk }

/-! ### Reading -/

/-- A reading call. -/
def reading {α : Type} (condition : Condition) (result : α) : Except StoreError α :=
  match condition.noReads with
  | some reason => .error (.unavailable reason)
  | none => .ok result

/-- All rules, in the order of their numbers. -/
def loadAll (condition : Condition) (store : Store) : Except StoreError (List Rule) :=
  reading condition store.table.all

/-- The rule with a number, if there is one. -/
def load (condition : Condition) (id : Int) (store : Store) : Except StoreError (Option Rule) :=
  reading condition (store.table.find? id)

/-- The number of rules. -/
def count (condition : Condition) (store : Store) : Except StoreError Nat :=
  reading condition store.table.size

/-- The number of enabled rules. -/
def countEnabled (condition : Condition) (store : Store) : Except StoreError Nat :=
  reading condition store.table.enabledCount

/-! ### Writing -/

/-- Takes over a changed table, if it can be written. -/
def commit {α : Type} (condition : Condition) (result : α) (table : Table) (store : Store) :
    Except StoreError α × Store :=
  match store.disk with
  | none => (.ok result, { store with table })
  | some disk =>
    match disk.replace condition.cut (fileText table) with
    | (none, disk) => (.ok result, { table, disk := some disk })
    | (some reason, disk) => (.error (.io reason), { store with disk := some disk })

/-- Saves a rule. -/
def save (condition : Condition) (rule : Rule) (store : Store) : Except StoreError Rule × Store :=
  match condition.noWrites with
  | some reason => (.error (.unavailable reason), store)
  | none =>
    match store.table.save rule with
    | .ok (saved, table) => store.commit condition saved table
    | .error e => (.error e, store)

/-- Deletes the rule with a number, and tells whether there was one. -/
def delete (condition : Condition) (id : Int) (store : Store) : Except StoreError Bool × Store :=
  match condition.noWrites with
  | some reason => (.error (.unavailable reason), store)
  | none =>
    let (found, table) := store.table.delete id
    store.commit condition (found && !condition.losesDelete) table

end Store

end StubServer
