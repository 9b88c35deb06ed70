import StubServer.Engine.Error
import StubServer.Index
import StubServer.Store.Basic

/-!
# Operations on store and index

Each operation first checks what it is given, then changes the store, and says how the index has to
change only when the store has taken the change. The index has no part in the decision.

## Main definitions

* `Plan`: what an operation comes to: a result, the store after it and changes of the index.
* `Plan.create`, `Plan.createBatch`, `Plan.update`, `Plan.delete`, `Plan.toggle`, `Plan.reload`: the
  operations.
* `Surroundings`: what an operation meets: failures of the store, the time and fresh keys.
-/

namespace StubServer

/-- What an operation meets. The calls of the store, the readings of the clock and the keys are
numbered from zero within each operation. -/
structure Surroundings where
  /-- What goes wrong with each call of the store. -/
  condition : Nat → Store.Condition := fun _ => {}
  /-- The time at each reading. -/
  clock : Nat → Timestamp
  /-- The keys for rules that bring none. -/
  freshKey : Nat → String

/-- What an operation comes to. -/
structure Plan (α : Type) where
  result : Except EngineError α
  /-- The store after the operation. -/
  store : Store
  /-- How the index has to change, one after the other. -/
  edits : List Index.Edit := []

namespace Plan

variable {α β : Type}

/-- An operation that fails and changes nothing. -/
def fail (error : EngineError) (store : Store) : Plan α :=
  { result := .error error, store }

/-- Goes on with what a reading call gives. -/
def withRead (read : Except StoreError β) (store : Store) (next : β → Plan α) : Plan α :=
  match read with
  | .ok v => next v
  | .error e => fail (.store e) store

/-- Ends with a writing call, and the changes of the index if it succeeds. -/
def endingWith (write : Except StoreError β × Store) (finish : β → α)
    (edits : β → List Index.Edit) : Plan α :=
  match write with
  | (.ok v, store) => { result := .ok (finish v), store, edits := edits v }
  | (.error e, store) => fail (.store e) store

/-- Goes on with a valid rule. -/
def withValid (rule : Rule) (store : Store) (next : Plan α) : Plan α :=
  match rule.validate with
  | .ok _ => next
  | .error problems => fail (.invalid problems) store

/-- Goes on with the stored rule that has a number. -/
def withExisting (condition : Store.Condition) (id : Int) (store : Store) (next : Rule → Plan α) :
    Plan α :=
  withRead (store.load condition id) store fun
    | some rule => next rule
    | none => fail (.notFound id) store

/-! ### Creating -/

/-- Whether a key is the own key of one of the rules. -/
def isTaken (known : List Rule) (key : String) : Bool :=
  known.any fun rule => rule.externalKey == some key

/-- A rule as it is created: with a key of its own, without a number and with the times of its
creation. -/
def prepared (rule : Rule) (freshKey : String) (now : Timestamp) : Rule :=
  { rule with
    id := none
    externalKey := some (rule.externalKey.getD freshKey)
    createdAt := some now
    updatedAt := some now }

/-- Creates a rule beside known ones, as the `i`-th rule of an operation. -/
def createOne (env : Surroundings) (i : Nat) (known : List Rule) (rule : Rule) (store : Store) :
    Plan Rule :=
  withValid rule store <|
    match rule.externalKey.filter (isTaken known) with
    | some key => fail (.keyTaken key) store
    | none =>
      endingWith (store.save (env.condition (i + 1)) (prepared rule (env.freshKey i) (env.clock i)))
        id fun saved => [.add saved]

/-- Creates a rule. A key that it brings must not belong to another rule. -/
def create (env : Surroundings) (rule : Rule) (store : Store) : Plan Rule :=
  withRead (store.loadAll (env.condition 0)) store fun known => createOne env 0 known rule store

/-- Creates rules one after the other, the first of them as the `i`-th of the operation, but skips
those for the method and URL pattern of a known rule. The first failure ends it; what was created
until then stays. -/
def createEach (env : Surroundings) : (i : Nat) → (known rules : List Rule) → Store →
    Plan (List Rule)
  | _, _, [], store => { result := .ok [], store }
  | i, known, rule :: rest, store =>
    if known.any fun other => other.sameRoute rule then createEach env (i + 1) known rest store
    else
      let first := createOne env i known rule store
      match first.result with
      | .error e => { result := .error e, store := first.store, edits := first.edits }
      | .ok saved =>
        let others := createEach env (i + 1) (known ++ [saved]) rest first.store
        { result := others.result.map (saved :: ·)
          store := others.store
          edits := first.edits ++ others.edits }

/-- Goes on if all rules are valid. -/
def withAllValid (rules : List Rule) (store : Store) (next : Plan α) : Plan α :=
  match rules with
  | [] => next
  | rule :: rest => withValid rule store (withAllValid rest store next)

/-- Creates several rules, without those for the method and URL pattern of a rule that is stored or
comes earlier in the list. Nothing is created if one of the rules has problems. -/
def createBatch (env : Surroundings) (rules : List Rule) (store : Store) : Plan (List Rule) :=
  withRead (store.loadAll (env.condition 0)) store fun known => createEach env 0 known rules store

/-! ### Changing -/

/-- A rule as it is changed: number, own key and time of creation stay. -/
def revised (existing changes : Rule) (now : Timestamp) : Rule :=
  { changes with
    id := existing.id
    externalKey := existing.externalKey
    createdAt := existing.createdAt
    updatedAt := some now }

/-- Changes a rule. Its entry in the index is replaced in one step; only if it is disabled now, or
served under another key, the old entry has to be removed. -/
def update (env : Surroundings) (id : Int) (changes : Rule) (store : Store) : Plan Rule :=
  withExisting (env.condition 0) id store fun existing =>
    let rule := revised existing changes (env.clock 0)
    withValid rule store <|
      endingWith (store.save (env.condition 1) rule) (fun saved => saved) fun saved =>
        (if !saved.enabled || saved.key != existing.key then [.remove existing.key] else []) ++
          [.add saved]

/-- Deletes a rule. -/
def delete (env : Surroundings) (id : Int) (store : Store) : Plan Unit :=
  withExisting (env.condition 0) id store fun existing =>
    endingWith (store.delete (env.condition 1) id) (fun _ => ()) fun _ => [.remove existing.key]

/-- A rule that is enabled if the given one is not. -/
def toggled (rule : Rule) (now : Timestamp) : Rule :=
  { rule with enabled := !rule.enabled, updatedAt := some now }

/-- Enables a rule, or disables it if it is enabled. -/
def toggle (env : Surroundings) (id : Int) (store : Store) : Plan Rule :=
  withExisting (env.condition 0) id store fun existing =>
    endingWith (store.save (env.condition 1) (toggled existing (env.clock 0)))
      (fun saved => saved) fun saved =>
        [if saved.enabled then .add saved else .remove saved.key]

/-- Makes the index anew from the store. -/
def reload (env : Surroundings) (store : Store) : Plan Unit :=
  withRead (store.loadAll (env.condition 0)) store fun rules =>
    { result := .ok (), store, edits := [.reload rules] }

end Plan

end StubServer
