import StubServer.Engine.Plan
import StubServer.Metrics
import StubServer.Unicode.Casing

/-!
# The engine

Keeps the rules in the store and the index of served rules together: after each operation the index
holds the enabled rules of the store. Operations that change something need a running engine.

## Main definitions

* `Engine`: store, index, whether it is running, and what was counted.
* `Engine.start`, `Engine.stop`: starts and stops it.
* `Engine.create`, `Engine.createBatch`, `Engine.update`, `Engine.delete`, `Engine.toggle`,
  `Engine.reload`: the changes.
* `Engine.get`, `Engine.list`, `Engine.search`, `Engine.statistics`: the questions.
-/

namespace StubServer

/-- The engine. -/
structure Engine where
  store : Store
  index : Index := {}
  running : Bool := false
  metrics : Metrics := {}

/-- The numbers of rules. -/
structure Statistics where
  total : Nat
  enabled : Nat
  disabled : Nat
  deriving DecidableEq

namespace Engine

variable {α β : Type}

/-! ### Changing the index -/

/-- Changes the index, and tells the metrics what the index reports. -/
def edit (engine : Engine) (edit : Index.Edit) : Engine :=
  let (index, reports) := engine.index.change edit
  { engine with index, metrics := reports.foldl Metrics.record engine.metrics }

/-- Carries out what an operation comes to. -/
def perform (engine : Engine) (plan : Plan α) : Except EngineError α × Engine :=
  (plan.result, plan.edits.foldl edit { engine with store := plan.store })

/-- What an operation comes to that needs a running engine. -/
def ifRunning (engine : Engine) (plan : Store → Plan α) : Plan α :=
  if engine.running then plan engine.store else Plan.fail .notRunning engine.store

/-- Counts an operation by its success. -/
def counted (operation : Metrics.Operation) (done : Except EngineError α × Engine) :
    Except EngineError α × Engine :=
  (done.1, { done.2 with metrics := done.2.metrics.count (.operations operation done.1.isOk) })

/-- Gives the number of served rules as the result. -/
def withSize (done : Except EngineError Unit × Engine) : Except EngineError Nat × Engine :=
  (done.1.map fun _ => done.2.index.size, done.2)

/-! ### Operations -/

/-- Fills the index from the store and starts the engine. The result is the number of served
rules. -/
def start (env : Surroundings) (engine : Engine) : Except EngineError Nat × Engine :=
  let done := withSize (engine.perform (Plan.reload env engine.store))
  (done.1, if done.1.isOk then { done.2 with running := true } else done.2)

/-- Stops the engine. The index stays as it is. -/
def stop (engine : Engine) : Engine :=
  { engine with running := false }

/-- Creates a rule. -/
def create (env : Surroundings) (rule : Rule) (engine : Engine) :
    Except EngineError Rule × Engine :=
  counted .create (engine.perform (engine.ifRunning (Plan.create env rule)))

/-- Creates several rules, but none for the method and URL pattern of another. -/
def createBatch (env : Surroundings) (rules : List Rule) (engine : Engine) :
    Except EngineError (List Rule) × Engine :=
  counted .createBatch (engine.perform
    (Plan.withAllValid rules engine.store (engine.ifRunning (Plan.createBatch env rules))))

/-- Changes the rule with a number. -/
def update (env : Surroundings) (id : Int) (changes : Rule) (engine : Engine) :
    Except EngineError Rule × Engine :=
  counted .update (engine.perform (engine.ifRunning (Plan.update env id changes)))

/-- Deletes the rule with a number. -/
def delete (env : Surroundings) (id : Int) (engine : Engine) : Except EngineError Unit × Engine :=
  counted .delete (engine.perform (engine.ifRunning (Plan.delete env id)))

/-- Enables the rule with a number, or disables it if it is enabled. -/
def toggle (env : Surroundings) (id : Int) (engine : Engine) : Except EngineError Rule × Engine :=
  counted .toggle (engine.perform (engine.ifRunning (Plan.toggle env id)))

/-- Fills the index from the store anew. The result is the number of served rules. -/
def reload (env : Surroundings) (engine : Engine) : Except EngineError Nat × Engine :=
  counted .reload (withSize (engine.perform (engine.ifRunning (Plan.reload env))))

/-! ### Questions -/

/-- The result of a reading call of the store. -/
def asked (read : Except StoreError α) : Except EngineError α :=
  read.mapError .store

/-- The rule with a number. -/
def get (env : Surroundings) (id : Int) (engine : Engine) : Except EngineError Rule :=
  match asked (engine.store.load (env.condition 0) id) with
  | .ok (some rule) => .ok rule
  | .ok none => .error (.notFound id)
  | .error e => .error e

/-- All rules, in the order of their numbers. -/
def list (env : Surroundings) (engine : Engine) : Except EngineError (List Rule) :=
  asked (engine.store.loadAll (env.condition 0))

/-- Whether a keyword occurs in a name, whatever the letter case. -/
def nameContains (keyword name : List Char) : Bool :=
  occursIn (Unicode.lowercase (trim keyword)) (Unicode.lowercase name)

/-- The rules in whose name a keyword occurs. -/
def search (env : Surroundings) (keyword : String) (engine : Engine) :
    Except EngineError (List Rule) :=
  (engine.list env).map fun rules =>
    rules.filter fun rule => nameContains keyword.toList rule.name.toList

/-- The numbers of rules. -/
def statistics (env : Surroundings) (engine : Engine) : Except EngineError Statistics := do
  let total ← asked (engine.store.count (env.condition 0))
  let enabled ← asked (engine.store.countEnabled (env.condition 1))
  return { total, enabled, disabled := total - enabled }

end Engine

end StubServer
