import StubServer.Rule.Validation
import StubServer.Store.Table

/-!
# Errors of the engine

## Main definitions

* `EngineError`: why an operation failed; `EngineError.message` is the wording.
* `EngineError.status`: the HTTP status of an error.
-/

namespace StubServer

/-- Why an operation of the engine failed. -/
inductive EngineError where
  /-- The rule has problems. -/
  | invalid (problems : List Rule.Problem)
  /-- The key that the rule brings belongs to another rule. -/
  | keyTaken (key : String)
  /-- There is no rule with the number. -/
  | notFound (id : Int)
  /-- The store failed. -/
  | store (cause : StoreError)
  /-- The engine is not running. -/
  | notRunning
  deriving DecidableEq

namespace EngineError

/-- The wording of an error. -/
def message : EngineError → String
  | invalid problems => "Validation failed: " ++ Rule.problemsText problems
  | keyTaken key => "Validation failed: uuid '" ++ key ++ "' is already used by another stub"
  | notFound id => "Stub not found with id: " ++ .ofList (intText id)
  | store cause => "Persistence failure: " ++ cause.message
  | notRunning => "Stub engine is not running"

/-- The HTTP status of an error. -/
def status : EngineError → Nat
  | invalid _ | keyTaken _ => 400
  | notFound _ => 404
  | store cause => if cause.isConflict then 409 else 500
  | notRunning => 409

end EngineError

end StubServer
