import StubServer.Dictionary

/-!
# Metrics

What is counted while the server runs, and the one figure that is set instead of counted. The parts of
the server report what happens where it happens; each report changes one figure.

## Main definitions

* `Metrics`: the counters; `Metrics.count` adds one to one of them.
* `Metrics.Counter`: what is counted; `Metrics.Counter.name` is its name with its labels.
* `Metrics.Report`: what the metrics are told; `Metrics.record` takes it down.
* `Metrics.samples`: all figures by their names.
-/

namespace StubServer

namespace Metrics

/-- The operations that administrators can ask for. -/
inductive Operation where
  | create
  | createBatch
  | update
  | delete
  | toggle
  | reload
  deriving DecidableEq

/-- The name of an operation. -/
def Operation.name : Operation → String
  | create => "create"
  | createBatch => "create_batch"
  | update => "update"
  | delete => "delete"
  | toggle => "toggle"
  | reload => "reload"

/-- The ways to publish a snapshot of the index. -/
inductive Mutation where
  | add
  | remove
  | reload
  deriving DecidableEq

/-- The name of a way to publish a snapshot. -/
def Mutation.name : Mutation → String
  | add => "add"
  | remove => "remove"
  | reload => "reload"

/-- How a request was answered. The outcome `error` of the dispatcher is left out: it stands for an
answer that was broken off by a panic, and nothing that makes an answer here can panic. -/
inductive Outcome where
  /-- A rule accepted it. -/
  | matched
  /-- No rule accepted it. -/
  | noMatch
  /-- The engine is not running. -/
  | notReady
  deriving DecidableEq

/-- The name of an outcome. -/
def Outcome.name : Outcome → String
  | matched => "matched"
  | noMatch => "no_match"
  | notReady => "not_ready"

/-- What is counted. -/
inductive Counter where
  /-- Requests by method and outcome. -/
  | requests (method : String) (outcome : Outcome)
  /-- Measured answering times by outcome. -/
  | durations (outcome : Outcome)
  /-- Published snapshots. -/
  | mutations (mutation : Mutation)
  /-- Operations by their success. -/
  | operations (operation : Operation) (success : Bool)
  /-- Requests to the cache of regular expressions by their success. -/
  | lookups (hit : Bool)
  deriving DecidableEq

/-- The name of a counter with its labels. -/
def Counter.name : Counter → String
  | requests method outcome =>
    "mockline_requests_total\x7bmethod=\"" ++ method ++ "\",outcome=\"" ++ outcome.name ++ "\"\x7d"
  | durations outcome =>
    "mockline_match_duration_ms_count\x7boutcome=\"" ++ outcome.name ++ "\"\x7d"
  | mutations mutation =>
    "mockline_index_mutations_total\x7boperation=\"" ++ mutation.name ++ "\"\x7d"
  | operations operation success =>
    "mockline_admin_operations_total\x7boperation=\"" ++ operation.name ++ "\",result=\"" ++
      (if success then "success" else "error") ++ "\"\x7d"
  | lookups hit =>
    "mockline_regex_cache_lookups_total\x7bresult=\"" ++ (if hit then "hit" else "miss") ++ "\"\x7d"

/-- What the metrics are told. -/
inductive Report where
  /-- One more of what a counter counts. -/
  | one (counter : Counter)
  /-- How many entries the snapshot has that is published. -/
  | entries (number : Nat)
  deriving DecidableEq

end Metrics

/-- The counters of a running server. -/
structure Metrics where
  /-- The counters that are not zero. -/
  counters : List (Metrics.Counter × Nat) := []
  /-- The number of entries in the latest snapshot of the index. -/
  indexEntries : Nat := 0
  deriving DecidableEq

namespace Metrics

/-- The value of a counter. -/
def value (metrics : Metrics) (counter : Counter) : Nat :=
  (metrics.counters.lookup counter).getD 0

/-- Adds one to a counter. -/
def count (counter : Counter) (metrics : Metrics) : Metrics :=
  { metrics with
    counters := (counter, metrics.value counter + 1) ::
      metrics.counters.filter fun entry => entry.1 != counter }

/-- Takes down a report. -/
def record (metrics : Metrics) : Report → Metrics
  | .one counter => metrics.count counter
  | .entries number => { metrics with indexEntries := number }

/-- All figures by their names. Counters that are zero are left out. -/
def samples (metrics : Metrics) : List (String × Nat) :=
  ("mockline_index_entries", metrics.indexEntries) ::
    metrics.counters.map fun entry => (entry.1.name, entry.2)

end Metrics

end StubServer
