import StubServer.Dictionary
import StubServer.Matcher.Basic
import StubServer.Metrics

/-!
# The index of served rules

The compiled rules that requests are matched against, under their keys and, once more, in buckets by
method, so that a request is compared with the rules for its method and those for every method only.
Every change publishes a new snapshot of the whole and reports it to the metrics; a request sees one
snapshot.

Of the rules that accept a request, the one with the least priority wins, and of several with that
priority the one inserted last.

## Main definitions

* `Index`: the latest snapshot, and what is needed to make the next one.
* `Index.add`, `Index.remove`, `Index.reload`: the changes; `Index.Edit` is any of them.
* `Index.change`: the index after a change, and what the metrics are told of it.
* `Index.lookup?`: the rule that answers a request.
* `Index.Stats`: the figures of an index.
-/

namespace StubServer

/-! ### Snapshots -/

/-- A compiled rule in the index. -/
structure Index.Entry where
  matcher : Matcher
  /-- Counts the insertions: the greater it is, the later the rule was inserted. -/
  sequence : Nat

/-- Whether an entry wins against another when both accept a request. -/
def Index.Entry.precedes (a b : Index.Entry) : Bool :=
  a.matcher.priority < b.matcher.priority ||
    (a.matcher.priority == b.matcher.priority && b.sequence < a.sequence)

/-- The entry that wins against all others. -/
def Index.best? : List Index.Entry → Option Index.Entry
  | [] => none
  | entry :: rest =>
    match Index.best? rest with
    | none => some entry
    | some other => if other.precedes entry then some other else some entry

/-- All compiled rules at one time. -/
structure Index.Snapshot where
  /-- The entries by their keys. -/
  byKey : Dictionary Index.Entry := []
  /-- The same entries by their methods, those of a method in the order of insertion. -/
  byMethod : Dictionary (List Index.Entry) := []
  /-- How many snapshots were published, up to this one. -/
  generation : Nat := 0

namespace Index.Snapshot

/-- The entries of a method. -/
def bucket (snapshot : Snapshot) (method : String) : List Entry :=
  (snapshot.byMethod.find? method).getD []

/-- The snapshot without the entry of a key. -/
def remove (key : String) (snapshot : Snapshot) : Snapshot :=
  match snapshot.byKey.find? key with
  | none => snapshot
  | some old =>
    let method := old.matcher.method
    let others := (snapshot.bucket method).filter fun entry => entry.matcher.key != key
    { snapshot with
      byKey := snapshot.byKey.erase key
      byMethod :=
        if others.isEmpty then snapshot.byMethod.erase method
        else snapshot.byMethod.insert method others }

/-- The snapshot with an entry, in place of any other under its key. -/
def insert (entry : Entry) (snapshot : Snapshot) : Snapshot :=
  let snapshot := snapshot.remove entry.matcher.key
  let method := entry.matcher.method
  { snapshot with
    byKey := snapshot.byKey.insert entry.matcher.key entry
    byMethod := snapshot.byMethod.insert method (snapshot.bucket method ++ [entry]) }

/-- The entries that may answer a method: its own and those for every method. -/
def candidates (snapshot : Snapshot) (method : String) : List Entry :=
  (if method = anyMethod then [] else snapshot.bucket method) ++ snapshot.bucket anyMethod

/-- The entry that answers a request. -/
def lookup? (snapshot : Snapshot) (request : Request) : Option Entry :=
  best? ((snapshot.candidates request.method).filter fun entry =>
    entry.matcher.acceptsPath request.path && entry.matcher.acceptsDetails request)

end Index.Snapshot

/-! ### The index -/

/-- The latest snapshot, and what is needed to make the next one. -/
structure Index where
  snapshot : Index.Snapshot := {}
  /-- The number of the latest insertion. -/
  sequence : Nat := 0
  /-- What patterns compiled to. -/
  cache : Regex.Cache := {}

namespace Index

open Metrics (Mutation Report)

/-- Publishes a snapshot. The metrics are told of the requests that compiling made of the cache, and
then of the snapshot. -/
def publish (mutation : Mutation) (index : Index) (snapshot : Snapshot) : Index × List Report :=
  ({ index with
      snapshot := { snapshot with generation := snapshot.generation + 1 }
      cache := index.cache.told },
    index.cache.untold.map (fun hit => .one (.lookups hit)) ++
      [.entries snapshot.byKey.length, .one (.mutations mutation)])

/-- Inserts a rule if it is enabled. -/
def adding (rule : Rule) (index : Index) : Index × List Report :=
  if !rule.enabled then (index, [])
  else
    let (matcher, cache) := Matcher.compile rule index.cache
    let sequence := index.sequence + 1
    publish .add { index with sequence, cache } (index.snapshot.insert { matcher, sequence })

/-- The index with a rule if that is enabled. -/
def add (rule : Rule) (index : Index) : Index :=
  (index.adding rule).1

/-- Whether a rule is served under a key. -/
def contains (key : String) (index : Index) : Bool :=
  (index.snapshot.byKey.find? key).isSome

/-- Removes the entry of a key, if there is one. -/
def removing (key : String) (index : Index) : Index × List Report :=
  if index.contains key then publish .remove index (index.snapshot.remove key) else (index, [])

/-- The index without the entry of a key. -/
def remove (key : String) (index : Index) : Index :=
  (index.removing key).1

/-- Compiles rules one after the other. -/
def compileAll : List Rule → Regex.Cache → List Matcher × Regex.Cache
  | [], cache => ([], cache)
  | rule :: rest, cache =>
    let (matcher, cache) := Matcher.compile rule cache
    let (matchers, cache) := compileAll rest cache
    (matcher :: matchers, cache)

/-- Inserts compiled rules into a snapshot, numbered from the one after `sequence` on. -/
def insertAll : List Matcher → (sequence : Nat) → Snapshot → Nat × Snapshot
  | [], sequence, snapshot => (sequence, snapshot)
  | matcher :: rest, sequence, snapshot =>
    insertAll rest (sequence + 1) (snapshot.insert { matcher, sequence := sequence + 1 })

/-- Replaces all entries by those of the enabled rules among the given ones. -/
def reloading (rules : List Rule) (index : Index) : Index × List Report :=
  let (matchers, cache) := compileAll (rules.filter Rule.enabled) index.cache
  let (sequence, snapshot) :=
    insertAll matchers index.sequence { generation := index.snapshot.generation }
  publish .reload { index with sequence, cache } snapshot

/-- The index with the enabled rules among the given ones and no others. -/
def reload (rules : List Rule) (index : Index) : Index :=
  (index.reloading rules).1

/-- A change of the index. -/
inductive Edit where
  | add (rule : Rule)
  | remove (key : String)
  | reload (rules : List Rule)

/-- The index after a change, and what the metrics are told of it. -/
def change (index : Index) : Edit → Index × List Report
  | .add rule => index.adding rule
  | .remove key => index.removing key
  | .reload rules => index.reloading rules

/-- The index after a change. -/
def apply (index : Index) (edit : Edit) : Index :=
  (index.change edit).1

/-- The compiled rule that answers a request. -/
def lookup? (index : Index) (request : Request) : Option Matcher :=
  (index.snapshot.lookup? request).map Entry.matcher

/-- The compiled rule under a key. -/
def get? (key : String) (index : Index) : Option Matcher :=
  (index.snapshot.byKey.find? key).map Entry.matcher

/-- The keys of all entries. -/
def keys (index : Index) : List String :=
  index.snapshot.byKey.map (·.1)

/-- The number of entries. -/
def size (index : Index) : Nat :=
  index.snapshot.byKey.length

/-- The figures of an index. -/
structure Stats where
  /-- The number of entries. -/
  entries : Nat
  /-- The number of methods that have rules of their own. -/
  methods : Nat
  /-- The number of rules for every method. -/
  wildcards : Nat
  /-- The number of snapshots published. -/
  generation : Nat
  deriving DecidableEq

/-- The figures of the index. -/
def stats (index : Index) : Stats where
  entries := index.size
  methods := (index.snapshot.byMethod.filter fun bucket => bucket.1 != anyMethod).length
  wildcards := (index.snapshot.bucket anyMethod).length
  generation := index.snapshot.generation

end Index

end StubServer
