import StubServer.Regex.Pattern

/-!
# The cache of regular expressions

Rules are compiled again and again, and many share their patterns; what a pattern compiles to is
kept under its exact text, also if it is no regular expression. The number of entries may be
limited; what does not fit is compiled each time. The metrics are to be told of every request whether it
found an entry.

## Main definitions

* `Regex.Cache`: the entries, and how many requests found one.
* `Regex.Cache.get`: the regular expression of a pattern.
* `Regex.Cache.getFull`: the regular expression that matches whole texts only; `Regex.anchored` is its
  pattern.
-/

namespace StubServer.Regex

/-- What patterns compiled to. -/
structure Cache where
  /-- The patterns with their regular expressions, nothing for those that are none. -/
  entries : List (String × Option Regex) := []
  /-- How many entries there may be. -/
  limit : Option Nat := none
  /-- How many requests found an entry. -/
  hits : Nat := 0
  /-- How many requests did not. -/
  misses : Nat := 0
  /-- Whether the requests that the metrics are still to be told of found an entry, in order. -/
  untold : List Bool := []
  deriving DecidableEq, Inhabited

/-- The pattern that matches a text if the given one matches the whole of it. -/
def anchored (pattern : String) : String :=
  "^(?:" ++ pattern ++ ")$"

namespace Cache

/-- Whether there is room for one more entry. -/
def hasRoom (cache : Cache) : Bool :=
  match cache.limit with
  | none => true
  | some limit => cache.entries.length < limit

/-- The regular expression of a pattern, if it is one, from the entries if possible. -/
def get [SizeLimit] (cache : Cache) (pattern : String) : Option Regex × Cache :=
  match cache.entries.lookup pattern with
  | some result =>
    let untold := cache.untold ++ [true]
    (result, { cache with hits := cache.hits + 1, untold })
  | none =>
    let untold := cache.untold ++ [false]
    let result := compile? pattern
    let entries := if cache.hasRoom then (pattern, result) :: cache.entries else cache.entries
    (result, { cache with entries, misses := cache.misses + 1, untold })

/-- The regular expression that matches whole texts only. -/
def getFull [SizeLimit] (cache : Cache) (pattern : String) : Option Regex × Cache :=
  cache.get (anchored pattern)

/-- The cache without its entries. What was counted stays. -/
def clear (cache : Cache) : Cache :=
  { cache with entries := [] }

/-- The cache after the metrics were told of all requests. -/
def told (cache : Cache) : Cache :=
  { cache with untold := [] }

end Cache

end StubServer.Regex
