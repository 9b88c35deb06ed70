import Mathlib.Data.Finset.Card
import Mathlib.Data.List.Induction
import StubServer.Proofs.Regex.Cache

/-!
# What a cache counts and holds

A pattern that a cache is asked for is a *hit* if it has an entry, and a *miss* otherwise. A miss makes an entry if
there is room for one, whatever the pattern compiles to. So there are never more entries than misses, and in a cache
without a limit that is never cleared there are as many, one for each pattern that was asked for. Clearing forgets the
entries and counts on.

`Cache.Accounts` says all this of a cache and the uses that it was put to.

## Main statements

* `Cache.get_of_mem`, `Cache.get_of_notMem`: what a hit and a miss do to a cache.
* `Cache.Accounts.use`: one more use of a cache.
* `Cache.accounting_after`: what a cache counts and holds after any uses.
-/

namespace StubServer.Regex.Cache

variable {cache : Cache} {limit : Option Nat} {uses : List Use} {u : Use} {pattern : String}

/-! ### Patterns and uses -/

/-- The patterns that have an entry. -/
def patterns (cache : Cache) : List String :=
  cache.entries.map (·.1)

/-- The pattern under which a use looks for an entry, if it looks for any. -/
def Use.source? : Use → Option String
  | .get pattern => some pattern
  | .getFull pattern => some (anchored pattern)
  | .clear => none

/-- The patterns that a cache is asked for, in order and with repetitions. -/
def sources (uses : List Use) : List String :=
  uses.filterMap Use.source?

/-- A use asks for a pattern, or it clears the cache. -/
theorem use_eq [SizeLimit] (cache : Cache) (u : Use) :
    cache.use u = match u.source? with
      | some pattern => (cache.get pattern).2
      | none => cache.clear := by
  cases u <;> rfl

/-- Only clearing asks for nothing. -/
theorem eq_clear_of_source?_eq_none (h : u.source? = none) : u = .clear := by
  cases u with
  | get | getFull => cases h
  | clear => rfl

/-- One more pattern that is asked for. -/
theorem sources_append_singleton (h : u.source? = some pattern) (uses : List Use) :
    sources (uses ++ [u]) = sources uses ++ [pattern] := by
  simp [sources, h]

/-- Clearing asks for nothing more. -/
theorem sources_append_clear (uses : List Use) : sources (uses ++ [.clear]) = sources uses := by
  simp [sources, Use.source?]

/-! ### Hits and misses -/

/-- A pattern is found if it has an entry. -/
theorem lookup_eq_none_iff : cache.entries.lookup pattern = none ↔ pattern ∉ cache.patterns := by
  rw [List.lookup_eq_none_iff, patterns, List.mem_map]
  simp only [bne_iff_ne, not_exists, not_and]
  exact forall₂_congr fun entry _ => ne_comm

/-- A hit is counted and changes nothing else. -/
theorem get_of_mem [SizeLimit] (h : pattern ∈ cache.patterns) :
    (cache.get pattern).2 = { cache with hits := cache.hits + 1, untold := cache.untold ++ [true] } := by
  unfold get
  cases hlookup : cache.entries.lookup pattern with
  | none => exact absurd h (lookup_eq_none_iff.mp hlookup)
  | some result => rfl

/-- A miss is counted, and makes an entry if there is room. -/
theorem get_of_notMem [SizeLimit] (h : pattern ∉ cache.patterns) :
    (cache.get pattern).2 = { cache with
      entries := if cache.hasRoom then (pattern, compile? pattern) :: cache.entries else cache.entries
      misses := cache.misses + 1
      untold := cache.untold ++ [false] } := by
  rw [get, lookup_eq_none_iff.mpr h]

/-! ### Accounts -/

/-- What a cache with a limit counts and holds after the uses that it was put to. -/
structure Accounts (cache : Cache) (limit : Option Nat) (uses : List Use) : Prop where
  limit_eq : cache.limit = limit
  /-- No pattern has two entries. -/
  distinct : cache.patterns.Nodup
  bounded : ∀ bound, limit = some bound → cache.entries.length ≤ bound
  counted : cache.hits + cache.misses = (sources uses).length
  missed : cache.entries.length ≤ cache.misses
  /-- Without a limit, and as long as nothing was forgotten, each pattern that was asked for was missed once, and has
  an entry since then. -/
  complete : limit = none → .clear ∉ uses →
    cache.entries.length = cache.misses ∧ ∀ pattern, pattern ∈ cache.patterns ↔ pattern ∈ sources uses

/-- A cache that was not used. -/
theorem accounts_nil (limit : Option Nat) : Accounts { limit } limit [] where
  limit_eq := rfl
  distinct := List.nodup_nil
  bounded := fun bound _ => Nat.zero_le bound
  counted := rfl
  missed := Nat.le_refl 0
  complete := fun _ _ => ⟨rfl, fun _ => Iff.rfl⟩

/-- A hit. -/
theorem Accounts.hit (h : cache.Accounts limit uses) (hsource : u.source? = some pattern)
    (hmem : pattern ∈ cache.patterns) (untold : List Bool) :
    Accounts { cache with hits := cache.hits + 1, untold } limit (uses ++ [u]) where
  limit_eq := h.limit_eq
  distinct := h.distinct
  bounded := h.bounded
  counted := by
    rw [sources_append_singleton hsource, List.length_append, ← h.counted]
    exact Nat.add_right_comm _ _ _
  missed := h.missed
  complete := by
    intro hlimit hclear
    obtain ⟨hlength, hall⟩ := h.complete hlimit fun hcleared => hclear (List.mem_append_left _ hcleared)
    refine ⟨hlength, fun other => (hall other).trans ?_⟩
    rw [sources_append_singleton hsource, List.mem_append, List.mem_singleton]
    exact ⟨.inl, fun hother => hother.elim id fun heq => heq ▸ (hall pattern).mp hmem⟩

/-- A miss that makes an entry. -/
theorem Accounts.miss_retained (h : cache.Accounts limit uses) (hsource : u.source? = some pattern)
    (hnew : pattern ∉ cache.patterns) (hroom : cache.hasRoom = true) (result : Option Regex) (untold : List Bool) :
    Accounts { cache with entries := (pattern, result) :: cache.entries, misses := cache.misses + 1, untold } limit
      (uses ++ [u]) where
  limit_eq := h.limit_eq
  distinct := List.nodup_cons.mpr ⟨hnew, h.distinct⟩
  bounded := by
    intro bound hbound
    rw [hasRoom, h.limit_eq, hbound] at hroom
    exact Nat.succ_le_of_lt (of_decide_eq_true hroom)
  counted := by
    rw [sources_append_singleton hsource, List.length_append, ← h.counted]
    rfl
  missed := Nat.succ_le_succ h.missed
  complete := by
    intro hlimit hclear
    obtain ⟨hlength, hall⟩ := h.complete hlimit fun hcleared => hclear (List.mem_append_left _ hcleared)
    refine ⟨congrArg (· + 1) hlength, fun other => ?_⟩
    rw [sources_append_singleton hsource, List.mem_append, List.mem_singleton, ← hall other, or_comm]
    exact List.mem_cons

/-- A miss that makes no entry, for want of room. -/
theorem Accounts.miss_refused (h : cache.Accounts limit uses) (hsource : u.source? = some pattern)
    (hroom : cache.hasRoom = false) (untold : List Bool) :
    Accounts { cache with misses := cache.misses + 1, untold } limit (uses ++ [u]) where
  limit_eq := h.limit_eq
  distinct := h.distinct
  bounded := h.bounded
  counted := by
    rw [sources_append_singleton hsource, List.length_append, ← h.counted]
    rfl
  missed := Nat.le_succ_of_le h.missed
  complete := by
    intro hlimit
    -- Without a limit there is always room.
    rw [hasRoom, h.limit_eq, hlimit] at hroom
    cases hroom

/-- Clearing. -/
theorem Accounts.clear (h : cache.Accounts limit uses) : cache.clear.Accounts limit (uses ++ [.clear]) where
  limit_eq := h.limit_eq
  distinct := List.nodup_nil
  bounded := fun bound _ => Nat.zero_le bound
  counted := by
    rw [sources_append_clear]
    exact h.counted
  missed := Nat.zero_le _
  complete := fun _ hclear => absurd (List.mem_append_right _ (List.mem_singleton_self _)) hclear

/-- **One more use** of a cache. -/
theorem Accounts.use [SizeLimit] (h : cache.Accounts limit uses) (u : Use) :
    (cache.use u).Accounts limit (uses ++ [u]) := by
  rw [use_eq]
  cases hsource : u.source? with
  | none =>
      rw [eq_clear_of_source?_eq_none hsource]
      exact h.clear
  | some pattern =>
      dsimp only
      by_cases hmem : pattern ∈ cache.patterns
      · rw [get_of_mem hmem]
        exact h.hit hsource hmem _
      · rw [get_of_notMem hmem]
        cases hroom : cache.hasRoom with
        | false => exact h.miss_refused hsource hroom _
        | true => exact h.miss_retained hsource hmem hroom _ _

/-- Any uses of a cache, one after the other. -/
theorem accounts_after [SizeLimit] (limit : Option Nat) (uses : List Use) : (after limit uses).Accounts limit uses := by
  induction uses using List.reverseRecOn with
  | nil => exact accounts_nil limit
  | append_singleton uses u ih =>
      rw [after, List.foldl_append]
      exact ih.use u

/-- What a use adds to the hits and to the misses. -/
theorem counters_use [SizeLimit] (cache : Cache) (u : Use) :
    ((cache.use u).hits, (cache.use u).misses) = match u.source? with
      | some pattern =>
          if pattern ∈ cache.patterns then (cache.hits + 1, cache.misses) else (cache.hits, cache.misses + 1)
      | none => (cache.hits, cache.misses) := by
  rw [use_eq]
  cases u.source? with
  | none => rfl
  | some pattern =>
      dsimp only
      split
      · rw [get_of_mem ‹_›]
      · rw [get_of_notMem ‹_›]

/-- Without a limit and without clearing, there is one entry for each pattern that was asked for. -/
theorem Accounts.length_eq (h : cache.Accounts none uses) (hclear : .clear ∉ uses) :
    cache.entries.length = (sources uses).toFinset.card := by
  obtain ⟨-, hall⟩ := h.complete rfl hclear
  have hsame : cache.patterns.toFinset = (sources uses).toFinset := by
    ext pattern
    rw [List.mem_toFinset, List.mem_toFinset, hall]
  rw [← hsame, List.toFinset_card_of_nodup h.distinct]
  exact (List.length_map _).symm

/-- **What a cache counts and holds**, whatever its limit and its history. No pattern has two entries, and there are
no more entries than the limit allows. Each use that asks for a pattern is a hit or a miss, and a hit exactly if the
pattern has an entry; clearing is neither. There are never more entries than misses, and without a limit and without
clearing there are as many, one for each of the patterns that were asked for, be they regular expressions or not. -/
theorem accounting_after [SizeLimit] (limit : Option Nat) (uses : List Use) :
    let cache := after limit uses
    cache.patterns.Nodup ∧
    (∀ bound, limit = some bound → cache.entries.length ≤ bound) ∧
    cache.hits + cache.misses = (sources uses).length ∧
    (∀ u : Use, ((cache.use u).hits, (cache.use u).misses) = match u.source? with
      | some pattern =>
          if pattern ∈ cache.patterns then (cache.hits + 1, cache.misses) else (cache.hits, cache.misses + 1)
      | none => (cache.hits, cache.misses)) ∧
    cache.entries.length ≤ cache.misses ∧
    (limit = none → .clear ∉ uses →
      cache.entries.length = cache.misses ∧ cache.misses = (sources uses).toFinset.card) := by
  intro cache
  have haccounts : cache.Accounts limit uses := accounts_after limit uses
  refine ⟨haccounts.distinct, haccounts.bounded, haccounts.counted, counters_use cache, haccounts.missed, ?_⟩
  rintro rfl hclear
  have hlength := (haccounts.complete rfl hclear).1
  exact ⟨hlength, hlength.symm.trans (haccounts.length_eq hclear)⟩

/-- Three patterns, one of which is no regular expression and one of which is asked for in two ways. -/
def mixed : List Use :=
  [.get "([unclosed", .getFull "a|b", .get "([unclosed", .get "^(?:a|b)$", .get "a|b"]

/-- What is no regular expression is counted like the others: of five uses three are misses. A cache for one entry
has one at most, and goes on counting after it was cleared. -/
theorem accounting_after_mixed :
    let cache := after none mixed
    let small := after (some 1) (mixed ++ [.clear, .get "a|b"])
    .clear ∉ mixed ∧ cache.entries.length = 3 ∧ cache.misses = 3 ∧ cache.hits = 2 ∧
      small.entries.length ≤ 1 ∧ small.hits + small.misses = 6 := by
  intro cache small
  have hclear : Use.clear ∉ mixed := by decide
  have hasked : (sources mixed).length = 5 ∧ (sources mixed).toFinset.card = 3 := by decide
  obtain ⟨-, -, hcounted, -, -, hcomplete⟩ := accounting_after none mixed
  obtain ⟨hlength, hdistinct⟩ := hcomplete rfl hclear
  have hmisses : cache.misses = 3 := hdistinct.trans hasked.2
  have hhits : cache.hits + cache.misses = 5 := hcounted.trans hasked.1
  obtain ⟨-, hbounded, hsmall, -⟩ := accounting_after (some 1) (mixed ++ [.clear, .get "a|b"])
  exact ⟨hclear, hlength.trans hmisses, hmisses, by omega, hbounded 1 rfl, hsmall⟩

end StubServer.Regex.Cache
