import StubServer.Proofs.Index.Publication
import StubServer.Proofs.Matcher.Compile

/-!
# What compiling asks of the cache

Compiling a rule asks the cache for some patterns, one after the other, and does nothing else to it
(`Matcher.asks_compile`). Each pattern that is asked for is found or is not; the cache counts it accordingly
(`Cache.counted_asked`) and keeps it for the metrics (`Cache.untold_asked`). A change of the index asks for patterns,
too, and tells the metrics which of them were found (`Index.exists_asked_change`).
-/

namespace StubServer

open Regex (Cache anchored)

/-! ### Asking for patterns -/

namespace Regex.Cache

/-- The cache after it was asked for some patterns. -/
def asked (patterns : List String) (cache : Cache) : Cache :=
  patterns.foldl (fun cache pattern => (cache.get pattern).2) cache

/-- Whether each of some patterns is found when it is asked for. -/
def found : (patterns : List String) → Cache → List Bool
  | [], _ => []
  | pattern :: rest, cache => (cache.entries.lookup pattern).isSome :: found rest (cache.get pattern).2

/-- Asking for more patterns after some. -/
theorem asked_append (patterns more : List String) (cache : Cache) :
    cache.asked (patterns ++ more) = (cache.asked patterns).asked more :=
  List.foldl_append

/-- How many requests found an entry, or did not. -/
def counted (hit : Bool) (cache : Cache) : Nat :=
  if hit then cache.hits else cache.misses

/-- A pattern that is asked for is a hit or a miss. -/
theorem counted_get (hit : Bool) (pattern : String) (cache : Cache) :
    (cache.get pattern).2.counted hit =
      cache.counted hit + [(cache.entries.lookup pattern).isSome].count hit := by
  unfold get
  cases cache.entries.lookup pattern <;> cases hit <;> rfl

/-- **Hits and misses** are the patterns that were found, and those that were not. -/
theorem counted_asked (hit : Bool) (patterns : List String) (cache : Cache) :
    (cache.asked patterns).counted hit = cache.counted hit + (cache.found patterns).count hit := by
  induction patterns generalizing cache with
  | nil => rfl
  | cons pattern rest ih =>
      rw [asked, List.foldl_cons, ← asked, ih, counted_get, found, Nat.add_assoc]
      exact congrArg (cache.counted hit + ·) List.count_append.symm

/-- A pattern that is asked for is to be told as it is counted. -/
theorem untold_get (pattern : String) (cache : Cache) :
    (cache.get pattern).2.untold = cache.untold ++ [(cache.entries.lookup pattern).isSome] := by
  unfold get
  cases cache.entries.lookup pattern <;> rfl

/-- **What is to be told** is of each pattern that was asked for whether it was found. -/
theorem untold_asked (patterns : List String) (cache : Cache) :
    (cache.asked patterns).untold = cache.untold ++ cache.found patterns := by
  induction patterns generalizing cache with
  | nil => exact (List.append_nil _).symm
  | cons pattern rest ih =>
      rw [asked, List.foldl_cons, ← asked, ih, untold_get, found, List.append_assoc]
      rfl

/-- If there is nothing to tell, telling it changes nothing. -/
theorem told_of_untold_eq_nil {cache : Cache} (h : cache.untold = []) : cache.told = cache := by
  cases cache
  cases h
  rfl

/-- A computation asks a cache for some patterns, and does nothing else to it. -/
def Asks {α : Type} (f : Cache → α × Cache) : Prop :=
  ∀ cache, ∃ patterns, (f cache).2 = cache.asked patterns

variable {α β : Type} {f : Cache → α × Cache}

/-- A value that needs no cache. -/
theorem asks_const (value : α) : Asks fun cache => (value, cache) :=
  fun _ => ⟨[], rfl⟩

/-- What is made of the regular expression that matches whole texts only. -/
theorem asks_getFull (pattern : String) (g : Option Regex → α) :
    Asks fun cache => (g (cache.getFull pattern).1, (cache.getFull pattern).2) :=
  fun _ => ⟨[anchored pattern], rfl⟩

/-- Another computation goes on with the cache. -/
theorem Asks.bind {g : α → Cache → β × Cache} (hf : Asks f) (hg : ∀ value, Asks (g value)) :
    Asks fun cache => g (f cache).1 (f cache).2 := by
  intro cache
  obtain ⟨patterns, hpatterns⟩ := hf cache
  obtain ⟨more, hmore⟩ := hg (f cache).1 (f cache).2
  exact ⟨patterns ++ more, by rw [hmore, hpatterns, asked_append]⟩

end Regex.Cache

open Regex.Cache (Asks asks_const asks_getFull)

/-! ### Compiling -/

/-- Compiling a URL pattern asks for at most one pattern. -/
theorem UrlMatcher.asks_compile (kind : UrlMatch) (pattern : String) : Asks (UrlMatcher.compile kind pattern) := by
  unfold UrlMatcher.compile
  cases source? kind pattern with
  | none => exact asks_const _
  | some source =>
      intro cache
      refine ⟨[anchored source], .trans ?_ (show (cache.getFull source).2 = _ from rfl)⟩
      dsimp only
      rcases cache.getFull source with ⟨_ | regex, rest⟩ <;> rfl

/-- Compiling the condition of a field asks for at most one pattern. -/
theorem FieldCheck.asks_compile (condition : Json) : Asks (FieldCheck.compile condition) := by
  unfold FieldCheck.compile
  split
  · exact asks_const _
  · exact asks_const _
  · exact asks_getFull _ fun regex => some (FieldCheck.matches regex)
  · exact asks_const _

/-- Compiling the conditions of an object asks for the patterns in them. -/
theorem FieldMatcher.asks_compileChecks (source : FieldSource) (members : List (String × Json)) :
    Asks (FieldMatcher.compileChecks source members) := by
  induction members with
  | nil => exact asks_const _
  | cons member rest ih =>
      obtain ⟨name, condition⟩ := member
      intro cache
      obtain ⟨patterns, hpatterns⟩ := (FieldCheck.asks_compile condition).bind (fun _ => ih) cache
      refine ⟨patterns, .trans ?_ hpatterns⟩
      rw [compileChecks]
      dsimp only
      rcases FieldCheck.compile condition cache with ⟨_ | check, after⟩ <;> rfl

/-- Compiling a header or query pattern asks for the patterns in it. -/
theorem FieldMatcher.asks_compile (source : FieldSource) (raw : Option String) :
    Asks (FieldMatcher.compile source raw) := by
  unfold FieldMatcher.compile
  cases raw.bind members? with
  | none => exact asks_const _
  | some members =>
      exact (FieldMatcher.asks_compileChecks source members).bind fun checks =>
        asks_const (some (FieldMatcher.mk source checks))

/-- The condition of an object asks for at most one pattern. -/
theorem BodyMatcher.asks_ofObject (object : Json) : Asks (BodyMatcher.ofObject object) := by
  unfold BodyMatcher.ofObject
  repeat' split
  all_goals first
    | exact asks_const _
    | exact asks_getFull _ fun regex => some (BodyMatcher.matches regex)

/-- The condition of a pattern with its backslashes doubled asks for at most one pattern. -/
theorem BodyMatcher.asks_ofDoubled (raw : String) : Asks (BodyMatcher.ofDoubled raw) := by
  unfold BodyMatcher.ofDoubled
  repeat' split
  all_goals first
    | exact asks_const _
    | exact asks_getFull _ fun regex => some (BodyMatcher.matches regex)

/-- Compiling a body pattern asks for at most one pattern. -/
theorem BodyMatcher.asks_compile (raw : Option String) : Asks (BodyMatcher.compile raw) := by
  unfold BodyMatcher.compile
  split
  · exact asks_const _
  split
  · exact asks_const _
  split
  · exact BodyMatcher.asks_ofObject _
  · exact asks_const _
  · intro cache
    rename_i text _ _ _ _
    obtain ⟨patterns, hpatterns⟩ := BodyMatcher.asks_ofDoubled text cache
    refine ⟨patterns, .trans ?_ hpatterns⟩
    dsimp only
    rcases BodyMatcher.ofDoubled text cache with ⟨_ | matcher, rest⟩ <;> rfl

/-- **Compiling a rule** asks the cache for some patterns, and does nothing else to it. -/
theorem Matcher.asks_compile (rule : Rule) : Asks (Matcher.compile rule) :=
  (UrlMatcher.asks_compile rule.urlMatch rule.url).bind fun _ =>
    (FieldMatcher.asks_compile .header rule.headerPattern).bind fun _ =>
      (FieldMatcher.asks_compile .query rule.queryPattern).bind fun _ =>
        (BodyMatcher.asks_compile rule.bodyPattern).bind fun _ => asks_const _

namespace Index

/-- Compiling several rules asks for the patterns in them. -/
theorem asks_compileAll (rules : List Rule) : Asks (compileAll rules) := by
  induction rules with
  | nil => exact asks_const _
  | cons rule rest ih => exact (Matcher.asks_compile rule).bind fun _ => ih.bind fun _ => asks_const _

/-- How a change is counted. -/
def Edit.mutation : Edit → Metrics.Mutation
  | .add _ => .add
  | .remove _ => .remove
  | .reload _ => .reload

/-- What the metrics are told of a snapshot. -/
theorem publish_of_asked {index : Index} {cache : Regex.Cache} {patterns : List String} (h : cache.untold = [])
    (hcache : index.cache = cache.asked patterns) (mutation : Metrics.Mutation) (snapshot : Snapshot) :
    (publish mutation index snapshot).2 =
      (cache.found patterns).map (fun hit => .one (.lookups hit)) ++
        [.entries snapshot.byKey.length, .one (.mutations mutation)] := by
  rw [publish, hcache, Regex.Cache.untold_asked, h, List.nil_append]

/-- **A change of the index** asks the cache for some patterns, and does nothing else to it. The metrics are told which
of them are found and, if a snapshot is published, how many entries it has and how it came about. -/
theorem exists_asked_change (index : Index) (h : index.cache.untold = []) (change : Edit) :
    ∃ patterns, (index.apply change).cache = (index.cache.asked patterns).told ∧
      (index.change change).2 = (index.cache.found patterns).map (fun hit => .one (.lookups hit)) ++
        if index.publishes change then [.entries (index.apply change).size, .one (.mutations change.mutation)]
        else [] := by
  have htold := (Regex.Cache.told_of_untold_eq_nil h).symm
  cases hpublishes : index.publishes change with
  | false =>
      rw [apply, change_of_not_publishes hpublishes]
      exact ⟨[], htold, rfl⟩
  | true =>
  rw [if_pos rfl]
  cases change with
  | add rule =>
      have henabled : (!rule.enabled) = false := congrArg (!·) hpublishes
      obtain ⟨patterns, hcache⟩ := Matcher.asks_compile rule index.cache
      rw [apply, Index.change, adding, henabled]
      exact ⟨patterns, congrArg Regex.Cache.told hcache, publish_of_asked h hcache .add _⟩
  | remove key =>
      have hcontains : index.contains key = true := hpublishes
      rw [apply, Index.change, removing, hcontains]
      exact ⟨[], rfl, publish_of_asked h rfl .remove _⟩
  | reload rules =>
      obtain ⟨patterns, hcache⟩ := asks_compileAll (rules.filter Rule.enabled) index.cache
      exact ⟨patterns, congrArg Regex.Cache.told hcache, publish_of_asked h hcache .reload _⟩

end Index

end StubServer
