import StubServer.Regex.Cache

/-!
# The cache changes no answer

`Cache.Sound` says that every entry is what its pattern compiles to. A sound cache gives each pattern
the regular expression it would have without a cache (`get_eq`), and stays sound whatever is asked of
it (`Sound.use`), so that a cache that was empty once is sound for ever (`sound_after`).

A computation that draws on a cache *computes* a value if it gives it whatever sound cache it starts
from, and leaves the cache sound: `Cache.Computes`. Compiling is built from such computations.
-/

namespace StubServer.Regex.Cache

variable [SizeLimit]

/-! ### Sound caches -/

/-- Every entry is what its pattern compiles to. -/
def Sound (cache : Cache) : Prop :=
  ∀ pattern result, cache.entries.lookup pattern = some result → result = compile? pattern

/-- A cache without entries is sound. -/
theorem sound_of_entries_nil {cache : Cache} (h : cache.entries = []) : cache.Sound := by
  intro pattern result hlookup
  simp [h] at hlookup

/-- A sound cache gives what the pattern compiles to. -/
theorem Sound.get_eq {cache : Cache} (h : cache.Sound) (pattern : String) :
    (cache.get pattern).1 = compile? pattern := by
  unfold get
  split
  · exact h _ _ ‹_›
  · rfl

/-- Asking for a pattern keeps a cache sound. -/
theorem Sound.get {cache : Cache} (h : cache.Sound) (pattern : String) :
    (cache.get pattern).2.Sound := by
  unfold Cache.get
  split
  · exact h
  · by_cases hroom : cache.hasRoom
    · intro other result hlookup
      simp only [hroom, if_true, List.lookup_cons] at hlookup
      split at hlookup
      · rename_i heq
        rw [eq_of_beq heq]
        exact (Option.some.inj hlookup).symm
      · exact h _ _ hlookup
    · simp only [hroom]
      exact h

/-! ### Histories -/

/-- What a cache may be asked for. -/
inductive Use where
  /-- The regular expression of a pattern. -/
  | get (pattern : String)
  /-- The regular expression that matches whole texts only. -/
  | getFull (pattern : String)
  /-- To forget its entries. -/
  | clear
  deriving DecidableEq

/-- The cache after a use. -/
def use (cache : Cache) : Use → Cache
  | .get pattern => (cache.get pattern).2
  | .getFull pattern => (cache.getFull pattern).2
  | .clear => cache.clear

/-- The cache with a limit that was put to some uses, one after the other. -/
def after (limit : Option Nat) (uses : List Use) : Cache :=
  uses.foldl use { limit }

/-- Every use keeps a cache sound. -/
theorem Sound.use {cache : Cache} (h : cache.Sound) (u : Use) : (cache.use u).Sound := by
  cases u with
  | get pattern => exact h.get pattern
  | getFull pattern => exact h.get _
  | clear => exact sound_of_entries_nil rfl

/-- **Caches are sound**, whatever their limit and their history. -/
theorem sound_after (limit : Option Nat) (uses : List Use) : (after limit uses).Sound := by
  unfold after
  have hstart : Sound { limit } := sound_of_entries_nil rfl
  generalize ({ limit } : Cache) = cache at hstart
  induction uses generalizing cache with
  | nil => exact hstart
  | cons u rest ih => exact ih _ (hstart.use u)

/-! ### Computations that draw on a cache -/

/-- Whether a computation gives a value from every sound cache, and leaves the cache sound. -/
def Computes {α : Type} (f : Cache → α × Cache) (value : α) : Prop :=
  ∀ cache : Cache, cache.Sound → (f cache).1 = value ∧ (f cache).2.Sound

/-- A value that needs no cache. -/
theorem computes_const {α : Type} (value : α) : Computes (fun cache => (value, cache)) value :=
  fun _ h => ⟨rfl, h⟩

/-- The regular expression that matches whole texts only. -/
theorem computes_getFull (pattern : String) :
    Computes (fun cache => cache.getFull pattern) (compile? (anchored pattern)) :=
  fun _ h => ⟨h.get_eq _, h.get _⟩

/-- A function of a computed value. -/
theorem Computes.map {α β : Type} {f : Cache → α × Cache} {a : α} (hf : Computes f a) (g : α → β) :
    Computes (fun cache => (g (f cache).1, (f cache).2)) (g a) :=
  fun cache h => ⟨congrArg g (hf cache h).1, (hf cache h).2⟩

/-- The value that is computed is the one from the empty cache. -/
theorem Computes.eq_of_empty {α : Type} {f : Cache → α × Cache} {value : α} (h : Computes f value) :
    value = (f {}).1 :=
  (h {} (sound_of_entries_nil rfl)).1.symm

end StubServer.Regex.Cache
