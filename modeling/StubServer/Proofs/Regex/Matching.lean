import Mathlib.Data.List.TakeWhile
import StubServer.Regex.Search

/-!
# What expressions match

`Expr.Spans` says between which places of a text an expression matches, by the structure of the expression alone.
The search follows sets of places instead and never visits a place twice in a repetition. It finds the
places that matches lead to, and no others.

Matches lead forward (`Expr.Spans.le`). So rounds of a repetition that lead nowhere can be left out, and there are
no more rounds that count than places in the text (`Rounds.exists_le_sub`), which is why the search may end
after that many.

## Main statements

* `mem_spread_iff`: where a search spreads that visits no place twice.
* `Expr.follows_reach`: the search finds the places where matches end.
* `Expr.isMatch_iff`: whether an expression matches some part of a text.
* `Expr.isMatch_whole_iff`: whether it matches the whole of it, when it is put between the two ends.
-/

namespace StubServer.Regex

/-! ### Matches -/

/-- A number of rounds one after the other lead from one place to another. -/
def Rounds (round : Nat → Nat → Prop) : (count : Nat) → Nat → Nat → Prop
  | 0, i, j => i = j
  | count + 1, i, k => ∃ j, round i j ∧ Rounds round count j k

/-- An expression matches a text from one place to another. -/
def Expr.Spans (text : Array Char) : Expr → Nat → Nat → Prop
  | empty, i, j => i = j
  | chars set, i, j => j = i + 1 ∧ text[i]?.any set.contains = true
  | look l, i, j => i = j ∧ l.holds (if i = 0 then none else text[i - 1]?) text[i]? = true
  | seq a b, i, k => ∃ j, a.Spans text i j ∧ b.Spans text j k
  | alt a b, i, j => a.Spans text i j ∨ b.Spans text i j
  | rep least extra a, i, k =>
    ∃ j more, Rounds (a.Spans text) least i j ∧ (∀ most ∈ extra, more ≤ most) ∧
      Rounds (a.Spans text) more j k

section Rounds

variable {round : Nat → Nat → Prop} {count m n i j k : Nat}

/-- Rounds one after the other. -/
theorem rounds_add : Rounds round (m + n) i k ↔ ∃ j, Rounds round m i j ∧ Rounds round n j k := by
  induction m generalizing i with
  | zero => simp [Rounds]
  | succ m ih =>
      rw [Nat.succ_add, Rounds]
      simp only [ih, Rounds]
      constructor
      · rintro ⟨j, hround, j', hm, hn⟩
        exact ⟨j', ⟨j, hround, hm⟩, hn⟩
      · rintro ⟨j', ⟨j, hround, hm⟩, hn⟩
        exact ⟨j, hround, j', hm, hn⟩

/-- Rounds that lead forward do so together. -/
theorem Rounds.le (hround : ∀ i j, round i j → i ≤ j) (h : Rounds round count i j) : i ≤ j := by
  induction count generalizing i with
  | zero => exact Nat.le_of_eq h
  | succ count ih =>
      obtain ⟨next, hfirst, hrest⟩ := h
      exact Nat.le_trans (hround i next hfirst) (ih hrest)

/-- **Rounds that lead nowhere can be left out.** What is left are no more rounds than there are places on
the way. -/
theorem Rounds.exists_le_sub (hround : ∀ i j, round i j → i ≤ j) (h : Rounds round count i j) :
    ∃ fewer, fewer ≤ count ∧ fewer ≤ j - i ∧ Rounds round fewer i j := by
  induction count generalizing i with
  | zero => exact ⟨0, Nat.le_refl 0, Nat.zero_le _, h⟩
  | succ count ih =>
      obtain ⟨next, hfirst, hrest⟩ := h
      obtain ⟨fewer, hcount, hsub, hfewer⟩ := ih hrest
      have hnext := hround i next hfirst
      have hlast := hrest.le hround
      by_cases hstays : next = i
      · subst hstays
        exact ⟨fewer, Nat.le_succ_of_le hcount, hsub, hfewer⟩
      · exact ⟨fewer + 1, Nat.succ_le_succ hcount, by omega, next, hfirst, hfewer⟩

end Rounds

/-- Matches lead forward, and not beyond the end of the text. -/
theorem Expr.Spans.le_and_le {text : Array Char} {e : Expr} {i j : Nat} (h : e.Spans text i j) :
    i ≤ j ∧ (i ≤ text.size → j ≤ text.size) := by
  induction e generalizing i j with
  | empty => exact ⟨Nat.le_of_eq h, fun hi => h ▸ hi⟩
  | chars set =>
      obtain ⟨rfl, hany⟩ := h
      refine ⟨Nat.le_succ i, fun _ => Nat.succ_le_of_lt (Nat.lt_of_not_le fun hle => ?_)⟩
      rw [Array.getElem?_eq_none hle] at hany
      cases hany
  | look l => exact ⟨Nat.le_of_eq h.1, fun hi => h.1 ▸ hi⟩
  | seq a b iha ihb =>
      obtain ⟨k, ha, hb⟩ := h
      exact ⟨Nat.le_trans (iha ha).1 (ihb hb).1, fun hi => (ihb hb).2 ((iha ha).2 hi)⟩
  | alt a b iha ihb =>
      rcases h with ha | hb
      · exact iha ha
      · exact ihb hb
  | rep least extra a ih =>
      obtain ⟨k, more, hleast, -, hmore⟩ := h
      have hround : ∀ i j, a.Spans text i j → i ≤ j := fun _ _ h => (ih h).1
      have hbound : ∀ {count i j}, Rounds (a.Spans text) count i j → i ≤ text.size → j ≤ text.size := by
        intro count
        induction count with
        | zero => exact fun h hi => h ▸ hi
        | succ count ihcount =>
            rintro i j ⟨next, hfirst, hrest⟩ hi
            exact ihcount hrest ((ih hfirst).2 hi)
      exact ⟨Nat.le_trans (hleast.le hround) (hmore.le hround), fun hi => hbound hmore (hbound hleast hi)⟩

/-- Matches lead forward. -/
theorem Expr.Spans.le {text : Array Char} {e : Expr} {i j : Nat} (h : e.Spans text i j) : i ≤ j :=
  h.le_and_le.1

/-! ### Sets of places -/

namespace Places

variable {places xs ys all : Places} {merge : Places → Places} {size x z : Nat}

/-- The places of a text with `size` characters, without repetitions. -/
structure Within (size : Nat) (places : Places) : Prop where
  descending : places.Pairwise (· > ·)
  bounded : ∀ i ∈ places, i ≤ size

/-- What is in a merged list. -/
theorem mem_mergeWith_iff (hall : z ∈ all ↔ z = x ∨ z ∈ xs) (hmerge : ∀ ys, z ∈ merge ys ↔ z ∈ xs ∨ z ∈ ys) :
    z ∈ mergeWith x merge all ys ↔ z = x ∨ z ∈ xs ∨ z ∈ ys := by
  induction ys with
  | nil => simp [mergeWith, hall]
  | cons y rest ih =>
      unfold mergeWith
      split
      · simp [hmerge]
      split
      · rw [List.mem_cons, ih, List.mem_cons]
        grind
      · have hxy : x = y := by omega
        rw [List.mem_cons, hmerge, List.mem_cons, ← hxy]
        grind

/-- **The places of either set.** -/
theorem mem_union_iff : z ∈ union xs ys ↔ z ∈ xs ∨ z ∈ ys := by
  induction xs generalizing ys with
  | nil => simp [union]
  | cons x xs ih => rw [union, mem_mergeWith_iff List.mem_cons fun ys => ih, List.mem_cons, or_assoc]

/-- Merging keeps the order. -/
theorem pairwise_mergeWith (hall : all = x :: xs) (hxs : (x :: xs).Pairwise (· > ·)) (hys : ys.Pairwise (· > ·))
    (hmerge : ∀ ys : Places, ys.Pairwise (· > ·) → (merge ys).Pairwise (· > ·))
    (hmem : ∀ z (ys : Places), z ∈ merge ys ↔ z ∈ xs ∨ z ∈ ys) :
    (mergeWith x merge all ys).Pairwise (· > ·) := by
  subst hall
  induction ys with
  | nil => exact hxs
  | cons y rest ih =>
      obtain ⟨hy, hrest⟩ := List.pairwise_cons.mp hys
      obtain ⟨hx, hxs'⟩ := List.pairwise_cons.mp hxs
      unfold mergeWith
      split
      · refine List.pairwise_cons.mpr ⟨fun z hz => ?_, hmerge _ hys⟩
        rcases (hmem z _).mp hz with hz | hz
        · exact hx z hz
        · rcases List.mem_cons.mp hz with rfl | hz
          · assumption
          · have := hy z hz
            omega
      split
      · refine List.pairwise_cons.mpr ⟨fun z hz => ?_, ih hrest⟩
        rcases (mem_mergeWith_iff List.mem_cons fun ys => hmem z ys).mp hz with rfl | hz | hz
        · assumption
        · have := hx z hz
          omega
        · exact hy z hz
      · have hxy : x = y := by omega
        refine List.pairwise_cons.mpr ⟨fun z hz => ?_, hmerge _ hrest⟩
        rcases (hmem z _).mp hz with hz | hz
        · exact hx z hz
        · exact hxy ▸ hy z hz

/-- The places of either set are in order. -/
theorem pairwise_union (hxs : xs.Pairwise (· > ·)) (hys : ys.Pairwise (· > ·)) :
    (union xs ys).Pairwise (· > ·) := by
  induction xs generalizing ys with
  | nil => exact hys
  | cons x xs ih =>
      exact pairwise_mergeWith rfl hxs hys (fun ys => ih (List.pairwise_cons.mp hxs).2) fun z ys => mem_union_iff

/-- The places of either set are places of the text. -/
theorem Within.union (hxs : Within size xs) (hys : Within size ys) : Within size (Places.union xs ys) where
  descending := pairwise_union hxs.descending hys.descending
  bounded := fun i hi => (mem_union_iff.mp hi).elim (hxs.bounded i) (hys.bounded i)

/-- Leaving out places keeps the order of the others. -/
theorem minus_sublist (xs ys : Places) : (minus xs ys).Sublist xs := by
  induction xs generalizing ys with
  | nil => exact List.Sublist.refl _
  | cons x xs ih =>
      unfold minus
      split
      · exact (ih []).cons_cons x
      · split
        · exact (ih _).cons x
        · exact (ih _).cons_cons x

/-- Among the places up to one, none is lost with the greater places before it. -/
theorem mem_dropWhile_iff (hz : z ≤ x) : z ∈ ys.dropWhile (x < ·) ↔ z ∈ ys := by
  refine ⟨fun hmem => (List.dropWhile_sublist _).subset hmem, fun hmem => ?_⟩
  rw [← List.takeWhile_append_dropWhile (p := (x < ·)) (l := ys)] at hmem
  refine (List.mem_append.mp hmem).resolve_left fun htaken => ?_
  have hgreater := List.mem_takeWhile_imp htaken
  simp only [decide_eq_true_eq] at hgreater
  omega

/-- **The places of the first set that are not in the second.** -/
theorem mem_minus_iff (hxs : xs.Pairwise (· > ·)) (hys : ys.Pairwise (· > ·)) :
    z ∈ minus xs ys ↔ z ∈ xs ∧ z ∉ ys := by
  induction xs generalizing ys with
  | nil => simp [minus]
  | cons x xs ih =>
      obtain ⟨hx, hxs'⟩ := List.pairwise_cons.mp hxs
      -- The places that are skipped are greater than all that are left of the first set.
      have hrest : z ∈ x :: xs ∧ z ∉ ys ↔ z ∈ x :: xs ∧ z ∉ ys.dropWhile (x < ·) := by
        refine and_congr_right fun hz => not_congr (mem_dropWhile_iff ?_).symm
        rcases List.mem_cons.mp hz with rfl | hz
        · exact Nat.le_refl _
        · exact Nat.le_of_lt (hx z hz)
      have hdrop := hys.sublist (List.dropWhile_sublist (x < ·))
      rw [hrest]
      unfold minus
      split
      · rename_i hnil
        rw [hnil, List.mem_cons, ih hxs' List.Pairwise.nil, List.mem_cons]
        simp
      · rename_i y rest hcons
        have hle : ¬ x < y := by simpa [hcons] using List.head?_dropWhile_not (x < ·) ys
        rw [hcons] at hdrop ⊢
        obtain ⟨hy, hdrop'⟩ := List.pairwise_cons.mp hdrop
        split
        · rename_i heq
          subst heq
          have hne : z ∈ xs → z ≠ x := fun hz => Nat.ne_of_lt (hx z hz)
          rw [ih hxs' hdrop']
          grind
        · have hnot : x ∉ y :: rest := by
            intro hmem
            have := hy x
            grind
          rw [List.mem_cons, ih hxs' hdrop]
          grind

/-- What is left of the places of a text are places of the text. -/
theorem Within.minus (hxs : Within size xs) (ys : Places) : Within size (Places.minus xs ys) where
  descending := hxs.descending.sublist (minus_sublist xs ys)
  bounded := fun i hi => hxs.bounded i ((minus_sublist xs ys).subset hi)

/-- All places of a text. -/
theorem mem_upTo_iff : z ∈ upTo size ↔ z ≤ size := by
  induction size with
  | zero => simp [upTo]
  | succ size ih =>
      rw [upTo, List.mem_cons, ih]
      omega

/-- All places of a text are in order. -/
theorem within_upTo (size : Nat) : Within size (upTo size) where
  descending := by
    induction size with
    | zero => exact List.pairwise_singleton _ _
    | succ size ih => exact List.pairwise_cons.mpr ⟨fun z hz => Nat.lt_succ_of_le (mem_upTo_iff.mp hz), ih⟩
  bounded := fun i hi => mem_upTo_iff.mp hi

end Places

/-! ### Searching -/

open Places (Within)

/-- A step takes places of a text to those that a round leads to. -/
def Follows (size : Nat) (step : Places → Places) (round : Nat → Nat → Prop) : Prop :=
  ∀ places, Within size places → Within size (step places) ∧ ∀ j, j ∈ step places ↔ ∃ i ∈ places, round i j

section Following

variable {size : Nat} {step : Places → Places} {round : Nat → Nat → Prop} {places seen latest : Places} {count : Nat}

/-- **Rounds of a step** lead where rounds of what it follows lead. -/
theorem Follows.rounds (h : Follows size step round) (count : Nat) :
    Follows size (Regex.rounds step count) (Rounds round count) := by
  induction count with
  | zero => exact fun places hplaces => ⟨hplaces, fun j => by simp [Regex.rounds, Rounds]⟩
  | succ count ih =>
      intro places hplaces
      obtain ⟨hwithin, hmem⟩ := h places hplaces
      obtain ⟨hwithin', hmem'⟩ := ih _ hwithin
      have hsame : step places = places → Regex.rounds step count places = places := by
        intro hfix
        clear ih hwithin' hmem'
        induction count with
        | zero => rfl
        | succ count _ => rw [Regex.rounds, if_pos hfix]
      have heq : Regex.rounds step (count + 1) places = Regex.rounds step count (step places) := by
        rw [Regex.rounds]
        split
        · rename_i hfix
          rw [hfix, hsame hfix]
        · rfl
      rw [heq]
      refine ⟨hwithin', fun j => ?_⟩
      rw [hmem']
      simp only [hmem, Rounds]
      constructor
      · rintro ⟨i, ⟨first, hfirst, hround⟩, hrest⟩
        exact ⟨first, hfirst, i, hround, hrest⟩
      · rintro ⟨first, hfirst, i, hround, hrest⟩
        exact ⟨i, ⟨first, hfirst, hround⟩, hrest⟩

/-- **A search that visits no place twice** finds what a number of rounds lead to, if rounds from places that were
not seen latest lead to places seen. -/
theorem mem_spread_iff (count : Nat) (h : Follows size step round)
    (hseen : Within size seen) (hlatest : Within size latest) (hsubset : latest ⊆ seen)
    (hclosed : ∀ i ∈ seen, i ∉ latest → ∀ j, round i j → j ∈ seen) :
    Within size (spread step count seen latest) ∧
      ∀ k, k ∈ spread step count seen latest ↔ ∃ i ∈ seen, ∃ n ≤ count, Rounds round n i k := by
  induction count generalizing seen latest with
  | zero =>
      refine ⟨hseen, fun k => ?_⟩
      simp [spread, Rounds]
  | succ count ih =>
      obtain ⟨hwithin, hmem⟩ := h latest hlatest
      have hnext : ∀ i ∈ seen, ∀ j, round i j → j ∈ seen ∨ j ∈ (step latest).minus seen := by
        intro i hi j hround
        by_cases hj : j ∈ seen
        · exact .inl hj
        · by_cases hi' : i ∈ latest
          · exact .inr ((Places.mem_minus_iff hwithin.descending hseen.descending).mpr
              ⟨(hmem j).mpr ⟨i, hi', hround⟩, hj⟩)
          · exact .inl (hclosed i hi hi' j hround)
      rw [spread]
      split
      · rename_i hnil
        -- Nothing new was found, so no number of rounds leads out of the places seen.
        have hstays : ∀ n i k, i ∈ seen → Rounds round n i k → k ∈ seen := by
          intro n
          induction n with
          | zero => exact fun i k hi hk => hk ▸ hi
          | succ n ihn =>
              rintro i k hi ⟨j, hround, hrest⟩
              refine ihn j k ((hnext i hi j hround).resolve_right ?_) hrest
              simp [hnil]
        refine ⟨hseen, fun k => ⟨fun hk => ⟨k, hk, 0, Nat.zero_le _, rfl⟩, ?_⟩⟩
        rintro ⟨i, hi, n, -, hrounds⟩
        exact hstays n i k hi hrounds
      · have hfresh : ∀ j ∈ (step latest).minus seen, ∃ i ∈ seen, round i j := by
          intro j hj
          obtain ⟨i, hi, hround⟩ := (hmem j).mp ((Places.minus_sublist _ _).subset hj)
          exact ⟨i, hsubset hi, hround⟩
        have hwithin' := hwithin.minus seen
        generalize (step latest).minus seen = fresh at *
        have hunion : ∀ j, j ∈ fresh.union seen ↔ j ∈ fresh ∨ j ∈ seen := fun j => Places.mem_union_iff
        obtain ⟨hresult, hiff⟩ := ih (hwithin'.union hseen) hwithin' (fun j hj => (hunion j).mpr (.inl hj)) (by
          intro i hi hold j hround
          rw [hunion, or_comm]
          exact hnext i (((hunion i).mp hi).resolve_left hold) j hround)
        refine ⟨hresult, fun k => (hiff k).trans ?_⟩
        simp only [hunion]
        constructor
        · rintro ⟨i, hi | hi, n, hn, hrounds⟩
          · obtain ⟨first, hfirst, hround⟩ := hfresh i hi
            exact ⟨first, hfirst, n + 1, Nat.succ_le_succ hn, i, hround, hrounds⟩
          · exact ⟨i, hi, n, Nat.le_succ_of_le hn, hrounds⟩
        · rintro ⟨i, hi, n, hn, hrounds⟩
          cases n with
          | zero => exact ⟨i, .inr hi, 0, Nat.zero_le _, hrounds⟩
          | succ n =>
              obtain ⟨j, hround, hrest⟩ := hrounds
              exact ⟨j, (hnext i hi j hround).symm, n, Nat.le_of_succ_le_succ hn, hrest⟩

end Following

namespace Expr

variable {text : Array Char} {e : Expr} {i j k : Nat}

/-- The search goes no more rounds than there may be. -/
theorem le_of_le_roundLimit {more : Nat} {extra : Option Nat} (h : more ≤ roundLimit text extra) :
    ∀ most ∈ extra, more ≤ most := by
  rintro most ⟨⟩
  rw [roundLimit] at h
  omega

/-- **As many rounds as the search goes** are enough to get to a place of the text. -/
theorem exists_le_roundLimit {round : Nat → Nat → Prop} (hround : ∀ i j, round i j → i ≤ j) (hk : k ≤ text.size)
    {more : Nat} {extra : Option Nat} (hmost : ∀ most ∈ extra, more ≤ most) (h : Rounds round more j k) :
    ∃ fewer ≤ roundLimit text extra, Rounds round fewer j k := by
  obtain ⟨fewer, hfewer, hsub, hrounds⟩ := h.exists_le_sub hround
  refine ⟨fewer, ?_, hrounds⟩
  cases extra with
  | none =>
      rw [roundLimit]
      omega
  | some most =>
      have hmore := hmost most rfl
      rw [roundLimit]
      omega

/-- **The search finds the places where matches end** that start at one of the given places. -/
theorem follows_reach (e : Expr) (text : Array Char) : Follows text.size (e.reach text) (e.Spans text) := by
  induction e with
  | empty => exact fun places hplaces => ⟨hplaces, fun j => by simp [reach, Spans]⟩
  | chars set =>
      intro places hplaces
      have hmem : ∀ j, j ∈ (chars set).reach text places ↔ ∃ i ∈ places, (chars set).Spans text i j := by
        intro j
        rw [reach, List.mem_filterMap]
        simp only [Option.ite_none_right_eq_some, Option.some.injEq, Spans]
        exact exists_congr fun i => and_congr_right fun _ => by rw [and_comm, eq_comm]
      refine ⟨⟨List.Pairwise.filterMap _ ?_ hplaces.descending, fun j hj => ?_⟩, hmem⟩
      · intro i i' hlt j hj j' hj'
        simp only [Option.ite_none_right_eq_some, Option.some.injEq] at hj hj'
        omega
      · obtain ⟨i, hi, hspans⟩ := (hmem j).mp hj
        exact hspans.le_and_le.2 (hplaces.bounded i hi)
  | look l =>
      intro places hplaces
      refine ⟨⟨hplaces.descending.sublist List.filter_sublist, fun j hj => ?_⟩, fun j => ?_⟩
      · exact hplaces.bounded j (List.mem_filter.mp hj).1
      · rw [reach, List.mem_filter]
        exact ⟨fun h => ⟨j, h.1, rfl, h.2⟩, fun ⟨i, hi, heq, hholds⟩ => heq ▸ ⟨hi, hholds⟩⟩
  | seq a b iha ihb =>
      intro places hplaces
      obtain ⟨ha, hmema⟩ := iha places hplaces
      obtain ⟨hb, hmemb⟩ := ihb _ ha
      refine ⟨hb, fun j => ?_⟩
      rw [reach, hmemb]
      simp only [hmema, Spans]
      constructor
      · rintro ⟨k, ⟨i, hi, ha⟩, hb⟩
        exact ⟨i, hi, k, ha, hb⟩
      · rintro ⟨i, hi, k, ha, hb⟩
        exact ⟨k, ⟨i, hi, ha⟩, hb⟩
  | alt a b iha ihb =>
      intro places hplaces
      obtain ⟨ha, hmema⟩ := iha places hplaces
      obtain ⟨hb, hmemb⟩ := ihb places hplaces
      refine ⟨ha.union hb, fun j => ?_⟩
      rw [reach, Places.mem_union_iff, hmema, hmemb]
      simp only [Spans, and_or_left, exists_or]
  | rep least extra a ih =>
      intro places hplaces
      obtain ⟨hstart, hmem⟩ := ih.rounds least places hplaces
      obtain ⟨hresult, hiff⟩ := mem_spread_iff (roundLimit text extra) ih hstart hstart
        (List.Subset.refl _) fun i hi hnot => absurd hi hnot
      refine ⟨hresult, fun k => ?_⟩
      rw [reach, hiff]
      have hround : ∀ i j, a.Spans text i j → i ≤ j := fun _ _ => Spans.le
      constructor
      · rintro ⟨j, hj, more, hmore, hrounds⟩
        obtain ⟨i, hi, hleast⟩ := (hmem j).mp hj
        exact ⟨i, hi, j, more, hleast, le_of_le_roundLimit hmore, hrounds⟩
      · rintro ⟨i, hi, hspans⟩
        have hk : k ≤ text.size := hspans.le_and_le.2 (hplaces.bounded i hi)
        obtain ⟨j, more, hleast, hmost, hrounds⟩ := hspans
        exact ⟨j, (hmem j).mpr ⟨i, hi, hleast⟩, exists_le_roundLimit hround hk hmost hrounds⟩

/-- **Whether an expression matches some part of a text.** -/
theorem isMatch_iff (e : Expr) (text : List Char) :
    e.isMatch text = true ↔ ∃ i j, i ≤ text.length ∧ e.Spans text.toArray i j := by
  have hplaces : Within text.toArray.size (Places.upTo text.length) := Places.within_upTo text.length
  rw [isMatch, Bool.not_eq_true', List.isEmpty_eq_false_iff_exists_mem]
  simp only [(e.follows_reach text.toArray _ hplaces).2, Places.mem_upTo_iff]
  rw [exists_comm]

/-! ### Sequences -/

/-- An expression, and then the others of a sequence. -/
theorem spans_seqAll_cons {rest : List Expr} :
    (seqAll (e :: rest)).Spans text i k ↔ ∃ j, e.Spans text i j ∧ (seqAll rest).Spans text j k := by
  cases rest with
  | nil => exact ⟨fun h => ⟨k, h, rfl⟩, fun ⟨j, h, heq⟩ => (heq : j = k) ▸ h⟩
  | cons next rest => exact Iff.rfl

/-- An expression between the two ends of the text. -/
def whole (e : Expr) : Expr :=
  seqAll [look .textStart, e, look .textEnd]

/-- **Between the two ends**, an expression has to match the whole text. -/
theorem isMatch_whole_iff (e : Expr) (text : List Char) :
    e.whole.isMatch text = true ↔ e.Spans text.toArray 0 text.length := by
  have hstart : ∀ i, Look.textStart.holds (if i = 0 then none else text.toArray[i - 1]?) text.toArray[i]? = true ∧
      i ≤ text.length ↔ i = 0 := by
    intro i
    rw [Look.holds, Option.isNone_iff_eq_none]
    constructor
    · rintro ⟨hnone, hle⟩
      by_contra hne
      rw [if_neg hne, Array.getElem?_eq_none_iff, List.size_toArray] at hnone
      omega
    · rintro rfl
      exact ⟨if_pos rfl, Nat.zero_le _⟩
  have hend : ∀ j, Look.textEnd.holds (if j = 0 then none else text.toArray[j - 1]?) text.toArray[j]? = true ∧
      j ≤ text.length ↔ j = text.length := by
    intro j
    rw [Look.holds, Option.isNone_iff_eq_none, Array.getElem?_eq_none_iff, List.size_toArray]
    omega
  rw [isMatch_iff]
  simp only [whole, seqAll, Spans]
  constructor
  · rintro ⟨i, j, hi, _, ⟨rfl, hholds⟩, k, he, rfl, hholds'⟩
    obtain rfl := (hstart i).mp ⟨hholds, hi⟩
    have hk : k ≤ text.length := he.le_and_le.2 (Nat.zero_le _)
    exact (hend k).mp ⟨hholds', hk⟩ ▸ he
  · intro he
    exact ⟨0, text.length, Nat.zero_le _, 0, ⟨rfl, ((hstart 0).mpr rfl).1⟩, _, he, rfl, ((hend _).mpr rfl).1⟩

end Expr

end StubServer.Regex
