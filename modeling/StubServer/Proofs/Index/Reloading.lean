import Mathlib.Data.List.Induction
import StubServer.Proofs.Index.Answer

/-!
# Reloading forgets what was there

What an index serves after it was reloaded depends on the rules alone that it was reloaded with, whatever it
held before. Several of these may have one key; the index then serves the last of them, which is the one with
the greatest number if the rules come in the order of their numbers (`Rule.Prevails`).

## Main statements

* `serves_reload`: the rules that are served after reloading.
* `mem_foldl_enlist_iff`: these are the rules that prevail.
* `mirrors_reload`: keys, entries and answers after reloading.
-/

namespace StubServer

/-! ### Rules that prevail -/

namespace Rule

/-- A rule has a lesser number than another. -/
def Below (a b : Rule) : Prop :=
  ∃ i j, a.id = some i ∧ b.id = some j ∧ i < j

/-- A rule is enabled, and of the enabled rules with its key it has the greatest number. -/
structure Prevails (rule : Rule) (rules : List Rule) : Prop where
  mem : rule ∈ rules
  enabled : rule.enabled = true
  greatest : ∀ other ∈ rules, other.enabled = true → other.key = rule.key → other ≠ rule →
    other.Below rule

/-- A rule prevails and accepts a request, and all others that do have greater priorities, or the same and
lesser numbers. -/
structure AnswersAmong (rule : Rule) (rules : List Rule) (request : Request) : Prop where
  prevails : rule.Prevails rules
  accepts : (Matcher.ofRule rule).accepts request = true
  best : ∀ other : Rule, other.Prevails rules → (Matcher.ofRule other).accepts request = true →
    other ≠ rule →
    rule.priority < other.priority ∨ (rule.priority = other.priority ∧ other.Below rule)

variable {a b : Rule} {rules : List Rule} {request : Request}

/-- Of two rules at most one has the lesser number. -/
theorem Below.asymm (h : a.Below b) : ¬ b.Below a := by
  obtain ⟨i, j, ha, hb, hlt⟩ := h
  rintro ⟨j', i', hb', ha', hlt'⟩
  obtain rfl : i = i' := Option.some.inj (ha.symm.trans ha')
  obtain rfl : j = j' := Option.some.inj (hb.symm.trans hb')
  exact Int.lt_asymm hlt hlt'

/-- No two rules answer the same request. -/
theorem AnswersAmong.unique (ha : a.AnswersAmong rules request) (hb : b.AnswersAmong rules request) :
    a = b := by
  by_contra hne
  rcases ha.best b hb.prevails hb.accepts (Ne.symm hne) with hlt | ⟨heq, hbelow⟩
  · rcases hb.best a ha.prevails ha.accepts hne with hlt' | ⟨heq, -⟩
    · exact Int.lt_asymm hlt hlt'
    · exact Int.ne_of_lt hlt heq.symm
  · rcases hb.best a ha.prevails ha.accepts hne with hlt | ⟨-, hbelow'⟩
    · exact Int.ne_of_lt hlt heq.symm
    · exact hbelow.asymm hbelow'

end Rule

namespace Index

variable {index other : Index} {served rules : List Rule} {rule : Rule} {key : String} {request : Request}

/-! ### Served rules -/

/-- **What is served after reloading** does not depend on what was served before. -/
theorem serves_reload (hsound : index.cache.Sound) (rules : List Rule) :
    (index.reload rules).Serves (rules.foldl enlist []) := by
  -- Of the old snapshot only the count is looked at.
  set emptied : Index := { index with snapshot := { generation := index.snapshot.generation } }
  have hemptied : emptied.Serves [] :=
    ⟨{ inserted := index.sequence },
      ⟨(Snapshot.holds_nil 0).withGeneration _, rfl, hsound⟩, Register.ordered_empty _, rfl⟩
  exact hemptied.apply (.reload rules)

/-- Enlisting one more rule at the end. -/
theorem foldl_enlist_append_singleton (rules : List Rule) (rule : Rule) :
    (rules ++ [rule]).foldl enlist served = enlist (rules.foldl enlist served) rule :=
  List.foldl_append

/-- The enlisted rules keep their order. -/
theorem foldl_enlist_sublist (rules : List Rule) :
    (rules.foldl enlist []).Sublist (rules.filter Rule.enabled) := by
  induction rules using List.reverseRecOn with
  | nil => exact .slnil
  | append_singleton rules rule ih =>
      rw [foldl_enlist_append_singleton, List.filter_append]
      unfold enlist
      split
      · rename_i henabled
        have hrule : [rule].filter Rule.enabled = [rule] := by simp [henabled]
        rw [hrule]
        exact (List.filter_sublist.trans ih).append_right _
      · exact ih.trans (List.sublist_append_left _ _)

/-- **The enlisted rules** are those that prevail. -/
theorem mem_foldl_enlist_iff (hascending : rules.Pairwise Rule.Below) :
    rule ∈ rules.foldl enlist [] ↔ rule.Prevails rules := by
  induction rules using List.reverseRecOn with
  | nil => exact iff_of_false List.not_mem_nil fun h => List.not_mem_nil h.mem
  | append_singleton rules last ih =>
      obtain ⟨hrules, -, hlast⟩ := List.pairwise_append.mp hascending
      have hbelow : ∀ other ∈ rules, other.Below last := fun other hother =>
        hlast other hother last (List.mem_singleton_self _)
      rw [foldl_enlist_append_singleton, enlist]
      cases henabled : last.enabled with
      | false =>
          rw [if_neg Bool.false_ne_true, ih hrules]
          constructor
          · rintro ⟨hmem, hrule, hgreatest⟩
            refine ⟨List.mem_append_left _ hmem, hrule, fun other hother hother' => ?_⟩
            rcases List.mem_append.mp hother with hother | hother
            · exact hgreatest other hother hother'
            · rw [List.mem_singleton.mp hother, henabled] at hother'
              exact absurd hother' Bool.false_ne_true
          · rintro ⟨hmem, hrule, hgreatest⟩
            refine ⟨?_, hrule, fun other hother => hgreatest other (List.mem_append_left _ hother)⟩
            rcases List.mem_append.mp hmem with hmem | hmem
            · exact hmem
            · rw [List.mem_singleton.mp hmem, henabled] at hrule
              exact absurd hrule Bool.false_ne_true
      | true =>
          rw [if_pos rfl, List.mem_append, List.mem_filter, List.mem_singleton, ih hrules, bne_iff_ne]
          constructor
          · rintro (⟨⟨hmem, hrule, hgreatest⟩, hkey⟩ | rfl)
            · refine ⟨List.mem_append_left _ hmem, hrule, fun other hother hother' hsame hne => ?_⟩
              rcases List.mem_append.mp hother with hother | hother
              · exact hgreatest other hother hother' hsame hne
              · rw [List.mem_singleton.mp hother] at hsame
                exact absurd hsame.symm hkey
            · refine ⟨List.mem_append_right _ (List.mem_singleton_self _), henabled,
                fun other hother _ _ hne => ?_⟩
              exact hbelow other ((List.mem_append.mp hother).resolve_right
                fun hmem => hne (List.mem_singleton.mp hmem))
          · rintro ⟨hmem, hrule, hgreatest⟩
            by_cases hsame : rule = last
            · exact .inr hsame
            · have hmem := (List.mem_append.mp hmem).resolve_right
                fun hmem => hsame (List.mem_singleton.mp hmem)
              refine .inl ⟨⟨hmem, hrule, fun other hother =>
                hgreatest other (List.mem_append_left _ hother)⟩, fun hkey => ?_⟩
              -- The last rule would have the key as well, and a greater number.
              have hgreater := hgreatest last (List.mem_append_right _ (List.mem_singleton_self _))
                henabled hkey.symm (Ne.symm hsame)
              exact (hbelow rule hmem).asymm hgreater

/-- The keys of the enlisted rules are those of all enabled rules. -/
theorem mem_keys_foldl_enlist (rules : List Rule) :
    key ∈ (rules.foldl enlist []).map Rule.key ↔ ∃ rule ∈ rules, rule.enabled = true ∧ rule.key = key := by
  induction rules using List.reverseRecOn with
  | nil => simp
  | append_singleton rules last ih =>
      rw [foldl_enlist_append_singleton, enlist]
      cases henabled : last.enabled with
      | false => simp [ih, henabled]
      | true =>
          by_cases hkey : last.key = key
          · refine iff_of_true ?_ ⟨last, by simp, henabled, hkey⟩
            simp [hkey]
          · have hothers : key ∈ ((rules.foldl enlist []).filter fun other =>
                other.key != last.key).map Rule.key ↔ key ∈ (rules.foldl enlist []).map Rule.key := by
              simp only [List.mem_map, List.mem_filter, bne_iff_ne]
              constructor
              · rintro ⟨other, ⟨hother, -⟩, rfl⟩
                exact ⟨other, hother, rfl⟩
              · rintro ⟨other, hother, rfl⟩
                exact ⟨other, ⟨hother, Ne.symm hkey⟩, rfl⟩
            rw [if_pos rfl, List.map_append, List.mem_append, hothers, ih]
            simp [hkey, Ne.symm hkey]

/-! ### Keys, entries and answers -/

/-- What an index holds and answers is told by a list of rules alone. -/
structure Mirrors (index : Index) (rules : List Rule) : Prop where
  /-- The keys are those of the enabled rules. -/
  keys : ∀ key, key ∈ index.keys ↔ ∃ rule ∈ rules, rule.enabled = true ∧ rule.key = key
  /-- No key has two entries. -/
  distinct : index.keys.Nodup
  /-- The entry of a key is the compiled rule with the greatest number among the enabled ones with that
  key. -/
  entries : ∀ key matcher, index.get? key = some matcher ↔
    ∃ rule : Rule, rule.Prevails rules ∧ rule.key = key ∧ matcher = .ofRule rule
  /-- As long as the snapshot stays, a request gets the rule with the least priority, and of several with that
  priority the one with the greatest number. -/
  found : ∀ later : Index, later.snapshot = index.snapshot → ∀ method url headers body,
    let request := Request.received method url headers body
    ∀ matcher, later.lookup? request = some matcher ↔
      ∃ rule : Rule, rule.AnswersAmong rules request ∧ matcher = .ofRule rule
  /-- It gets none exactly if none accepts it. -/
  notFound : ∀ later : Index, later.snapshot = index.snapshot → ∀ method url headers body,
    let request := Request.received method url headers body
    later.lookup? request = none ↔
      ∀ rule : Rule, rule.Prevails rules → (Matcher.ofRule rule).accepts request = false
  /-- Every other index that is reloaded with these rules gives the same answers. -/
  alike : ∀ later other : Index, later.snapshot = index.snapshot → other.cache.Sound →
    ∀ method url headers body,
      let request := Request.received method url headers body
      later.lookup? request = (other.reload rules).lookup? request

/-- **A reloaded index** is told by the rules alone that it was reloaded with. -/
theorem mirrors_reload (hsound : index.cache.Sound) (hascending : rules.Pairwise Rule.Below) :
    (index.reload rules).Mirrors rules := by
  have hserves := serves_reload hsound rules
  have hmem : ∀ rule, rule ∈ rules.foldl enlist [] ↔ rule.Prevails rules := fun rule =>
    mem_foldl_enlist_iff hascending
  have horder : (rules.foldl enlist []).Pairwise Rule.Below :=
    hascending.sublist ((foldl_enlist_sublist rules).trans List.filter_sublist)
  have hlookup : ∀ later : Index, later.snapshot = (index.reload rules).snapshot →
      ∀ request : Request, asciiUpper request.method = request.method →
        later.lookup? request = (answer? request (rules.foldl enlist [])).map Matcher.ofRule := by
    intro later hlater request hmethod
    rw [← hserves.lookup?_eq hmethod, lookup?, lookup?, hlater]
  refine ⟨fun key => ?_, ?_, fun key matcher => ?_, ?_, ?_, ?_⟩
  · rw [hserves.keys_perm.mem_iff, mem_keys_foldl_enlist]
  · exact hserves.keys_perm.nodup_iff.mpr hserves.nodup_keys
  · rw [hserves.get?_eq_some_iff]
    simp only [hmem, eq_comm]
  · intro later hlater method url headers body request matcher
    rw [hlookup later hlater request (Request.asciiUpper_received_method method url headers body)]
    have hanswers : ∀ winner, answer? request (rules.foldl enlist []) = some winner →
        winner.AnswersAmong rules request := by
      intro winner hwinner
      obtain ⟨hprevails, haccepts, hbest⟩ := of_answer? horder hwinner
      exact ⟨(hmem winner).mp hprevails, haccepts, fun other hother => hbest other ((hmem other).mpr hother)⟩
    constructor
    · intro hfound
      obtain ⟨winner, hwinner, rfl⟩ := Option.map_eq_some_iff.mp hfound
      exact ⟨winner, hanswers winner hwinner, rfl⟩
    · rintro ⟨rule, hrule, rfl⟩
      cases hwinner : answer? request (rules.foldl enlist []) with
      | none =>
          have hnone := answer?_eq_none_iff.mp hwinner rule ((hmem rule).mpr hrule.prevails)
          exact absurd (hnone.symm.trans hrule.accepts) Bool.false_ne_true
      | some winner => rw [(hanswers winner hwinner).unique hrule, Option.map_some]
  · intro later hlater method url headers body request
    rw [hlookup later hlater request (Request.asciiUpper_received_method method url headers body),
      Option.map_eq_none_iff, answer?_eq_none_iff]
    exact forall_congr' fun rule => imp_congr_left (hmem rule)
  · intro later other hlater hother method url headers body request
    have hmethod := Request.asciiUpper_received_method method url headers body
    rw [hlookup later hlater request hmethod, ← (serves_reload hother rules).lookup?_eq hmethod]

end Index

end StubServer
