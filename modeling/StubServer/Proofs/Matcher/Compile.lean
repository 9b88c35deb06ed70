import StubServer.Matcher.Basic
import StubServer.Proofs.Matcher.Body

/-!
# What rules compile to

Compiling draws on a cache of regular expressions, but what comes out does not depend on it:
`Matcher.ofRule` is the compiled rule as such, and `Matcher.compile_of_sound` says that compiling with
any sound cache gives it. For header and query patterns it is said what comes out: the conditions of the members
(`FieldMatcher.computes_compile`), each the first of three (`FieldCheck.computes_compile`).
-/

namespace StubServer

open Regex (Cache compile? anchored)
open Regex.Cache (Computes computes_const computes_getFull)

variable [Regex.SizeLimit]

/-! ### URL patterns -/

/-- What a URL pattern is compiled to. -/
theorem UrlMatcher.computes_compile (kind : UrlMatch) (pattern : String) :
    Computes (UrlMatcher.compile kind pattern)
      (match source? kind pattern with
      | none => .equals (withoutQuery pattern)
      | some source => ((compile? (anchored source)).map UrlMatcher.pattern).getD .never) := by
  unfold UrlMatcher.compile
  cases source? kind pattern with
  | none => exact computes_const _
  | some source =>
      intro cache h
      obtain ⟨hvalue, hsound⟩ := computes_getFull source cache h
      dsimp only at hvalue hsound ⊢
      rw [← hvalue]
      generalize cache.getFull source = got at hsound ⊢
      obtain ⟨result, rest⟩ := got
      cases result with
      | none => exact ⟨rfl, hsound⟩
      | some regex => exact ⟨rfl, hsound⟩

/-! ### Header and query patterns -/

namespace FieldCheck

/-- The names of the conditions for a field, in the order in which they count. -/
def conditionNames : List String :=
  ["equalTo", "contains", "matches"]

/-- The condition of a name. -/
def ofCondition (kind : String) (operand : Json) : FieldCheck :=
  if kind = "equalTo" then .equalTo operand.asText
  else if kind = "contains" then .contains operand.asText
  else .matches (compile? (anchored operand.asText))

/-- The condition that a value gives, if it gives one. -/
def ofJson (condition : Json) : Option FieldCheck :=
  (condition.firstMember? conditionNames).map fun found => ofCondition found.1 found.2

/-- A value is compiled to the condition that it gives. -/
theorem computes_compile (condition : Json) : Computes (compile condition) (ofJson condition) := by
  unfold compile ofJson Json.firstMember? conditionNames
  simp only [List.findSome?_cons]
  cases condition.member? "equalTo" with
  | some v => exact computes_const _
  | none =>
  cases condition.member? "contains" with
  | some v => exact computes_const _
  | none =>
  cases condition.member? "matches" with
  | some v => exact (computes_getFull v.asText).map fun regex => some (FieldCheck.matches regex)
  | none => exact computes_const _

end FieldCheck

namespace FieldMatcher

/-- The conditions for the members of an object. -/
def checksOf (source : FieldSource) (members : List (String × Json)) : List (String × FieldCheck) :=
  members.filterMap fun member => (FieldCheck.ofJson member.2).map (fieldName source member.1, ·)

/-- The members of an object are compiled to their conditions. -/
theorem computes_compileChecks (source : FieldSource) (members : List (String × Json)) :
    Computes (compileChecks source members) (checksOf source members) := by
  induction members with
  | nil => exact computes_const _
  | cons member members ih =>
      intro cache hcache
      obtain ⟨hcheck, hsound⟩ := FieldCheck.computes_compile member.2 cache hcache
      obtain ⟨hchecks, hsounds⟩ := ih _ hsound
      unfold compileChecks
      rw [checksOf, List.filterMap_cons, ← checksOf]
      generalize FieldCheck.ofJson member.2 = check at hcheck
      cases check <;> simp only [hcheck, hchecks, hsounds, Option.map_none, Option.map_some, and_self]

/-- **What a pattern is compiled to**: the conditions of its members, if it is an object. -/
theorem computes_compile (source : FieldSource) (raw : Option String) :
    Computes (compile source raw)
      ((raw.bind members?).map fun members => { source, checks := checksOf source members }) := by
  unfold compile
  cases raw.bind members? with
  | none => exact computes_const _
  | some members => exact (computes_compileChecks source members).map fun checks => some (mk source checks)

end FieldMatcher

/-! ### Body patterns -/

/-- Compiling a body pattern does not depend on the cache. -/
theorem BodyMatcher.exists_computes (raw : Option String) :
    ∃ value, Computes (BodyMatcher.compile raw) value := by
  unfold BodyMatcher.compile
  split
  · exact ⟨_, computes_const _⟩
  · split
    · exact ⟨_, computes_const _⟩
    · split
      · exact ⟨_, BodyMatcher.computes_ofObject _⟩
      · exact ⟨_, computes_const _⟩
      · rename_i text _ _ _ _
        obtain ⟨value, hvalue⟩ : ∃ value, Computes (BodyMatcher.ofDoubled text) value :=
          ⟨_, BodyMatcher.computes_ofDoubled text⟩
        refine ⟨some (value.getD (.literal text)), fun cache h => ?_⟩
        obtain ⟨hfst, hsnd⟩ := hvalue cache h
        dsimp only
        generalize BodyMatcher.ofDoubled text cache = doubled at hfst hsnd ⊢
        obtain ⟨result, rest⟩ := doubled
        subst hfst
        cases result with
        | none => exact ⟨rfl, hsnd⟩
        | some matcher => exact ⟨rfl, hsnd⟩

/-! ### Rules -/

namespace Matcher

/-- What a rule compiles to. -/
def ofRule (rule : Rule) : Matcher :=
  (compile rule {}).1

/-- A compiled rule keeps the rule. -/
@[simp] theorem ofRule_rule (rule : Rule) : (ofRule rule).rule = rule := rfl

/-- A compiled rule has the key of the rule. -/
@[simp] theorem ofRule_key (rule : Rule) : (ofRule rule).key = rule.key := rfl

/-- A compiled rule has the method of the rule. -/
@[simp] theorem ofRule_method (rule : Rule) : (ofRule rule).method = rule.normalizedMethod := rfl

/-- A compiled rule has the priority of the rule. -/
@[simp] theorem ofRule_priority (rule : Rule) : (ofRule rule).priority = rule.priority := rfl

/-- Compiling a rule does not depend on the cache. -/
theorem exists_computes (rule : Rule) : ∃ value, Computes (compile rule) value := by
  obtain ⟨url, hurl⟩ : ∃ value, Computes (UrlMatcher.compile rule.urlMatch rule.url) value :=
    ⟨_, UrlMatcher.computes_compile rule.urlMatch rule.url⟩
  obtain ⟨headers, hheaders⟩ : ∃ value, Computes (FieldMatcher.compile .header rule.headerPattern) value :=
    ⟨_, FieldMatcher.computes_compile .header rule.headerPattern⟩
  obtain ⟨query, hquery⟩ : ∃ value, Computes (FieldMatcher.compile .query rule.queryPattern) value :=
    ⟨_, FieldMatcher.computes_compile .query rule.queryPattern⟩
  obtain ⟨body, hbody⟩ := BodyMatcher.exists_computes rule.bodyPattern
  refine ⟨{ rule, url, headers, query, body }, fun cache h => ?_⟩
  obtain ⟨hurl, h⟩ := hurl cache h
  obtain ⟨hheaders, h⟩ := hheaders _ h
  obtain ⟨hquery, h⟩ := hquery _ h
  obtain ⟨hbody, h⟩ := hbody _ h
  unfold compile
  simp only [hurl, hheaders, hquery, hbody, h, and_self]

/-- **Caches change no compiled rule.** With any sound cache a rule compiles to the same, and the cache
stays sound. -/
theorem compile_of_sound (rule : Rule) {cache : Cache} (h : cache.Sound) :
    (compile rule cache).1 = ofRule rule ∧ (compile rule cache).2.Sound := by
  obtain ⟨value, hvalue⟩ := exists_computes rule
  have heq : value = ofRule rule := hvalue.eq_of_empty
  exact heq ▸ hvalue cache h

end Matcher

end StubServer
