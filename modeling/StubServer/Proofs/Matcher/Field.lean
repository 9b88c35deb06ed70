import StubServer.Proofs.Matcher.Rejection
import StubServer.Proofs.Request

/-!
# What header and query patterns ask for

A header or query pattern that is an object asks for the fields that its members name: each member that gives a
condition has to be satisfied by some value that the request carries under its name. The condition is the first of
three, and asks for a value that is a text, has it as a part, or is matched by the regular expression that it is
(`FieldCheck.Satisfies`). A pattern that is no object asks for nothing.

Regular expressions match between the two ends of a value. For those that mean the same there as alone
(`Regex.SelfContained`), this is to match whole values. One that closes the group around it does not: it is no regular
expression, but accepts values nevertheless.

## Main statements

* `FieldCheck.accepts_ofCondition_iff`: what a condition accepts.
* `FieldMatcher.mem_values_iff`: which values a request carries under a name.
* `FieldMatcher.passes_iff_satisfied`: what a pattern asks for.
-/

namespace StubServer

open Regex (Cache ClosesUnopened EndsVerbose SizeLimit WithinLimits anchored compile?)
open Regex.Cache (Computes computes_const computes_getFull)

/-! ### Regular expressions for whole values -/

namespace Regex

variable {pattern text : String}

/-- A pattern is a regular expression and matches a text as a whole. -/
def MatchesWhole [SizeLimit] (pattern text : String) : Prop :=
  ∃ regex, compile? pattern = some regex ∧ regex.expr.Spans text.toList.toArray 0 text.toList.length

/-- A pattern is a regular expression between the two ends of a text, and matches it there. -/
def MatchesAnchored [SizeLimit] (pattern text : String) : Prop :=
  ∃ full, compile? (anchored pattern) = some full ∧ full.isMatch text = true

/-- A pattern means the same between the two ends of a text as alone. -/
structure SelfContained [SizeLimit] (pattern : String) : Prop where
  accepted : ∀ regex, compile? pattern = some regex → ¬EndsVerbose pattern ∧ WithinLimits (anchored pattern)
  rejected : compile? pattern = none → ¬ClosesUnopened pattern ∧ NoLargerAlone pattern

/-- **Between the two ends**, such a pattern matches the texts that it matches as a whole. -/
theorem SelfContained.matchesAnchored_iff [SizeLimit] (h : SelfContained pattern) (text : String) :
    MatchesAnchored pattern text ↔ MatchesWhole pattern text := by
  cases hpattern : compile? pattern with
  | none =>
      obtain ⟨hopen, hsize⟩ := h.rejected hpattern
      have hanchored := compile?_anchored_eq_none hpattern hopen hsize
      simp [MatchesWhole, MatchesAnchored, hpattern, hanchored]
  | some regex =>
      obtain ⟨hverbose, hlimits⟩ := h.accepted regex hpattern
      obtain ⟨full, hfull, hmatch⟩ := exists_compile?_anchored hpattern hverbose hlimits
      simp [MatchesWhole, MatchesAnchored, hpattern, hfull, hmatch]

end Regex

/-! ### Conditions -/

namespace FieldCheck

variable {kind : String} {operand : Json}

/-- What a condition asks of a value: to be a text, to have it as a part, or to be matched by it as a whole. -/
inductive Satisfies (whole : (pattern text : String) → Prop) (kind operand value : String) : Prop
  | equalTo (hkind : kind = "equalTo") (h : value = operand)
  | contains (hkind : kind = "contains") (h : operand.toList <:+: value.toList)
  | matches (hkind : kind = "matches") (h : whole operand value)

/-- Regular expressions that match the same values can be put for one another. -/
theorem satisfies_congr {whole other : String → String → Prop} {kind operand value : String}
    (h : kind = "matches" → (whole operand value ↔ other operand value)) :
    Satisfies whole kind operand value ↔ Satisfies other kind operand value := by
  constructor
  · rintro (⟨hkind, hvalue⟩ | ⟨hkind, hvalue⟩ | ⟨hkind, hvalue⟩)
    · exact .equalTo hkind hvalue
    · exact .contains hkind hvalue
    · exact .matches hkind ((h hkind).1 hvalue)
  · rintro (⟨hkind, hvalue⟩ | ⟨hkind, hvalue⟩ | ⟨hkind, hvalue⟩)
    · exact .equalTo hkind hvalue
    · exact .contains hkind hvalue
    · exact .matches hkind ((h hkind).2 hvalue)

/-- A value is accepted if it satisfies the condition. -/
theorem accepts_ofCondition_iff [SizeLimit] (hkind : kind ∈ conditionNames) (value : String) :
    (ofCondition kind operand).accepts value = true ↔
      Satisfies Regex.MatchesAnchored kind operand.asText value := by
  simp only [conditionNames, List.mem_cons, List.not_mem_nil, or_false] at hkind
  rcases hkind with rfl | rfl | rfl
  · have hcondition : ofCondition "equalTo" operand = .equalTo operand.asText := rfl
    rw [hcondition, accepts, beq_iff_eq]
    constructor
    · exact .equalTo rfl
    · rintro (⟨_, h⟩ | ⟨hkind, _⟩ | ⟨hkind, _⟩)
      · exact h
      · exact absurd hkind (by decide)
      · exact absurd hkind (by decide)
  · have hcondition : ofCondition "contains" operand = .contains operand.asText := rfl
    rw [hcondition, accepts, occursIn_iff]
    constructor
    · exact .contains rfl
    · rintro (⟨hkind, _⟩ | ⟨_, h⟩ | ⟨hkind, _⟩)
      · exact absurd hkind (by decide)
      · exact h
      · exact absurd hkind (by decide)
  · have hcondition : ofCondition "matches" operand = .matches (compile? (anchored operand.asText)) := rfl
    have haccepts : (ofCondition "matches" operand).accepts value = true ↔
        Regex.MatchesAnchored operand.asText value := by
      rw [hcondition]
      cases hanchored : compile? (anchored operand.asText) <;> simp [accepts, Regex.MatchesAnchored, hanchored]
    rw [haccepts]
    constructor
    · exact .matches rfl
    · rintro (⟨hkind, _⟩ | ⟨hkind, _⟩ | ⟨_, h⟩)
      · exact absurd hkind (by decide)
      · exact absurd hkind (by decide)
      · exact h

end FieldCheck

/-! ### Patterns -/

/-- A request brings a value under a name: in a header, whatever the letter case of its name, or in a part of the query,
where the name and the value are encoded. -/
inductive Request.Carries (url : String) (headers : List (String × String)) : FieldSource → (name value : String) → Prop
  | header {given name value : String} (hmem : (given, value) ∈ headers) (hname : asciiLower given = asciiLower name) :
      Carries url headers .header name value
  | query {part : List Char} {name value : String} (hpart : part ∈ queryParts url) (hne : part ≠ [])
      (hread : parameter part = (name, value)) : Carries url headers .query name value

namespace FieldMatcher

variable {source : FieldSource} {raw : Option String} {members : List (String × Json)} {cache : Cache}
  {method url body name value : String} {headers : List (String × String)}

/-- A pattern is an object if this is what is written between its blanks. -/
theorem members?_eq_some_iff {text : String} :
    members? text = some members ↔ Json.parse (trimmed text) = .ok (.object members) := by
  unfold members?
  split
  · rename_i h
    rw [h]
    simp
  · rename_i h
    exact iff_of_false nofun fun hparse => h _ hparse

/-- **Which values a request carries** under the name of a member. -/
theorem mem_values_iff :
    value ∈ values source (.received method url headers body) (fieldName source name) ↔
      Request.Carries url headers source name value := by
  cases source with
  | header =>
      simp only [values, fieldName, Request.headerValues_received, asciiLower_asciiLower, mem_valuesOf_iff,
        List.mem_map, Request.lowered, Prod.mk.injEq, Prod.exists]
      constructor
      · rintro ⟨given, _, hmem, hname, rfl⟩
        exact .header hmem hname
      · rintro ⟨hmem, hname⟩
        exact ⟨_, _, hmem, hname, rfl⟩
  | query =>
      simp only [values, fieldName, Request.queryValues, mem_valuesOf_iff, Request.received_eq,
        Request.mem_query_ofUrl_iff]
      constructor
      · rintro ⟨part, hpart, hne, hread⟩
        exact .query hpart hne hread
      · rintro (_ | ⟨hpart, hne, hread⟩)
        exact ⟨_, hpart, hne, hread⟩

/-- **What is asked by the members of an object**, however regular expressions match whole values: each member that
gives a condition asks for a value that the request carries under its name and that satisfies the condition. -/
def Satisfied (whole : (pattern text : String) → Prop) (source : FieldSource) (members : List (String × Json))
    (url : String) (headers : List (String × String)) : Prop :=
  ∀ name condition kind operand, (name, condition) ∈ members →
    condition.firstMember? FieldCheck.conditionNames = some (kind, operand) →
      ∃ value, Request.Carries url headers source name value ∧
        FieldCheck.Satisfies whole kind operand.asText value

/-- The conditions of an object accept the requests that satisfy its members. -/
theorem accepts_checksOf_iff [SizeLimit] :
    (FieldMatcher.mk source (checksOf source members)).accepts (.received method url headers body) = true ↔
      Satisfied Regex.MatchesAnchored source members url headers := by
  simp only [accepts, List.all_eq_true, List.any_eq_true]
  constructor
  · intro h name condition kind operand hmember hfirst
    have hmem : (fieldName source name, .ofCondition kind operand) ∈ checksOf source members :=
      List.mem_filterMap.2 ⟨_, hmember, by rw [FieldCheck.ofJson, hfirst, Option.map_some, Option.map_some]⟩
    obtain ⟨value, hvalue, haccepts⟩ := h _ hmem
    exact ⟨value, mem_values_iff.1 hvalue,
      (FieldCheck.accepts_ofCondition_iff (Json.mem_of_firstMember? hfirst) value).1 haccepts⟩
  · rintro h named hnamed
    obtain ⟨⟨name, condition⟩, hmember, hnamed⟩ := List.mem_filterMap.1 hnamed
    obtain ⟨check, hcheck, rfl⟩ := Option.map_eq_some_iff.1 hnamed
    obtain ⟨⟨kind, operand⟩, hfirst, rfl⟩ := Option.map_eq_some_iff.1 hcheck
    obtain ⟨value, hvalue, hsatisfies⟩ := h name condition kind operand hmember hfirst
    exact ⟨value, mem_values_iff.2 hvalue,
      (FieldCheck.accepts_ofCondition_iff (Json.mem_of_firstMember? hfirst) value).2 hsatisfies⟩

/-- Regular expressions that mean the same between the two ends of a value as alone match whole values. -/
theorem satisfied_iff_of_selfContained [SizeLimit] {url : String}
    (h : ∀ member ∈ members, ∀ operand, member.2.firstMember? FieldCheck.conditionNames = some ("matches", operand) →
      Regex.SelfContained operand.asText) :
    Satisfied Regex.MatchesAnchored source members url headers ↔
      Satisfied Regex.MatchesWhole source members url headers := by
  refine forall₄_congr fun name condition kind operand => forall₂_congr fun hmember hfirst =>
    exists_congr fun value => and_congr_right fun _ => FieldCheck.satisfies_congr fun hkind => ?_
  subst hkind
  exact (h _ hmember operand hfirst).matchesAnchored_iff value

/-- Whether nothing is asked of a request, or what is asked is there. -/
def Passes [SizeLimit] (source : FieldSource) (raw : Option String) (cache : Cache) (request : Request) : Prop :=
  ((compile source raw cache).1.all fun matcher => matcher.accepts request) = true

instance [SizeLimit] (source : FieldSource) (raw : Option String) (cache : Cache) (request : Request) :
    Decidable (Passes source raw cache request) :=
  inferInstanceAs (Decidable (_ = _))

/-- A pattern that is no object asks for nothing. -/
theorem passes_of_no_object [SizeLimit] (hcache : cache.Sound) (request : Request)
    (h : ¬∃ text members, raw = some text ∧ Json.parse (trimmed text) = .ok (.object members)) :
    Passes source raw cache request := by
  have hmembers : raw.bind members? = none := by
    rw [Option.eq_none_iff_forall_ne_some]
    intro members hmembers
    obtain ⟨text, hraw, htext⟩ := Option.bind_eq_some_iff.1 hmembers
    exact h ⟨text, members, hraw, members?_eq_some_iff.1 htext⟩
  rw [Passes, (computes_compile _ _ _ hcache).1, hmembers, Option.map_none, Option.all_none]

/-- An object asks for what its members ask for. -/
theorem passes_object_iff [SizeLimit] {text : String} (hcache : cache.Sound)
    (hparse : Json.parse (trimmed text) = .ok (.object members)) :
    Passes source (some text) cache (.received method url headers body) ↔
      Satisfied Regex.MatchesAnchored source members url headers := by
  rw [Passes, (computes_compile _ _ _ hcache).1, Option.bind_some, members?_eq_some_iff.2 hparse, Option.map_some,
    Option.all_some, accepts_checksOf_iff]

end FieldMatcher

end StubServer
