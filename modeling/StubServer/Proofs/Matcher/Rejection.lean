import StubServer.Matcher.Field
import StubServer.Proofs.Matcher.Body
import StubServer.Proofs.Matcher.Compile
import StubServer.Proofs.Regex.Anchoring

/-!
# Patterns that are no regular expressions

A pattern that is no regular expression should accept nothing (`AcceptsNothing`). Patterns are compiled between the two
ends of the text only, in a group. What is put into a group is a regular expression of its own unless a parenthesis in
it closes the group early (`Regex.ClosesUnopened`), so that without such a parenthesis nothing is accepted. With one,
what comes after it may become alternatives beside the group: after every pattern, the text `)|(?:` makes a pattern
that is no regular expression, but accepts every text between the two ends.

## Main statements

* `Regex.compile?_anchored_eq_none`: putting a pattern between the two ends makes no regular expression of it.
* `Regex.reading?_endingEarly`, `Regex.isMatch_endingEarly`: what becomes of a pattern that closes the group around it.
* `acceptsNothing_of_rejected`: when a pattern that is no regular expression accepts nothing, and patterns that do not.
-/

namespace StubServer

namespace Regex

variable {pattern : String} {part : Part} {after : Scope}

/-- A beginning of a pattern is a pattern, and a parenthesis after it closes a group that was not opened. -/
def ClosesUnopened (pattern : String) : Prop :=
  ∃ inside rest, pattern.toList = inside ++ ')' :: rest ∧ (reading? inside).isSome

/-- **Between the two ends, a pattern does not become a regular expression**, unless it closes the group around it or
becomes smaller. -/
theorem compile?_anchored_eq_none [SizeLimit] (h : compile? pattern = none) (hopen : ¬ClosesUnopened pattern)
    (hsize : NoLargerAlone pattern) : compile? (anchored pattern) = none := by
  rw [Option.eq_none_iff_forall_ne_some]
  intro regex hregex
  obtain ⟨whole, last, hwhole, ⟨hheight, hfits⟩, -⟩ := compile?_eq_some_iff.mp hregex
  obtain ⟨fuel, part, after, hread, hclosed⟩ | hcloses := exists_reading?_of_anchored hwhole
  · obtain ⟨rfl, rfl⟩ := Prod.mk.inj (Option.some.inj (hwhole.symm.trans (reading?_anchored hclosed)))
    have hlimits : part.2 ≤ heightLimit ∧ SizeLimit.allows pattern.toList part.1 = true :=
      ⟨(Nat.le_add_right _ 2).trans hheight, hsize part after hread hfits⟩
    have hsome := compile?_eq_some_iff.mpr ⟨part, after, hread, hlimits, rfl⟩
    rw [h] at hsome
    cases hsome
  · exact hopen hcloses

/-! ### Closing the group early -/

/-- The expression of a pattern that closes the group around it, and opens another for what comes after it. -/
def endingEarlyExpr (e : Expr) : Expr :=
  .alt (.seq (.look .textStart) e) (.seq .empty (.look .textEnd))

/-- A pattern that closes the group around it is no pattern, but it is read as alternatives between the two ends: the
pattern at the beginning of the text, or the end of the text. -/
theorem reading?_endingEarly (h : reading? pattern.toList = some (part, after))
    (hverbose : after.flags.verbose = false) :
    reading? (pattern ++ ")|(?:").toList = none ∧
    ∃ height last, reading? (anchored (pattern ++ ")|(?:")).toList = some ((endingEarlyExpr part.1, height), last) := by
  have htext : (pattern ++ ")|(?:").toList = pattern.toList ++ ')' :: ['|', '(', '?', ':'] := by simp
  have hanchored : (anchored (pattern ++ ")|(?:")).toList =
      '^' :: '(' :: '?' :: ':' :: (pattern.toList ++ ')' :: '|' :: '(' :: '?' :: ':' :: ')' :: ['$']) := by
    rw [toList_anchored, htext, List.append_assoc]
    rfl
  constructor
  · rw [htext, reading?, readChoice_append h hverbose _ (by simp; omega)]
  obtain ⟨fuel, hfuel⟩ : ∃ fuel, fuel = 3 * pattern.toList.length + 2 := ⟨_, rfl⟩
  have hstart : readSingle {} '^' = fun rest => some (.look .textStart, rest) := rfl
  have hend : readSingle {} '$' = fun rest => some (.look .textEnd, rest) := rfl
  have hfirst : readSequence (fuel + 4) {} []
      ('^' :: '(' :: '?' :: ':' :: (pattern.toList ++ ')' :: '|' :: '(' :: '?' :: ':' :: ')' :: ['$'])) =
        some ((.seq (.look .textStart) part.1, part.2 + 2), { after with flags := {} },
          '|' :: '(' :: '?' :: ':' :: ')' :: ['$']) := by
    have hgroup := readGroup_plain (fuel + 1) {} rfl
      (pattern.toList ++ ')' :: '|' :: '(' :: '?' :: ':' :: ')' :: ['$'])
    rw [readChoice_append h hverbose _ (by omega)] at hgroup
    rw [readSequence_single rfl (by decide) (congrFun hstart _), readSequence_group rfl hgroup,
      readSequence_mark rfl (.inr rfl)]
    simp [sequenceOf, Expr.seqAll]
  have hsecond : readSequence (fuel + 3) { after with flags := {} } [] ('(' :: '?' :: ':' :: ')' :: ['$']) =
      some ((.seq .empty (.look .textEnd), 2), { after with flags := {} }, []) := by
    have hgroup := readGroup_plain (fuel + 1) { after with flags := {} } rfl (')' :: ['$'])
    rw [hfuel, readChoice_single (by simp) (readSequence_mark rfl (.inl rfl)), ← hfuel] at hgroup
    rw [readSequence_group rfl hgroup, readSequence_single rfl (by decide) (congrFun hend _), readSequence_nil rfl]
    rfl
  have hrest : readChoice (fuel + 4) { after with flags := {} } [(.seq (.look .textStart) part.1, part.2 + 2)]
      ('(' :: '?' :: ':' :: ')' :: ['$']) =
        some ((endingEarlyExpr part.1, part.2 + 3), { after with flags := {} }, []) := by
    rw [readChoice, hsecond]
    simp [choiceOf, Expr.altAll, endingEarlyExpr]
  have hread : readChoice (fuel + 5) {} [] (anchored (pattern ++ ")|(?:")).toList =
      some ((endingEarlyExpr part.1, part.2 + 3), { after with flags := {} }, []) := by
    rw [hanchored, readChoice, hfirst]
    exact hrest
  exact ⟨_, _, reading?_of_readChoice hread⟩

/-- What such a pattern is read as matches everywhere: there always is an end of the text. -/
theorem isMatch_endingEarly (e : Expr) (text : List Char) : (endingEarlyExpr e).isMatch text = true := by
  rw [Expr.isMatch_iff]
  refine ⟨text.length, text.length, Nat.le_refl _, .inr ⟨text.length, rfl, rfl, ?_⟩⟩
  simp [Look.holds]

end Regex

/-! ### Compiled patterns -/

open Regex (Cache ClosesUnopened EndsVerbose NoLargerAlone SizeLimit WithinLimits anchored compile?)

/-- A pattern accepts nothing, whatever it is compiled for: a whole text, the path of a request, the values of a field
or a body. -/
structure AcceptsNothing [SizeLimit] (cache : Cache) (pattern : String) : Prop where
  full : (cache.getFull pattern).1 = none
  url : (UrlMatcher.compile .regex pattern cache).1 = .never
  field : ∀ condition value : Json, condition.firstMember? FieldCheck.conditionNames = some ("matches", value) →
    value.asText = pattern →
      ∃ check, (FieldCheck.compile condition cache).1 = some check ∧ ∀ text, check.accepts text = false
  body : ∀ (raw : String) (value : Json), BodyMatcher.Gives raw "matches" value → value.asText = pattern →
    ∃ matcher, (BodyMatcher.compile (some raw) cache).1 = some matcher ∧ ∀ body, matcher.accepts body = false

/-- What is no regular expression between the two ends accepts nothing. -/
theorem AcceptsNothing.of_compile? [SizeLimit] {cache : Cache} (hcache : cache.Sound) {pattern : String}
    (h : compile? (anchored pattern) = none) : AcceptsNothing cache pattern where
  full := (hcache.get_eq (anchored pattern)).trans h
  url := by
    rw [(UrlMatcher.computes_compile _ _ cache hcache).1]
    dsimp only [UrlMatcher.source?]
    rw [h]
    rfl
  field := by
    rintro condition value hfirst rfl
    have hcheck : (FieldCheck.compile condition cache).1 = some (FieldCheck.ofCondition "matches" value) := by
      rw [(FieldCheck.computes_compile condition cache hcache).1, FieldCheck.ofJson, hfirst, Option.map_some]
    have hcondition : FieldCheck.ofCondition "matches" value = .matches (compile? (anchored value.asText)) := rfl
    refine ⟨_, hcheck, fun text => ?_⟩
    rw [hcondition, h]
    rfl
  body := by
    rintro raw value hgives rfl
    refine ⟨_, hgives.compile_eq hcache, fun body => ?_⟩
    have hcondition : BodyMatcher.ofCondition "matches" value = .matches (compile? (anchored value.asText)) := rfl
    rw [hcondition, h]
    rfl

end StubServer
