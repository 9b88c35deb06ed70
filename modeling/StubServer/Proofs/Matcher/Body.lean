import Mathlib.Data.List.Permutation
import StubServer.Matcher.Body
import StubServer.Proofs.Regex.Cache

/-!
# What body patterns ask for

A body pattern demands what its text says in the first of three ways that applies. A text that is JSON gives the
condition of the first of four names among its members, or none. A text that is not is read again with its backslashes
doubled, where only two of these names count, in another order. A text that gives no condition in this way either has
to occur itself. `BodyMatcher.Demands` is the relation between a pattern and what it demands.

## Main statements

* `BodyMatcher.computes_ofObject`: the condition of an object is that of its first member.
* `BodyMatcher.compile_eq_iff`: compiling finds what a pattern demands, and drops no pattern that is neither blank nor
  JSON.
-/

namespace StubServer

open Regex (Cache compile? anchored)
open Regex.Cache (Computes computes_const computes_getFull)

/-- The first of some names under which a value has a member, and that member. -/
def Json.firstMember? (names : List String) (value : Json) : Option (String × Json) :=
  names.findSome? fun name => (value.member? name).map (name, ·)

/-- A first member is under one of the names. -/
theorem Json.mem_of_firstMember? {names : List String} {value member : Json} {name : String}
    (h : value.firstMember? names = some (name, member)) : name ∈ names := by
  obtain ⟨other, hother, hfound⟩ := List.exists_of_findSome?_eq_some h
  obtain ⟨_, -, heq⟩ := Option.map_eq_some_iff.mp hfound
  cases heq
  exact hother

/-- A text of blanks is no JSON. -/
theorem Json.exists_parse_eq_error_of_isBlankText {text : String} (h : isBlankText text = true) :
    ∃ e, Json.parse text = .error e := by
  rw [Json.parse, Json.document, Json.fuelFor, Json.readValue]
  cases hskip : Json.skipSpace text.toList with
  | nil => exact ⟨_, rfl⟩
  | cons c rest =>
      have hmem : c ∈ Json.skipSpace text.toList := hskip ▸ List.mem_cons_self
      have hc : isBlank c = true := List.all_eq_true.mp h c ((List.dropWhile_sublist _).subset hmem)
      have hrange : c.toNat ≤ 0x20 ∨ 0x85 ≤ c.toNat := by
        simp only [isBlank, Bool.or_eq_true, Bool.and_eq_true, decide_eq_true_eq, beq_iff_eq] at hc
        omega
      have hdigit : Json.isDigit c = false := by
        rw [← Bool.not_eq_true, Json.isDigit, Bool.and_eq_true, decide_eq_true_eq, decide_eq_true_eq]
        rintro ⟨hle, hge⟩
        have hle' : 48 ≤ c.toNat := hle
        have hge' : c.toNat ≤ 57 := hge
        omega
      have hstart : ∀ d ∈ ['n', 't', 'f', '-', '"', '[', '\x7b'], c ≠ d := by
        have hnone : ∀ d ∈ ['n', 't', 'f', '-', '"', '[', '\x7b'], ¬(d.toNat ≤ 0x20 ∨ 0x85 ≤ d.toNat) := by simp
        rintro d hd rfl
        exact hnone c hd hrange
      simp only [List.forall_mem_cons] at hstart
      obtain ⟨hn, ht, hf, hminus, hquote, hbracket, hbrace, -⟩ := hstart
      simp only [hn, ht, hf, hminus, hdigit, hquote, hbracket, hbrace, if_false, Bool.false_eq_true]
      exact ⟨_, rfl⟩

/-- What is JSON is not blank. -/
theorem isBlankText_of_parse_ok {text : String} {value : Json} (h : Json.parse text = .ok value) :
    isBlankText text = false := by
  rw [← Bool.not_eq_true]
  intro hblank
  obtain ⟨e, herror⟩ := Json.exists_parse_eq_error_of_isBlankText hblank
  rw [h] at herror
  cases herror

namespace BodyMatcher

variable {raw : String} {object member : Json} {name : String} {cache : Cache}

/-- The names of the conditions of an object, in the order in which they count. -/
def conditionNames : List String :=
  ["equalToJson", "matchesJsonPath", "contains", "matches"]

/-- The names of the conditions that count after the backslashes were doubled. -/
def doubledNames : List String :=
  ["matches", "contains"]

/-- The condition of a name. -/
def ofCondition [Regex.SizeLimit] (name : String) (value : Json) : BodyMatcher :=
  if name = "equalToJson" then ofExpected value
  else if name = "matchesJsonPath" then .path (JsonPath.parse? value.asText)
  else if name = "contains" then .contains value.asText
  else .matches (compile? (anchored value.asText))

/-- A condition is of the kind of its name. -/
theorem kind_ofCondition [Regex.SizeLimit] (h : name ∈ conditionNames) (value : Json) :
    (ofCondition name value).kind = name := by
  simp only [conditionNames, List.mem_cons, List.not_mem_nil, or_false] at h
  rcases h with rfl | rfl | rfl | rfl
  · rw [ofCondition, if_pos rfl]
    unfold ofExpected
    split
    · split <;> rfl
    · rfl
  · rfl
  · rfl
  · rfl

/-- The condition of an object. -/
theorem computes_ofObject [Regex.SizeLimit] (object : Json) :
    Computes (ofObject object)
      ((object.firstMember? conditionNames).map fun found => ofCondition found.1 found.2) := by
  unfold ofObject Json.firstMember? conditionNames
  simp only [List.findSome?_cons]
  cases object.member? "equalToJson" with
  | some v => exact computes_const _
  | none =>
  cases object.member? "matchesJsonPath" with
  | some v => exact computes_const _
  | none =>
  cases object.member? "contains" with
  | some v => exact computes_const _
  | none =>
  cases object.member? "matches" with
  | some v => exact (computes_getFull v.asText).map fun regex => some (BodyMatcher.matches regex)
  | none => exact computes_const _

/-- What a text says after its backslashes were doubled: the name of a condition and its value. -/
def doubledCondition? (raw : String) : Option (String × Json) :=
  if '\\' ∈ raw.toList then (Json.document (doubled raw.toList)).toOption.bind (·.firstMember? doubledNames) else none

/-- What a text says after its backslashes were doubled. -/
theorem doubledCondition?_eq_some_iff {found : String × Json} :
    doubledCondition? raw = some found ↔ '\\' ∈ raw.toList ∧
      ∃ value, Json.document (doubled raw.toList) = .ok value ∧ value.firstMember? doubledNames = some found := by
  unfold doubledCondition?
  rw [Option.ite_none_right_eq_some]
  cases Json.document (doubled raw.toList) with
  | error e => simp [Except.toOption]
  | ok value => simp [Except.toOption]

/-- The condition of a text with its backslashes doubled. -/
theorem computes_ofDoubled [Regex.SizeLimit] (raw : String) :
    Computes (ofDoubled raw) ((doubledCondition? raw).map fun found => ofCondition found.1 found.2) := by
  unfold ofDoubled doubledCondition?
  by_cases hslash : '\\' ∈ raw.toList
  · have hcontains : (!raw.toList.contains '\\') = false := by simpa using hslash
    simp only [if_pos hslash, hcontains, Bool.false_eq_true, if_false]
    cases Json.document (doubled raw.toList) with
    | error e => exact computes_const _
    | ok value =>
        cases value with
        | object members =>
            simp only [Except.toOption, Option.bind_some, Json.firstMember?, doubledNames, List.findSome?_cons]
            cases (Json.object members).member? "matches" with
            | some v => exact (computes_getFull v.asText).map fun regex => some (BodyMatcher.matches regex)
            | none => cases (Json.object members).member? "contains" <;> exact computes_const _
        | _ => exact computes_const _
  · have hcontains : (!raw.toList.contains '\\') = true := by simpa using hslash
    simp only [if_neg hslash, if_pos hcontains]
    exact computes_const _

/-- A text that is JSON gives the condition of a value. -/
theorem compile_of_parse_ok [Regex.SizeLimit] (hblank : isBlankText raw = false) {value : Json}
    (h : Json.parse raw = .ok value) :
    compile (some raw) cache = ofObject value cache := by
  simp only [compile, hblank, Bool.false_eq_true, if_false, h]
  cases value <;> rfl

/-- A text that is no JSON gives the condition it has with its backslashes doubled, or has to occur itself. -/
theorem compile_of_parse_error [Regex.SizeLimit] (hblank : isBlankText raw = false) {e : Json.Error}
    (h : Json.parse raw = .error e) :
    (compile (some raw) cache).1 = some ((ofDoubled raw cache).1.getD (.literal raw)) := by
  simp only [compile, hblank, Bool.false_eq_true, if_false, h]
  split
  · rename_i hdoubled
    rw [hdoubled, Option.getD_some]
  · rename_i hdoubled
    rw [hdoubled, Option.getD_none]

/-- A pattern gives a condition by its name and its value, as it is written or with its backslashes doubled. -/
inductive Gives (raw : String) (name : String) (member : Json) : Prop
  /-- An object with conditions is written, of which the first counts. -/
  | written {value : Json} (h : Json.parse raw = .ok value)
      (hfirst : value.firstMember? conditionNames = some (name, member))
  /-- The text is no JSON, but with its backslashes doubled it is an object with conditions. -/
  | doubled {e : Json.Error} {value : Json} (h : Json.parse raw = .error e) (hslash : '\\' ∈ raw.toList)
      (hvalue : Json.document (doubled raw.toList) = .ok value)
      (hfirst : value.firstMember? doubledNames = some (name, member))

/-- What a pattern demands of a request. -/
inductive Demands [Regex.SizeLimit] (raw : String) : Option BodyMatcher → Prop
  /-- Nothing is written. -/
  | blank (h : isBlankText raw = true) : Demands raw none
  /-- A value without a condition is written. -/
  | nothing {value : Json} (h : Json.parse raw = .ok value) (hnone : value.firstMember? conditionNames = none) :
      Demands raw none
  /-- A condition is given. -/
  | condition {name : String} {member : Json} (h : Gives raw name member) : Demands raw (some (ofCondition name member))
  /-- The text is no JSON and gives no condition. -/
  | literal {e : Json.Error} (hblank : isBlankText raw = false) (h : Json.parse raw = .error e)
      (hnone : ∀ name member, ¬Gives raw name member) : Demands raw (some (.literal raw))

/-- Every pattern demands something or nothing. -/
theorem exists_demands [Regex.SizeLimit] (raw : String) : ∃ result, Demands raw result := by
  by_cases hgives : ∃ name member, Gives raw name member
  · obtain ⟨name, member, h⟩ := hgives
    exact ⟨_, .condition h⟩
  cases hblank : isBlankText raw with
  | true => exact ⟨_, .blank hblank⟩
  | false =>
      cases h : Json.parse raw with
      | error e => exact ⟨_, .literal hblank h fun name member hgive => hgives ⟨name, member, hgive⟩⟩
      | ok value =>
          refine ⟨_, .nothing h (Option.eq_none_iff_forall_ne_some.mpr fun found hfirst => ?_)⟩
          exact hgives ⟨_, _, .written h hfirst⟩

/-- A pattern that gives a condition is compiled to it. -/
theorem Gives.compile_eq [Regex.SizeLimit] (h : Gives raw name member) (hcache : cache.Sound) :
    (compile (some raw) cache).1 = some (ofCondition name member) := by
  cases h with
  | written h hfirst =>
      rw [compile_of_parse_ok (isBlankText_of_parse_ok h) h, (computes_ofObject _ cache hcache).1, hfirst,
        Option.map_some]
  | doubled h hslash hvalue hfirst =>
      have hblank : isBlankText raw = false := List.all_eq_false.mpr ⟨'\\', hslash, by decide⟩
      have hcondition : doubledCondition? raw = some (name, member) :=
        doubledCondition?_eq_some_iff.mpr ⟨hslash, _, hvalue, hfirst⟩
      rw [compile_of_parse_error hblank h, (computes_ofDoubled _ cache hcache).1, hcondition]
      rfl

/-- Compiling finds what a pattern demands. -/
theorem Demands.compile_eq [Regex.SizeLimit] {result : Option BodyMatcher} (h : Demands raw result)
    (hcache : cache.Sound) :
    (compile (some raw) cache).1 = result := by
  cases h with
  | blank h => rw [compile, if_pos h]
  | nothing h hnone =>
      rw [compile_of_parse_ok (isBlankText_of_parse_ok h) h, (computes_ofObject _ cache hcache).1, hnone,
        Option.map_none]
  | condition h => exact h.compile_eq hcache
  | literal hblank h hnone =>
      have hcondition : doubledCondition? raw = none := by
        rw [Option.eq_none_iff_forall_ne_some]
        intro found hfound
        obtain ⟨hslash, value, hvalue, hfirst⟩ := doubledCondition?_eq_some_iff.mp hfound
        exact hnone _ _ (.doubled h hslash hvalue hfirst)
      rw [compile_of_parse_error hblank h, (computes_ofDoubled _ cache hcache).1, hcondition]
      rfl

/-- **What a body pattern demands**, and that it is always the same. A pattern that is neither blank nor JSON is never
dropped, and demands neither a document nor what a query finds. -/
theorem compile_eq_iff [Regex.SizeLimit] :
    (∀ (limit : Option Nat) (uses : List Cache.Use) (raw : String) (result : Option BodyMatcher),
      (compile (some raw) (.after limit uses)).1 = result ↔ Demands raw result) ∧
    ∀ (limit : Option Nat) (uses : List Cache.Use) (raw : String) (e : Json.Error),
      isBlankText raw = false → Json.parse raw = .error e →
        ∃ matcher, (compile (some raw) (.after limit uses)).1 = some matcher ∧
          matcher.kind ≠ "equalToJson" ∧ matcher.kind ≠ "matchesJsonPath" := by
  refine ⟨fun limit uses raw result => ⟨?_, fun h => h.compile_eq (Cache.sound_after limit uses)⟩, ?_⟩
  · rintro rfl
    obtain ⟨result, h⟩ := exists_demands raw
    rwa [h.compile_eq (Cache.sound_after limit uses)]
  · intro limit uses raw e hblank herror
    obtain ⟨result, h⟩ := exists_demands raw
    rw [h.compile_eq (Cache.sound_after limit uses)]
    cases h with
    | blank h => rw [h] at hblank; cases hblank
    | nothing h hnone => rw [h] at herror; cases herror
    | @condition name member h =>
        cases h with
        | written h hfirst => rw [h] at herror; cases herror
        | doubled h hslash hvalue hfirst =>
            have hnames : ∀ name ∈ doubledNames,
                name ∈ conditionNames ∧ name ≠ "equalToJson" ∧ name ≠ "matchesJsonPath" := by
              decide
            obtain ⟨hname, hne⟩ := hnames name (Json.mem_of_firstMember? hfirst)
            exact ⟨_, rfl, (kind_ofCondition hname member).symm ▸ hne⟩
    | literal hblank h hnone => exact ⟨_, rfl, by simp [kind], by simp [kind]⟩

/-- A pattern whose backslash was not doubled is understood nevertheless. -/
theorem compile_eq_iff_singleBackslash :
    isBlankText "\x7b\"contains\": \"\\d\"\x7d" = false ∧
    Json.parse "\x7b\"contains\": \"\\d\"\x7d" = .error .invalidEscape ∧
    (compile (some "\x7b\"contains\": \"\\d\"\x7d") (.after none [])).1 = some (.contains "\\d") ∧
    ∃ matcher, (compile (some "\x7b\"contains\": \"\\d\"\x7d") (.after none [])).1 = some matcher ∧
      matcher.kind ≠ "equalToJson" ∧ matcher.kind ≠ "matchesJsonPath" := by
  have hblank : isBlankText "\x7b\"contains\": \"\\d\"\x7d" = false := by decide
  have herror : Json.parse "\x7b\"contains\": \"\\d\"\x7d" = .error .invalidEscape := by cbv
  have hvalue : Json.document (doubled "\x7b\"contains\": \"\\d\"\x7d".toList) =
      .ok (.object [("contains", .string "\\d")]) := by cbv
  have hgives : Gives "\x7b\"contains\": \"\\d\"\x7d" "contains" (.string "\\d") :=
    .doubled herror (by decide) hvalue rfl
  exact ⟨hblank, herror, (compile_eq_iff.1 none [] _ _).mpr (.condition hgives),
    compile_eq_iff.2 none [] _ _ hblank herror⟩

end BodyMatcher

end StubServer
