import StubServer.Proofs.Binary64
import StubServer.Proofs.Json.Containment
import StubServer.Proofs.Json.RoundTrip
import StubServer.Proofs.Matcher.Body

/-!
# Patterns that expect a document

A pattern may expect a document of the body, given as it is or as a text (`Expects`). It accepts a body if this
is JSON in which the document is contained, so all that matters is the value a body has. As containment is a
preorder, a document is accepted itself, and a body stays accepted when it grows. Numbers are compared rounded,
so integers beyond `2⁵³` may be accepted for each other, wherever in a document they stand (`filled`).

## Main statements

* `containment_preorder`: containment is a preorder, and what follows for bodies.
* `compile_documentForms`: a document and its text are the same expectation.
* `accepts_filled_iff`: which integers are told apart at a place of a document.
-/

namespace StubServer.BodyMatcher

open Json (WellFormed Grows Plain Spelled SpellsString)
open Regex (Cache)

variable {raw body : String} {cache : Cache} {document v w : Json}

/-! ### Expected documents -/

/-- A pattern expects a document, which it gives as it is or as a text. -/
def Expects (raw : String) (document : Json) : Prop :=
  ∃ expected, Gives raw "equalToJson" expected ∧ ofExpected expected = .document document

/-- A pattern that expects a document is compiled to a check for it. -/
theorem Expects.compile_eq [Regex.SizeLimit] (h : Expects raw document) (hcache : cache.Sound) :
    (compile (some raw) cache).1 = some (.document document) := by
  obtain ⟨expected, hgives, hexpected⟩ := h
  rw [hgives.compile_eq hcache, ofCondition, if_pos rfl, hexpected]

/-- A body is accepted if it is a value in which the document is contained. -/
theorem accepts_document_iff :
    (BodyMatcher.document document).accepts body = true ↔
      ∃ v, Json.parse body = .ok v ∧ document.containedIn v = true := by
  simp only [accepts, holdsOfJson]
  cases Json.parse body <;> simp

/-- A body that is a value is accepted if the document is contained in it. -/
theorem accepts_document_of_parse (h : Json.parse body = .ok v) :
    (BodyMatcher.document document).accepts body = document.containedIn v := by
  simp [accepts, holdsOfJson, h]

/-- **Containment is a preorder**, and so a document is accepted itself, and a body stays accepted when members or
items are added to it or its items are put in another order, anywhere inside. -/
theorem containment_preorder [Regex.SizeLimit] :
    (∀ v : Json, WellFormed v → v.containedIn v = true) ∧
    (∀ a b c : Json, b.containedIn a = true → c.containedIn b = true → c.containedIn a = true) ∧
    ∀ (limit : Option Nat) (uses : List Cache.Use) (raw : String) (document : Json), Expects raw document →
      ∃ check, (compile (some raw) (.after limit uses)).1 = some check ∧
        (∀ body, Json.parse body = .ok document → check.accepts body = true) ∧
        ∀ body grown v w, Json.parse body = .ok v → Json.parse grown = .ok w →
          Relation.ReflTransGen Grows v w → check.accepts body = true → check.accepts grown = true := by
  refine ⟨fun v h => h.containedIn_self, fun a b c hab hbc => Json.containedIn_trans hbc hab, ?_⟩
  intro limit uses raw document hexpects
  refine ⟨_, hexpects.compile_eq (Cache.sound_after limit uses), fun body hbody => ?_, ?_⟩
  · rw [accepts_document_of_parse hbody]
    exact (Json.wellFormed_of_parse_eq_ok hbody).containedIn_self
  · intro body grown v w hbody hgrown hgrows haccepts
    rw [accepts_document_of_parse hbody] at haccepts
    rw [accepts_document_of_parse hgrown]
    exact (Json.containedIn_of_grows hgrows (Json.wellFormed_of_parse_eq_ok hbody) haccepts).1

/-- Tags in another order, and a new member beside them. -/
theorem containment_preorder_reordered : ∃ v w : Json,
    Expects "\x7b\"equalToJson\": \x7b\"tags\": [\"a\", \"b\"]\x7d\x7d" v ∧
    Json.parse "\x7b\"tags\": [\"a\", \"b\"]\x7d" = .ok v ∧
    Json.parse "\x7b\"tags\": [\"b\", \"a\"], \"x\": null\x7d" = .ok w ∧ Relation.ReflTransGen Grows v w ∧
    v.containedIn v = true ∧ v.containedIn w = true ∧
    ∃ check,
      (compile (some "\x7b\"equalToJson\": \x7b\"tags\": [\"a\", \"b\"]\x7d\x7d") (.after none [])).1 = some check ∧
      check.accepts "\x7b\"tags\": [\"a\", \"b\"]\x7d" = true ∧
      check.accepts "\x7b\"tags\": [\"b\", \"a\"], \"x\": null\x7d" = true := by
  obtain ⟨hself, htrans, hpattern⟩ := containment_preorder
  have hbody : Json.parse "\x7b\"tags\": [\"a\", \"b\"]\x7d" =
      .ok (.object [("tags", .array [.string "a", .string "b"])]) := by cbv
  have hgrown : Json.parse "\x7b\"tags\": [\"b\", \"a\"], \"x\": null\x7d" =
      .ok (.object [("tags", .array [.string "b", .string "a"]), ("x", .null)]) := by cbv
  have hparse : Json.parse "\x7b\"equalToJson\": \x7b\"tags\": [\"a\", \"b\"]\x7d\x7d" =
      .ok (.object [("equalToJson", .object [("tags", .array [.string "a", .string "b"])])]) := by cbv
  have hraw : Expects "\x7b\"equalToJson\": \x7b\"tags\": [\"a\", \"b\"]\x7d\x7d"
      (.object [("tags", .array [.string "a", .string "b"])]) := ⟨_, .written hparse rfl, rfl⟩
  have hswapped : Grows (.object [("tags", .array [.string "a", .string "b"])])
      (.object [("tags", .array [.string "b", .string "a"])]) :=
    .inMember [] [] "tags" (.reorder (.swap _ _ _))
  have hadded : Grows (.object [("tags", .array [.string "b", .string "a"])])
      (.object [("tags", .array [.string "b", .string "a"]), ("x", .null)]) :=
    @Grows.member _ "x" _ (by decide) .null
  have hgrows := (Relation.ReflTransGen.single hswapped).tail hadded
  have hwellFormed := Json.wellFormed_of_parse_eq_ok hbody
  have hmiddle := hswapped.wellFormed hwellFormed
  obtain ⟨check, hcheck, hdocument, hmore⟩ := hpattern none [] _ _ hraw
  have haccepts := hdocument _ hbody
  exact ⟨_, _, hraw, hbody, hgrown, hgrows, hself _ hwellFormed,
    htrans _ _ _ (hadded.containedIn hmiddle) (hswapped.containedIn hwellFormed),
    check, hcheck, haccepts, hmore _ _ _ _ hbody hgrown hgrows haccepts⟩

/-! ### Written patterns -/

/-- The pattern that expects a value, or the document that is its text. -/
def pattern (expected : Json) : Json :=
  .object [("equalToJson", expected)]

/-- A pattern is understood however it is written. -/
theorem gives_of_spelled {expected : Json} (h : Spelled (pattern expected) raw.toList) :
    Gives raw "equalToJson" expected :=
  .written h.document_eq rfl

/-- A document is expected as it is, if it is no string. -/
theorem expects_of_spelled (hstring : ∀ s, document ≠ .string s) (h : Spelled (pattern document) raw.toList) :
    Expects raw document := by
  refine ⟨document, gives_of_spelled h, ?_⟩
  cases document with
  | string s => exact absurd rfl (hstring s)
  | _ => rfl

/-- A document is expected as its text. -/
theorem expects_of_spelled_text (hplain : Plain (Json.depthLimit - 1) document)
    (h : Spelled (pattern (.string document.render)) raw.toList) : Expects raw document := by
  refine ⟨_, gives_of_spelled h, ?_⟩
  simp only [ofExpected, hplain.parse_render]

/-! ### Places in documents -/

/-- The members of an object around the value of one of them. -/
structure Surrounding where
  before : List (String × Json)
  name : String
  after : List (String × Json)

/-- The document with a value at a place that is reached through members of objects only. -/
def filled : List Surrounding → Json → Json
  | [], v => v
  | s :: place, v => .object (s.before ++ (s.name, filled place v) :: s.after)

/-- Documents that differ at one place only are contained in each other as far as the values there are. -/
theorem containedIn_filled_iff (place : List Surrounding) (h : WellFormed (filled place w)) :
    (filled place v).containedIn (filled place w) = true ↔ v.containedIn w = true := by
  induction place with
  | nil => exact Iff.rfl
  | cons s place ih =>
      have hinside : WellFormed (filled place w) :=
        (Json.wellFormed_object.mp h).2 (s.name, _) (by simp)
      exact (Json.containedIn_replace_iff h).trans (ih hinside)

/-- A document with an identifier. -/
def identified (id : Int) (inRange : Json.InRange id) : Json :=
  filled [{ before := [], name := "id", after := [] }] (.number (.integer id inRange))

variable {id : Int} {inRange : Json.InRange id}

/-- It fits wherever there is room for an object. -/
theorem plain_identified (room : Nat) : Plain (room + 1) (identified id inRange) :=
  Json.plain_member_iff.mpr (.integer room id inRange)

/-- It is no string. -/
theorem identified_ne_string (s : String) : identified id inRange ≠ .string s :=
  nofun

/-- A pattern that expects it is a text of one. -/
theorem spelled_pattern_identified (h : (pattern (identified id inRange)).render = raw) :
    Spelled (pattern (identified id inRange)) raw.toList :=
  (Json.plain_member_iff.mpr (plain_identified 125)).spelled h

/-- It is a text of itself. -/
theorem spelled_identified (h : (identified id inRange).render = body) :
    Spelled (identified id inRange) body.toList :=
  (plain_identified 126).spelled h

/-- It is expected by a pattern that is a text of one. -/
theorem expects_identified (h : (pattern (identified id inRange)).render = raw) :
    Expects raw (identified id inRange) :=
  expects_of_spelled identified_ne_string (spelled_pattern_identified h)

/-- Its text is read back. -/
theorem parse_identified (h : (identified id inRange).render = body) :
    Json.parse body = .ok (identified id inRange) :=
  (spelled_identified h).document_eq

/-! ### Two forms of an expectation -/

/-- **A document and its text are the same expectation**, and a body is judged by its value alone, whatever its
blanks, the order of its members and its escapes. -/
theorem compile_documentForms [Regex.SizeLimit] (limit : Option Nat) (uses : List Cache.Use) (document : Json)
    (raw text : String) (hplain : Plain (Json.depthLimit - 1) (pattern document)) (hstring : ∀ s, document ≠ .string s)
    (hraw : Spelled (pattern document) raw.toList)
    (htext : Spelled (pattern (.string document.render)) text.toList) :
    ∃ check other, (compile (some raw) (.after limit uses)).1 = some check ∧
      (compile (some text) (.after limit uses)).1 = some other ∧
      (∀ body, check.accepts body = other.accepts body) ∧
      (∀ body, check.accepts body = true ↔
        ∃ v, Json.parse body = .ok v ∧ document.containedIn v = true) ∧
      ∀ v body again, Spelled v body.toList → Spelled v again.toList →
        check.accepts body = check.accepts again := by
  have hvalue := (expects_of_spelled hstring hraw).compile_eq (Cache.sound_after limit uses)
  have hinside : Plain (Json.depthLimit - 1) document := (Json.plain_member_iff.mp hplain).succ
  have hsame := (expects_of_spelled_text hinside htext).compile_eq (Cache.sound_after limit uses)
  refine ⟨_, _, hvalue, hsame, fun _ => rfl, fun _ => accepts_document_iff, ?_⟩
  intro v body again hbody hagain
  rw [accepts_document_of_parse hbody.document_eq, accepts_document_of_parse hagain.document_eq]

/-- An identifier as it is and as a text, and two ways to write it in a body. -/
theorem compile_documentForms_identified : ∃ document : Json,
    Spelled (pattern document) "\x7b\"equalToJson\":\x7b\"id\":7\x7d\x7d".toList ∧
    Spelled (pattern (.string document.render)) "\x7b\"equalToJson\":\"\x7b\\\"id\\\":7\x7d\"\x7d".toList ∧
    Spelled document "\x7b\"id\":7\x7d".toList ∧ Spelled document "\x7b \"\\u0069d\": 7\x7d".toList ∧
    ∃ check other,
      (compile (some "\x7b\"equalToJson\":\x7b\"id\":7\x7d\x7d") (.after none [])).1 = some check ∧
      (compile (some "\x7b\"equalToJson\":\"\x7b\\\"id\\\":7\x7d\"\x7d") (.after none [])).1 = some other ∧
      (∀ body, check.accepts body = other.accepts body) ∧
      check.accepts "\x7b\"id\":7\x7d" = check.accepts "\x7b \"\\u0069d\": 7\x7d" := by
  have hrange : Json.InRange 7 := by decide
  have hplain : Plain (Json.depthLimit - 1) (pattern (identified 7 hrange)) :=
    Json.plain_member_iff.mpr (plain_identified 125)
  have hraw : Spelled (pattern (identified 7 hrange)) "\x7b\"equalToJson\":\x7b\"id\":7\x7d\x7d".toList :=
    spelled_pattern_identified (by cbv)
  have hplainText : Plain (Json.depthLimit - 1) (pattern (.string (identified 7 hrange).render)) :=
    Json.plain_member_iff.mpr (.string 126 _)
  have htext : Spelled (pattern (.string (identified 7 hrange).render))
      "\x7b\"equalToJson\":\"\x7b\\\"id\\\":7\x7d\"\x7d".toList := hplainText.spelled (by cbv)
  have hbody : Spelled (identified 7 hrange) "\x7b\"id\":7\x7d".toList := spelled_identified (by cbv)
  -- The same with blanks, and with the number of a letter.
  have hname : SpellsString "id".toList "\\u0069d".toList :=
    @SpellsString.hex 0x69 _ _ _ _ _ _ rfl rfl rfl (.plain (by decide) (by decide) (by decide) .nil)
  have hseven : Json.Spells 126 (.number (.integer 7 hrange)) ['7'] := @Json.Spells.number 126 false ['7'] _ rfl
  have hspells : Json.Spells 127 (identified 7 hrange) "\x7b \"\\u0069d\": 7\x7d".toList :=
    Json.Spells.object
      [{ before := .one, name := "id", nameText := "\\u0069d".toList
         item := { before := .one, value := .number (.integer 7 hrange), core := ['7'] } }]
      .none (List.forall_mem_singleton.mpr hname) (List.forall_mem_singleton.mpr hseven)
  have hagain : Spelled (identified 7 hrange) "\x7b \"\\u0069d\": 7\x7d".toList :=
    ⟨{ value := _, core := _ }, rfl, List.append_nil _, hspells⟩
  obtain ⟨check, other, hcheck, hother, hsame, -, hverdict⟩ :=
    compile_documentForms none [] _ _ _ hplain identified_ne_string hraw htext
  exact ⟨_, hraw, htext, hbody, hagain, check, other, hcheck, hother, hsame, hverdict _ _ _ hbody hagain⟩

/-! ### Integers in documents -/

/-- An integer at a place of a document is accepted for another that is rounded alike. -/
theorem accepts_filled_integer_iff (place : List Surrounding) {m n : Int} {hm : Json.InRange m}
    {hn : Json.InRange n} (hbody : Json.parse body = .ok (filled place (.number (.integer n hn)))) :
    (BodyMatcher.document (filled place (.number (.integer m hm)))).accepts body = true ↔
      (Binary64.ofInt m).same (Binary64.ofInt n) = true := by
  rw [accepts_document_of_parse hbody, containedIn_filled_iff place (Json.wellFormed_of_parse_eq_ok hbody),
    Json.containedIn_number]
  simp [Json.Number.toReal]

/-- **Which integers are told apart** at a place of a document: those that are rounded to different floating point
numbers, among them all of less than 54 bits. -/
theorem accepts_filled_iff [Regex.SizeLimit] (limit : Option Nat) (uses : List Cache.Use) (raw body : String)
    (place : List Surrounding) (m n : Int) (hm : Json.InRange m) (hn : Json.InRange n)
    (hraw : Expects raw (filled place (.number (.integer m hm))))
    (hbody : Json.parse body = .ok (filled place (.number (.integer n hn)))) :
    ∃ check, (compile (some raw) (.after limit uses)).1 = some check ∧
      (check.accepts body = true ↔ (Binary64.ofInt m).same (Binary64.ofInt n) = true) ∧
      (m.natAbs < 9007199254740992 → (check.accepts body = true ↔ m = n)) := by
  have haccepts : (BodyMatcher.document (filled place (.number (.integer m hm)))).accepts body = true ↔ _ :=
    accepts_filled_integer_iff place hbody
  exact ⟨_, hraw.compile_eq (Cache.sound_after limit uses), haccepts,
    fun hsmall => haccepts.trans (Binary64.ofInt_same_iff hsmall)⟩

/-- A small identifier is not accepted for another, a large one may be. -/
theorem accepts_filled_iff_identified : ∃ check other,
    (compile (some "\x7b\"equalToJson\":\x7b\"id\":7\x7d\x7d") (.after none [])).1 = some check ∧
    ¬ check.accepts "\x7b\"id\":8\x7d" = true ∧
    (compile (some "\x7b\"equalToJson\":\x7b\"id\":9007199254740992\x7d\x7d") (.after none [])).1 = some other ∧
    other.accepts "\x7b\"id\":9007199254740993\x7d" = true := by
  have hsmall : Expects "\x7b\"equalToJson\":\x7b\"id\":7\x7d\x7d" (identified 7 (by decide)) :=
    expects_identified (by cbv)
  have height : Json.parse "\x7b\"id\":8\x7d" = .ok (identified 8 (by decide)) :=
    parse_identified (by cbv)
  have hlarge : Expects "\x7b\"equalToJson\":\x7b\"id\":9007199254740992\x7d\x7d"
      (identified 9007199254740992 (by decide)) :=
    expects_identified (by cbv)
  have hnext : Json.parse "\x7b\"id\":9007199254740993\x7d" = .ok (identified 9007199254740993 (by decide)) :=
    parse_identified (by cbv)
  obtain ⟨check, hcheck, -, hdiffers⟩ := accepts_filled_iff none [] _ _ _ _ _ _ _ hsmall height
  obtain ⟨other, hother, hrounded, -⟩ := accepts_filled_iff none [] _ _ _ _ _ _ _ hlarge hnext
  exact ⟨check, other, hcheck, fun h => absurd ((hdiffers (by decide)).mp h) (by decide), hother,
    hrounded.mpr (by decide +kernel)⟩

/-- **Not all integers are told apart**: `2⁵³ + 1` is accepted for `2⁵³`. -/
theorem not_forall_accepts_filled_iff :
    ¬ ∀ (limit : Option Nat) (uses : List Cache.Use) (raw body : String) (place : List Surrounding)
      (m n : Int) (hm : Json.InRange m) (hn : Json.InRange n),
      Expects raw (filled place (.number (.integer m hm))) →
      Json.parse body = .ok (filled place (.number (.integer n hn))) →
      ∃ check, (compile (some raw) (.after limit uses)).1 = some check ∧
        (check.accepts body = true ↔ m = n) := by
  intro h
  have hraw : Expects "\x7b\"equalToJson\":\x7b\"id\":9007199254740992\x7d\x7d"
      (identified 9007199254740992 (by decide)) :=
    expects_identified (by cbv)
  have hbody : Json.parse "\x7b\"id\":9007199254740993\x7d" = .ok (identified 9007199254740993 (by decide)) :=
    parse_identified (by cbv)
  obtain ⟨check, hcheck, haccepts⟩ := h none [] _ _ _ _ _ _ _ hraw hbody
  rw [hraw.compile_eq (Cache.sound_after none [])] at hcheck
  obtain rfl := Option.some.inj hcheck
  have hrounded : (Binary64.ofInt 9007199254740992).same (Binary64.ofInt 9007199254740993) = true := by
    decide +kernel
  exact absurd (haccepts.mp ((accepts_filled_integer_iff _ hbody).mpr hrounded)) (by decide)

end StubServer.BodyMatcher
