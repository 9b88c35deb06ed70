import StubServer.Proofs.Matcher.Body
import StubServer.Proofs.Matcher.Field
import StubServer.Proofs.Rule.Reading
import StubServer.Proofs.Rule.Validation

/-!
# Patterns and responses that are given as values

The patterns for headers, query and body and the response of a rule are texts, but may be given as the values that they
stand for. Such a value is kept as its compact text. It is read back from there, since a rule leaves less room for
containers inside each other than a text of its own; so everything that is made of the field later on is made of the
value, and the rule is the one that is read if the text is given as a string.

The value stands at a place of the rule's text that is found without reading the rule: whatever stands before it is
read over. What was read of the rule up to there does not depend on what stands at the place, and what is read behind it
goes on as before.

## Main definitions

* `FieldAt`: a field is given at a place of a text.
* `Inline`: what is made of a field that was given as a value.

## Main statements

* `readField_inline`: a field that is given as a value or as a text.
* `MemberAt.inline`, `ItemAt.inline`, `FieldAt.inline`: a rule that is read with one or the other.
* `ofText_inline`: patterns and responses can be given as values or as texts.
-/

namespace StubServer.Rule

open Json (Text Source Gap BeginsWith EndsInteger)

variable {depth : Nat} {field : Field} {rule : Rule}

/-! ### Fields that stand for texts -/

/-- The fields that are given as a text, or as a value that stands for one. -/
def Field.raw : List Field :=
  [.headerPattern, .queryPattern, .bodyPattern, .response]

/-- A rule that holds a text in all of these fields. -/
def holding (text : String) : Rule :=
  { headerPattern := some text, queryPattern := some text, bodyPattern := some text, response := text }

variable {room : Nat} {v : Json} {place right : Text}

/-- What is written for such a field is the text that it holds. -/
theorem fieldJson_copy_holding (hfield : field ∈ Field.raw) (text : String) (rule : Rule) :
    ((holding text).copy field rule).fieldJson field = some (.string text) := by
  simp only [Field.raw, List.mem_cons, List.not_mem_nil, or_false] at hfield
  rcases hfield with rfl | rfl | rfl | rfl <;> rfl

/-- A value is read as its compact text. -/
theorem readRawText_eq (hv : BeginsWith room v place right) (hright : EndsInteger right) (hroom : room < depth)
    (hnull : v ≠ .null) : readRawText (.text [] depth) place = .ok (some v.asText, right) := by
  have hread : (Source.text [] depth).any place = .ok (v, right) := hv.readValue_eq hright hroom
  unfold readRawText
  rw [hread, ok_bind]
  cases v with
  | null => exact absurd rfl hnull
  | bool | number | string | array | object => rfl

/-- **A field that stands for a text** is read from a value. -/
theorem readField_eq (hfield : field ∈ Field.raw) (hv : BeginsWith room v place right) (hright : EndsInteger right)
    (hroom : room < depth) (hnull : v ≠ .null) (rule : Rule) :
    readField (.text [] depth) field rule place = .ok ((holding v.asText).copy field rule, right) := by
  have hraw := readRawText_eq hv hright hroom hnull
  simp only [Field.raw, List.mem_cons, List.not_mem_nil, or_false] at hfield
  rcases hfield with rfl | rfl | rfl | rfl <;> simp only [readField, hraw] <;> rfl

/-- Where such a field is read, a value stands for which there is room. -/
theorem exists_of_readField (hfield : field ∈ Field.raw) {other : Rule}
    (h : readField (.text [] depth) field rule place = .ok (other, right)) :
    ∃ w, BeginsWith (depth - 1) w place right := by
  have hraw : ∃ s, readRawText (.text [] depth) place = .ok (s, right) := by
    simp only [Field.raw, List.mem_cons, List.not_mem_nil, or_false] at hfield
    rcases hfield with rfl | rfl | rfl | rfl
    all_goals
      obtain ⟨⟨s, _⟩, hraw, h⟩ := exists_of_bind_eq_ok h
      cases h
      exact ⟨s, hraw⟩
  obtain ⟨s, hraw⟩ := hraw
  obtain ⟨⟨w, after⟩, hread, h⟩ := exists_of_bind_eq_ok hraw
  have hafter : after = right := by
    cases w with
    | null => cases h; rfl
    | bool | number | string | array | object => cases h; rfl
  subst hafter
  exact ⟨w, Json.beginsWith_of_readValue hread⟩

/-! ### Where fields stand -/

/-- In the text of an object, behind its brace or behind some of its members, the value of a member with a name stands
at a place. -/
inductive MemberAt (label : String) (place : Text) : (first : Bool) → Text → Prop
  | here {first : Bool} {text behind : Text} (hname : Json.nextName [] first text = .ok (some label, behind))
      (hcolon : Json.colon behind = .ok place) : MemberAt label place first text
  | next {first : Bool} {name : String} {text behind value after : Text}
      (hname : Json.nextName [] first text = .ok (some name, behind)) (hcolon : Json.colon behind = .ok value)
      (hskip : Json.skipValue (Json.fuelFor value) value = .ok after) (h : MemberAt label place false after) :
      MemberAt label place first text

/-- In the text of an array, behind its bracket or behind some of its items, an item stands at a place. -/
inductive ItemAt (place : Text) : (index : Nat) → (first : Bool) → Text → Prop
  | here {first : Bool} {text : Text} (hitem : Json.nextItem first text = .ok (true, place)) :
      ItemAt place 0 first text
  | next {index : Nat} {first : Bool} {text value after : Text} (hitem : Json.nextItem first text = .ok (true, value))
      (hskip : Json.skipValue (Json.fuelFor value) value = .ok after) (h : ItemAt place index false after) :
      ItemAt place (index + 1) first text

/-- In the text of a rule, behind blanks, the value of a field stands at a place: by its name in an object, or by its
position in an array. -/
inductive FieldAt (field : Field) (place : Text) : Text → Prop
  | member (gap : Gap) {text : Text} (h : MemberAt field.label place true text) :
      FieldAt field place (gap.text ++ '\x7b' :: text)
  | item (gap : Gap) {text : Text} (h : ItemAt place (Field.all.idxOf field) true text) :
      FieldAt field place (gap.text ++ '[' :: text)

/-- A value other than null and strings stands for its compact text. -/
theorem asText_eq_render (hstring : ∀ s, v ≠ .string s) : v.asText = v.render := by
  cases v with
  | string s => exact absurd rfl (hstring s)
  | null | bool | number | array | object => rfl

/-! ### One or the other -/

/-- What is read with a value at a place is read alike with the compact text of the value there: the value fits into
the room that is left, the rule holds its text, and it is the same rule that is read from a string that is this text. -/
structure Alike (room : Nat) (field : Field) (v : Json) (place right : Text) (out : Rule) (reads : Text → Prop) :
    Prop where
  fits : BeginsWith room v place right
  written : out.fieldJson field = some (.string v.render)
  reads : ∀ {more other}, BeginsWith more (.string v.render) other right → reads other

section Places

variable {first : Bool} {index : Nat} {seen : List Field} {text after : Text} {out : Rule} (hdepth : 0 < depth)
  (hfield : field ∈ Field.raw) (hnull : v ≠ .null) (hstring : ∀ s, v ≠ .string s) (hv : BeginsWith room v place right)
  (hright : EndsInteger right)
include hdepth hfield hnull hstring hv hright

/-- **A field** can be given as a value or as the compact text of the value. -/
theorem readField_inline (h : readField (.text [] depth) field rule place = .ok (out, after))
    (hafter : EndsInteger after) :
    after = right ∧
    Alike (depth - 1) field v place right out fun other =>
      readField (.text [] depth) field rule other = .ok (out, right) := by
  obtain ⟨w, hw⟩ := exists_of_readField hfield h
  obtain ⟨rfl, rfl⟩ := hv.unique hw hright hafter
  have hread := readField_eq hfield hw hright (Nat.sub_lt hdepth Nat.one_pos) hnull rule
  rw [asText_eq_render hstring, h] at hread
  cases hread
  exact ⟨rfl, hw, fieldJson_copy_holding hfield v.render rule, fun hother =>
    readField_eq hfield hother.of_string hright hdepth nofun rule⟩

/-- The member of a field can be given as a value or as the compact text of the value. -/
theorem readMember_inline {state : List Field × Rule}
    (h : readMember [] depth field.label seen rule place = .ok (state, after)) (hafter : EndsInteger after) :
    after = right ∧ field ∈ state.1 ∧
    Alike (depth - 1) field v place right state.2 fun other =>
      readMember [] depth field.label seen rule other = .ok (state, right) := by
  obtain ⟨hnone, -⟩ | ⟨other, next, hlabel, hseen, hread, rfl⟩ := readMember_eq_ok_iff.mp h
  · cases hnone.symm.trans (ofLabel?_label field)
  cases hlabel.symm.trans (ofLabel?_label field)
  obtain ⟨rfl, halike⟩ := readField_inline hdepth hfield hnull hstring hv hright hread hafter
  exact ⟨rfl, List.mem_cons_self, halike.fits, halike.written, fun hplace =>
    readMember_eq_ok_iff.mpr (.inr ⟨field, next, hlabel, hseen, halike.reads hplace, rfl⟩)⟩

/-- **A member of a rule's object** can be given as a value or as the compact text of the value. -/
theorem MemberAt.inline (hat : MemberAt field.label place first text) :
    ∃ left, left ≠ [] ∧ text = left ++ place ∧ ∀ {fuel seen rule out rest},
      membersOfText [] depth fuel first seen rule text = .ok (out, rest) →
        Alike (depth - 1) field v place right out fun other => ∀ enough, (left ++ other).length < enough →
          membersOfText [] depth enough first seen rule (left ++ other) = .ok (out, rest) := by
  induction hat with
  | here hname hcolon =>
      obtain ⟨left, hleft, htext, hfront⟩ := Json.exists_left_of_nextName hname hcolon
      refine ⟨left, hleft, htext, fun {fuel seen rule out rest} hread => ?_⟩
      obtain ⟨less, state, after, hmember, hends, hothers⟩ := exists_readMember_of_nextName hname hcolon hread
      obtain ⟨rfl, hseen, halike⟩ := readMember_inline hdepth hfield hnull hstring hv hright hmember hends
      refine ⟨halike.fits, by rw [fieldJson_membersOfText hseen hothers, halike.written],
        fun {more other} hplace enough henough => ?_⟩
      obtain ⟨behind, hname, hcolon⟩ := hfront other
      obtain ⟨enough, rfl⟩ : ∃ n, enough = n + 1 := ⟨enough - 1, by omega⟩
      have hlength : after.length < enough := by
        obtain ⟨gap, core, rfl, -⟩ := hplace
        have hpositive := List.length_pos_iff.mpr hleft
        simp only [List.length_append] at henough
        omega
      exact membersOfText_succ_eq_ok_iff.mpr (.inr ⟨_, behind, other, state, after, hname, hcolon,
        halike.reads hplace, membersOfText_of_length_lt hdepth hothers hlength⟩)
  | next hname hcolon hskip _ ih =>
      obtain ⟨front, hfrontPos, rfl, hfront⟩ := Json.exists_left_of_nextName hname hcolon
      obtain ⟨left, hleft, rfl, hafter⟩ := ih
      obtain ⟨taken, -, rfl, -⟩ := Json.skipsAlike_of_skipValue hskip
      refine ⟨front ++ (taken ++ left), by simp [hfrontPos], by simp, fun {fuel seen rule out rest} hread => ?_⟩
      obtain ⟨less, state, after, hmember, hends, hothers⟩ := exists_readMember_of_nextName hname hcolon hread
      -- What is read of the member is what is read over, so that the place is met behind it.
      obtain ⟨hover, taken', htaken, hreads⟩ := exists_taken_of_readMember hdepth hmember
      cases (hover hends).symm.trans hskip
      obtain rfl := List.append_cancel_right htaken
      have halike := hafter hothers
      refine ⟨halike.fits, halike.written, fun {more other} hplace enough henough => ?_⟩
      obtain ⟨behind, hname, hcolon⟩ := hfront (taken ++ (left ++ other))
      obtain ⟨enough, rfl⟩ : ∃ n, enough = n + 1 := ⟨enough - 1, by omega⟩
      have hlength : (left ++ other).length < enough := by
        have hpositive := List.length_pos_iff.mpr hfrontPos
        simp only [List.length_append] at henough ⊢
        omega
      rw [List.append_assoc, List.append_assoc, membersOfText_succ_eq_ok_iff]
      exact .inr ⟨_, behind, _, state, left ++ other, hname, hcolon, hreads _ (hends.append_of_ne_nil hleft other),
        halike.reads hplace enough hlength⟩

/-- **An item of a rule's array** can be given as a value or as the compact text of the value. -/
theorem ItemAt.inline (hat : ItemAt place index first text) :
    ∃ left, (first = false → left ≠ []) ∧ text = left ++ place ∧ ∀ {fields rule out rest},
      fields[index]? = some field → fields.Nodup → fieldsOfText [] depth first fields rule text = .ok (out, rest) →
        Alike (depth - 1) field v place right out fun other =>
          fieldsOfText [] depth first fields rule (left ++ other) = .ok (out, rest) := by
  induction hat with
  | here hitem =>
      obtain ⟨-, left, hleft, htext, hfront⟩ := Json.exists_left_of_nextItem hitem
      refine ⟨left, hleft, htext, fun {fields rule out rest} hindex hnodup hread => ?_⟩
      cases fields with
      | nil => cases hindex
      | cons other fields =>
      obtain rfl : other = field := by simpa using hindex
      obtain ⟨next, after, hfield', hends, hothers⟩ := exists_readField_of_nextItem hitem hread
      obtain ⟨rfl, halike⟩ := readField_inline hdepth hfield hnull hstring hv hright hfield' hends
      refine ⟨halike.fits, ?_, fun {more place'} hplace => ?_⟩
      · rw [fieldJson_fieldsOfText (List.nodup_cons.mp hnodup).1 hothers, halike.written]
      · obtain ⟨gap, core, rfl, hspells⟩ := hplace
        have hstarts : Json.Starts (core ++ after) := by
          obtain ⟨c, others, rfl, hc⟩ := hspells.starts
          exact ⟨c, _, rfl, hc⟩
        exact fieldsOfText_cons_eq_ok_iff.mpr (.inr ⟨_, next, after, hfront gap hstarts,
          halike.reads ⟨.none, core, rfl, hspells⟩, hothers⟩)
  | next hitem hskip _ ih =>
      obtain ⟨hstarts, front, -, rfl, hfront⟩ := Json.exists_left_of_nextItem hitem
      obtain ⟨left, hleft, rfl, hafter⟩ := ih
      obtain ⟨taken, htakenPos, rfl, -⟩ := Json.skipsAlike_of_skipValue hskip
      refine ⟨front ++ (taken ++ left), by simp [htakenPos], by simp only [List.append_assoc],
        fun {fields rule out rest} hindex hnodup hread => ?_⟩
      cases fields with
      | nil => cases hindex
      | cons head fields =>
      obtain ⟨next, after, hhead, hends, hothers⟩ := exists_readField_of_nextItem hitem hread
      -- What is read of the item is what is read over, so that the place is met behind it.
      obtain ⟨gap, core, room, w, htaken, hspells, hreads⟩ := readsValues_readField hdepth head rule hhead
      have hbegins : BeginsWith room w (taken ++ (left ++ place)) after := ⟨gap, core, htaken, hspells⟩
      cases (hbegins.skipValue_eq hends).symm.trans hskip
      obtain rfl : taken = gap.text ++ core :=
        List.append_cancel_right (htaken.trans (List.append_assoc _ _ _).symm)
      have halike := hafter hindex (List.nodup_cons.mp hnodup).2 hothers
      refine ⟨halike.fits, halike.written, fun {more other} hplace => ?_⟩
      have hfound := hfront .none (hstarts.append_of_ne_nil htakenPos (left ++ other))
      have hitem := hreads (hends.append_of_ne_nil (hleft rfl) other)
      rw [Json.Gap.text_none, List.nil_append] at hfound
      rw [← List.append_assoc] at hitem
      rw [List.append_assoc, List.append_assoc, fieldsOfText_cons_eq_ok_iff]
      exact .inr ⟨_, next, _, hfound, hitem, halike.reads hplace⟩

end Places

/-- **A field of a rule's text** can be given as a value or as the compact text of the value. -/
theorem FieldAt.inline {text : Text} (hdepth : 1 < depth) (hfield : field ∈ Field.raw) (hnull : v ≠ .null)
    (hstring : ∀ s, v ≠ .string s) (hv : BeginsWith room v place right) (hright : EndsInteger right)
    (hat : FieldAt field place text) :
    ∃ left, text = left ++ place ∧ ∀ {rule rest}, readText [] depth text = .ok (rule, rest) →
      Alike (depth - 1 - 1) field v place right rule fun other =>
        readText [] depth (left ++ other) = .ok (rule, rest) := by
  have hinner : 0 < depth - 1 := by omega
  have hdeep : ¬depth ≤ 1 := by omega
  cases hat with
  | @member gap text hmember =>
      obtain ⟨left, -, rfl, hinline⟩ := hmember.inline hinner hfield hnull hstring hv hright
      have hunfold : ∀ other, readText [] depth (gap.text ++ '\x7b' :: (left ++ other)) =
          membersOfText [] (depth - 1) ((left ++ other).length + 1) true [] {} (left ++ other) := by
        intro other
        rw [readText, Json.atNext_append gap.blank (by decide), if_neg (by decide), if_pos rfl, if_neg hdeep]
      refine ⟨gap.text ++ '\x7b' :: left, by simp, fun {rule rest} hread => ?_⟩
      rw [hunfold] at hread
      have halike := hinline hread
      refine ⟨halike.fits, halike.written, fun {more other} hplace => ?_⟩
      rw [List.append_assoc, List.cons_append, hunfold]
      exact halike.reads hplace _ (Nat.lt_succ_self _)
  | @item gap text hitem =>
      obtain ⟨left, -, rfl, hinline⟩ := hitem.inline hinner hfield hnull hstring hv hright
      have hunfold : ∀ other, readText [] depth (gap.text ++ '[' :: (left ++ other)) =
          fieldsOfText [] (depth - 1) true Field.all {} (left ++ other) := by
        intro other
        rw [readText, Json.atNext_append gap.blank (by decide), if_pos rfl, if_neg hdeep]
      refine ⟨gap.text ++ '[' :: left, by simp, fun {rule rest} hread => ?_⟩
      rw [hunfold] at hread
      have hindex : Field.all[Field.all.idxOf field]? = some field := by cases field <;> decide
      have halike := hinline hindex (by decide) hread
      refine ⟨halike.fits, halike.written, fun {more other} hplace => ?_⟩
      rw [List.append_assoc, List.cons_append, hunfold]
      exact halike.reads hplace

/-! ### Patterns and responses -/

/-- What is made of a field that stands for a text and was given as a value: its compact text, which is read back. As
a pattern for headers or the query an object is not dropped, as a body pattern it asks for what the value asks for, and
as a response it is no problem. -/
structure Inline (field : Field) (v : Json) (rule : Rule) : Prop where
  written : rule.fieldJson field = some (.string v.render)
  parses : Json.parse v.render = .ok v
  headers : field = .headerPattern → ∀ members, v = .object members → ∀ cache,
    (FieldMatcher.compile .header rule.headerPattern cache).1.isSome = true
  query : field = .queryPattern → ∀ members, v = .object members → ∀ cache,
    (FieldMatcher.compile .query rule.queryPattern cache).1.isSome = true
  body : field = .bodyPattern → ∀ cache,
    BodyMatcher.compile rule.bodyPattern cache = BodyMatcher.ofObject v cache
  response : field = .response → ∀ problem ∈ rule.problems, problem ≠ .noResponse ∧ ∀ e, problem ≠ .badResponse e

/-- There are no blanks to trim from a text between characters that are none. -/
theorem trim_eq_self {first last : Char} (hfirst : isBlank first = false) (hlast : isBlank last = false)
    (others : List Char) : trim (first :: (others ++ [last])) = first :: (others ++ [last]) := by
  simp [trim, trimStart, hfirst, hlast]

/-- There are no blanks around the compact text of an object. -/
theorem trimmed_render (members : List (String × Json)) :
    trimmed (Json.object members).render = (Json.object members).render := by
  obtain ⟨others, hothers⟩ := Json.exists_listed [] [] '\x7d' (Json.memberText [] Json.compact) true members
  rw [trimmed, Json.render, Json.compact_object, hothers, String.toList_ofList,
    trim_eq_self (by decide) (by decide)]

/-- A pattern that is the compact text of an object is compiled. -/
theorem isSome_compile_render {source : FieldSource} {members : List (String × Json)}
    (h : Json.parse (Json.object members).render = .ok (.object members)) (cache : Regex.Cache) :
    (FieldMatcher.compile source (some (Json.object members).render) cache).1.isSome = true := by
  have hmembers : FieldMatcher.members? (Json.object members).render = some members :=
    FieldMatcher.members?_eq_some_iff.mpr (by rw [trimmed_render, h])
  simp [FieldMatcher.compile, hmembers]

/-- A response that is JSON is no problem. -/
theorem ne_of_mem_problems (h : IsContent rule.response) :
    ∀ problem ∈ rule.problems, problem ≠ .noResponse ∧ ∀ e, problem ≠ .badResponse e := by
  intro problem hproblem
  rw [problems, responseProblem_eq_nil_iff.mpr h, List.append_nil, List.mem_append, List.mem_append] at hproblem
  rcases hproblem with (hname | hmethod) | hurl
  · split at hname
    · rw [List.mem_singleton.mp hname]
      simp
    · cases hname
  · unfold methodProblem at hmethod
    split at hmethod
    · rw [List.mem_singleton.mp hmethod]
      simp
    split at hmethod
    · cases hmethod
    · rw [List.mem_singleton.mp hmethod]
      simp
  · split at hurl
    · rw [List.mem_singleton.mp hurl]
      simp
    · cases hurl

/-- What is written for a field tells what is made of it. -/
theorem inline_of_written (hwritten : rule.fieldJson field = some (.string v.render))
    (hparse : Json.parse v.render = .ok v) : Inline field v rule where
  written := hwritten
  parses := hparse
  headers := by
    rintro rfl members rfl cache
    obtain ⟨_, hpattern, heq⟩ := Option.map_eq_some_iff.mp hwritten
    cases heq
    rw [hpattern]
    exact isSome_compile_render hparse cache
  query := by
    rintro rfl members rfl cache
    obtain ⟨_, hpattern, heq⟩ := Option.map_eq_some_iff.mp hwritten
    cases heq
    rw [hpattern]
    exact isSome_compile_render hparse cache
  body := by
    rintro rfl cache
    obtain ⟨_, hpattern, heq⟩ := Option.map_eq_some_iff.mp hwritten
    cases heq
    rw [hpattern]
    exact BodyMatcher.compile_of_parse_ok (isBlankText_of_parse_ok hparse) hparse
  response := by
    rintro rfl
    have hresponse : rule.response = v.render := Json.string.inj (Option.some.inj hwritten)
    rw [← hresponse] at hparse
    exact ne_of_mem_problems ⟨isBlankText_of_parse_ok hparse, v, hparse⟩

/-- **Patterns and responses can be given as values or as texts.** Where a value that is neither null nor a string, and
whose numbers are integers, is given for one of them, the rule holds the compact text of the value, from which the value
is read back; and it is the same rule that is read if the text is given as a string, however it is written. -/
theorem ofText_inline (hfield : field ∈ Field.raw) (hnull : v ≠ .null) (hstring : ∀ s, v ≠ .string s)
    (hintegral : v.Integral) {left : Text} (hat : FieldAt field place (left ++ place))
    (hv : BeginsWith room v place right) (hright : EndsInteger right) {rule : Rule}
    (hread : ofText (.ofList (left ++ place)) = .ok rule) :
    Inline field v rule ∧
    ∀ more other, BeginsWith more (.string v.render) other right → ofText (.ofList (left ++ other)) = .ok rule := by
  obtain ⟨_, hleft, hinline⟩ := hat.inline (show 1 < Json.depthLimit by decide) hfield hnull hstring hv hright
  obtain rfl := List.append_cancel_right hleft
  unfold ofText at hread ⊢
  rw [String.toList_ofList] at hread
  obtain ⟨⟨read, rest⟩, htext, hfinish⟩ := exists_of_bind_eq_ok hread
  obtain ⟨rfl, -⟩ := Json.exists_gap_of_finish hfinish
  have halike := hinline htext
  have hparse : Json.parse v.render = .ok v := by
    obtain ⟨_, core, -, hspells⟩ := halike.fits
    exact (hspells.plain hintegral).succ.parse_render
  refine ⟨inline_of_written halike.written hparse, fun more other hplace => ?_⟩
  rw [String.toList_ofList, halike.reads hplace, ok_bind]
  exact hfinish

/-- A member that is no field stands in front of the pattern and is read over, though it is no text; the members of the
pattern are not in the order in which they are kept. -/
theorem ofText_inline_body :
    ∃ v rule, Inline .bodyPattern v rule ∧ rule.bodyPattern = some "\x7b\"a\":null,\"b\":[true]\x7d" ∧
      ofText "\x7b\"n\":\"\\ud800\",\"requestBodyPattern\":\x7b\"b\":[true],\"a\":null\x7d\x7d" = .ok rule ∧
      ofText "\x7b\"n\":\"\\ud800\",\"requestBodyPattern\":\"\x7b\\\"a\\\":null,\\\"b\\\":[true]\x7d\"\x7d" =
        .ok rule := by
  have hname : Json.nextName [] true ("\"n\":\"\\ud800\",\"requestBodyPattern\":".toList ++
      "\x7b\"b\":[true],\"a\":null\x7d\x7d".toList) =
      .ok (some "n", ":\"\\ud800\",\"requestBodyPattern\":\x7b\"b\":[true],\"a\":null\x7d\x7d".toList) := by cbv
  have hcolon : Json.colon ":\"\\ud800\",\"requestBodyPattern\":\x7b\"b\":[true],\"a\":null\x7d\x7d".toList =
      .ok "\"\\ud800\",\"requestBodyPattern\":\x7b\"b\":[true],\"a\":null\x7d\x7d".toList := by cbv
  have hskip : Json.skipValue
      (Json.fuelFor "\"\\ud800\",\"requestBodyPattern\":\x7b\"b\":[true],\"a\":null\x7d\x7d".toList)
      "\"\\ud800\",\"requestBodyPattern\":\x7b\"b\":[true],\"a\":null\x7d\x7d".toList =
      .ok ",\"requestBodyPattern\":\x7b\"b\":[true],\"a\":null\x7d\x7d".toList := by cbv
  have hname' : Json.nextName [] false ",\"requestBodyPattern\":\x7b\"b\":[true],\"a\":null\x7d\x7d".toList =
      .ok (some "requestBodyPattern", ":\x7b\"b\":[true],\"a\":null\x7d\x7d".toList) := by cbv
  have hcolon' : Json.colon ":\x7b\"b\":[true],\"a\":null\x7d\x7d".toList =
      .ok "\x7b\"b\":[true],\"a\":null\x7d\x7d".toList := by cbv
  have hat : FieldAt .bodyPattern "\x7b\"b\":[true],\"a\":null\x7d\x7d".toList
      ('\x7b' :: "\"n\":\"\\ud800\",\"requestBodyPattern\":".toList ++ "\x7b\"b\":[true],\"a\":null\x7d\x7d".toList) :=
    .member .none (.next hname hcolon hskip (.here hname' hcolon'))
  have hvalue : BeginsWith 8 (.object [("a", .null), ("b", .array [.bool true])])
      "\x7b\"b\":[true],\"a\":null\x7d\x7d".toList ['\x7d'] := @Json.beginsWith_of_readValue _ _ 20 9 _ (by cbv)
  have hintegral : (Json.object [("a", .null), ("b", .array [.bool true])]).Integral :=
    .object (List.forall_mem_cons.mpr ⟨.null, List.forall_mem_singleton.mpr
      (.array (List.forall_mem_singleton.mpr (.bool true)))⟩)
  have hread : ofText (.ofList ('\x7b' :: "\"n\":\"\\ud800\",\"requestBodyPattern\":".toList ++
      "\x7b\"b\":[true],\"a\":null\x7d\x7d".toList)) =
      .ok { bodyPattern := some "\x7b\"a\":null,\"b\":[true]\x7d" } := by cbv
  obtain ⟨hinline, hother⟩ := ofText_inline (by decide) (by simp) (by simp) hintegral hat hvalue
    (by rintro _ ⟨⟩; decide) hread
  have hrender : (Json.object [("a", .null), ("b", .array [.bool true])]).render =
      "\x7b\"a\":null,\"b\":[true]\x7d" := by cbv
  have hstring : BeginsWith 8 (.string "\x7b\"a\":null,\"b\":[true]\x7d")
      "\"\x7b\\\"a\\\":null,\\\"b\\\":[true]\x7d\"\x7d".toList ['\x7d'] :=
    @Json.beginsWith_of_readValue _ _ 20 9 _ (by cbv)
  have htext : String.ofList ('\x7b' :: "\"n\":\"\\ud800\",\"requestBodyPattern\":".toList ++
      "\"\x7b\\\"a\\\":null,\\\"b\\\":[true]\x7d\"\x7d".toList) =
      "\x7b\"n\":\"\\ud800\",\"requestBodyPattern\":\"\x7b\\\"a\\\":null,\\\"b\\\":[true]\x7d\"\x7d" := by cbv
  rw [hrender] at hother
  have hboth := hother 8 _ hstring
  rw [htext] at hboth
  exact ⟨_, _, hinline, rfl, by cbv, hboth⟩

end StubServer.Rule
