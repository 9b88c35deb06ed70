import StubServer.Proofs.Json.Reader
import StubServer.Proofs.Json.Skipping.Value
import StubServer.Proofs.Rule.Field

/-!
# Rules are read member by member

A rule is read from the members of an object, each of which is a field or is read over, or from the items of an array,
each for the field in its position. Either way one step takes the text of one value, up to its end, and takes it alike
with something else behind it; and once a field was read, the steps that follow leave it as it is.

## Main statements

* `readsValues_readField`: a field is read as one value.
* `membersOfText_succ_eq_ok_iff`, `fieldsOfText_cons_eq_ok_iff`: one step of either kind.
* `fieldJson_membersOfText`, `fieldJson_fieldsOfText`: a field that was read is left as it is.
* `membersOfText_of_length_lt`: fuel for the length of the text is enough.
-/

namespace StubServer.Rule

open Json (Breaks Text Source BeginsWith EndsInteger ReadsValues)

variable {depth fuel : Nat} {field : Field} {rule : Rule} {rest : Text}

/-! ### Fields -/

/-- A text, or a value that stands for one, is read as one value. -/
theorem readsValues_readRawText (hdepth : 0 < depth) : ReadsValues (readRawText (.text [] depth)) := by
  refine (Json.readsValues_readValue hdepth).bind fun {v rest s after} h => ?_
  cases v with
  | null =>
      cases h
      exact ⟨rfl, fun _ => rfl⟩
  | bool | number | string | array | object =>
      cases h
      exact ⟨rfl, fun _ => rfl⟩

/-- A timestamp is read as one value. -/
theorem readsValues_readTimestamp : ReadsValues (readTimestamp (.text [] depth)) := by
  refine (Json.readsValues_stringText? _).bind fun {s rest t after} h => ?_
  dsimp only at h ⊢
  split at h
  · cases h
    exact ⟨rfl, fun _ => rfl⟩
  · cases h

/-- How the URL pattern is interpreted is read as one value. -/
theorem readsValues_readUrlMatch : ReadsValues (readUrlMatch (.text [] depth)) := by
  refine (Json.readsValues_variantText _).bind fun {name rest m after} h => ?_
  cases h
  exact ⟨rfl, fun _ => rfl⟩

/-- **A field is read as one value.** -/
theorem readsValues_readField (hdepth : 0 < depth) (field : Field) (rule : Rule) :
    ReadsValues (readField (.text [] depth) field rule) := by
  have hstring : ReadsValues ((Source.text [] depth).string "a string") := Json.readsValues_stringText? _
  cases field with
  | name | method | url =>
      refine hstring.bind fun {v rest other after} h => ?_
      cases h
      exact ⟨rfl, fun _ => rfl⟩
  | description | externalKey =>
      refine hstring.optional.bind fun {v rest other after} h => ?_
      cases h
      exact ⟨rfl, fun _ => rfl⟩
  | headerPattern | queryPattern | bodyPattern | response =>
      refine (readsValues_readRawText hdepth).bind fun {v rest other after} h => ?_
      cases h
      exact ⟨rfl, fun _ => rfl⟩
  | id =>
      refine (Json.readsValues_int _ _ _).optional.bind fun {v rest other after} h => ?_
      cases h
      exact ⟨rfl, fun _ => rfl⟩
  | enabled =>
      refine ReadsValues.bind Json.readsValues_boolText? fun {v rest other after} h => ?_
      cases h
      exact ⟨rfl, fun _ => rfl⟩
  | priority =>
      refine (Json.readsValues_int _ _ _).bind fun {v rest other after} h => ?_
      cases h
      exact ⟨rfl, fun _ => rfl⟩
  | urlMatch =>
      refine readsValues_readUrlMatch.bind fun {v rest other after} h => ?_
      cases h
      exact ⟨rfl, fun _ => rfl⟩
  | createdAt | updatedAt =>
      refine readsValues_readTimestamp.optional.bind fun {v rest other after} h => ?_
      cases h
      exact ⟨rfl, fun _ => rfl⟩

/-- Reading another field leaves what is written for a field. -/
theorem fieldJson_readField_of_ne {σ : Type} {source : Source σ} {other : Field} {next : Rule} {place rest : σ}
    (h : readField source other rule place = .ok (next, rest)) (hne : field ≠ other) :
    next.fieldJson field = rule.fieldJson field := by
  cases other
  all_goals
    obtain ⟨⟨_, _⟩, -, h⟩ := exists_of_bind_eq_ok h
    cases h
    cases field <;> first | rfl | exact absurd rfl hne

/-! ### The members of an object -/

variable {breaks : Breaks} {text after value : Text} {first : Bool} {label : String} {seen : List Field} {out : Rule}

/-- What a member does to a rule: a field that was not seen is read, anything else is read over. -/
def readMember (breaks : Breaks) (depth : Nat) (label : String) (seen : List Field) (rule : Rule) (value : Text) :
    Except Json.Error ((List Field × Rule) × Text) :=
  match Field.ofLabel? label with
  | none => (Json.skipValue (Json.fuelFor value) value).map fun rest => ((seen, rule), rest)
  | some field =>
    if seen.contains field then .error (.mismatch (.duplicateField label))
    else (readField (.text breaks depth) field rule value).map fun r => ((field :: seen, r.1), r.2)

/-- Where a member is read, it is read over or is a field that was not seen. -/
theorem readMember_eq_ok_iff {state : List Field × Rule} :
    readMember breaks depth label seen rule value = .ok (state, after) ↔
      (Field.ofLabel? label = none ∧ Json.skipValue (Json.fuelFor value) value = .ok after ∧ state = (seen, rule)) ∨
      ∃ field other, Field.ofLabel? label = some field ∧ field ∉ seen ∧
        readField (.text breaks depth) field rule value = .ok (other, after) ∧ state = (field :: seen, other) := by
  unfold readMember
  cases Field.ofLabel? label with
  | none =>
      refine ⟨fun h => ?_, ?_⟩
      · obtain ⟨_, hskip, heq⟩ := exists_of_map_eq_ok h
        cases heq
        exact .inl ⟨rfl, hskip, rfl⟩
      · rintro (⟨-, hskip, rfl⟩ | ⟨_, _, hnone, -⟩)
        · dsimp only
          rw [hskip]
          rfl
        · cases hnone
  | some field =>
      dsimp only
      refine ⟨fun h => ?_, ?_⟩
      · split at h
        · cases h
        rename_i hseen
        obtain ⟨⟨other, _⟩, hread, heq⟩ := exists_of_map_eq_ok h
        cases heq
        exact .inr ⟨field, other, rfl, by simpa using hseen, hread, rfl⟩
      · rintro (⟨hnone, -⟩ | ⟨_, other, ⟨⟩, hseen, hread, rfl⟩)
        · cases hnone
        · rw [if_neg (by simpa using hseen), hread]
          rfl

/-- **The members of a rule are read** one after the other. -/
theorem membersOfText_succ_eq_ok_iff :
    membersOfText breaks depth (fuel + 1) first seen rule text = .ok (out, rest) ↔
      (Json.nextName breaks first text = .ok (none, rest) ∧ rule = out) ∨
      ∃ label behind value state after, Json.nextName breaks first text = .ok (some label, behind) ∧
        Json.colon behind = .ok value ∧ readMember breaks depth label seen rule value = .ok (state, after) ∧
        membersOfText breaks depth fuel false state.1 state.2 after = .ok (out, rest) := by
  constructor
  · intro h
    obtain ⟨⟨name, behind⟩, hname, h⟩ := exists_of_bind_eq_ok h
    cases name with
    | none =>
        cases h
        exact .inl ⟨hname, rfl⟩
    | some label =>
        refine .inr ⟨label, behind, ?_⟩
        dsimp only at h
        split at h
        · rename_i hlabel
          obtain ⟨value, hcolon, h⟩ := exists_of_bind_eq_ok h
          obtain ⟨after, hskip, hothers⟩ := exists_of_bind_eq_ok h
          exact ⟨value, (seen, rule), after, hname, hcolon, readMember_eq_ok_iff.mpr (.inl ⟨hlabel, hskip, rfl⟩),
            hothers⟩
        · rename_i field hlabel
          split at h
          · cases h
          rename_i hseen
          obtain ⟨value, hcolon, h⟩ := exists_of_bind_eq_ok h
          obtain ⟨⟨other, after⟩, hread, hothers⟩ := exists_of_bind_eq_ok h
          exact ⟨value, (field :: seen, other), after, hname, hcolon,
            readMember_eq_ok_iff.mpr (.inr ⟨field, other, hlabel, by simpa using hseen, hread, rfl⟩), hothers⟩
  · rintro (⟨hname, rfl⟩ | ⟨label, behind, value, state, after, hname, hcolon, hmember, hothers⟩)
    · rw [membersOfText, hname, ok_bind]
      rfl
    rw [membersOfText, hname, ok_bind]
    obtain ⟨hlabel, hskip, rfl⟩ | ⟨field, other, hlabel, hseen, hread, rfl⟩ := readMember_eq_ok_iff.mp hmember
    · simp only [hlabel]
      rw [hcolon, ok_bind, hskip, ok_bind]
      exact hothers
    · simp only [hlabel]
      rw [if_neg (by simpa using hseen), hcolon, ok_bind, hread, ok_bind]
      exact hothers

/-- **A member is read as one value**: as much of the text is taken as is read over, and it is taken alike with
something else behind it. -/
theorem exists_taken_of_readMember (hdepth : 0 < depth) {state : List Field × Rule}
    (h : readMember [] depth label seen rule value = .ok (state, after)) :
    (EndsInteger after → Json.skipValue (Json.fuelFor value) value = .ok after) ∧
    ∃ taken, value = taken ++ after ∧ ∀ other, EndsInteger other →
      readMember [] depth label seen rule (taken ++ other) = .ok (state, other) := by
  obtain ⟨hlabel, hskip, rfl⟩ | ⟨field, other, hlabel, hseen, hread, rfl⟩ := readMember_eq_ok_iff.mp h
  · obtain ⟨taken, -, rfl, htaken⟩ := Json.skipsAlike_of_skipValue hskip
    refine ⟨fun _ => hskip, taken, rfl, fun other hother => readMember_eq_ok_iff.mpr (.inl ⟨hlabel, ?_, rfl⟩)⟩
    exact htaken (by simp only [Json.fuelFor, List.length_append]; omega) hother
  · obtain ⟨gap, core, room, v, rfl, hspells, hreads⟩ := readsValues_readField hdepth field rule hread
    refine ⟨fun hafter => ?_, gap.text ++ core, by simp, fun text htext => ?_⟩
    · have hbegins : BeginsWith room v (gap.text ++ (core ++ after)) after := ⟨gap, core, rfl, hspells⟩
      exact hbegins.skipValue_eq hafter
    · rw [List.append_assoc]
      exact readMember_eq_ok_iff.mpr (.inr ⟨field, other, hlabel, hseen, hreads htext, rfl⟩)

/-- What follows the members that were read does not go on with a number. -/
theorem endsInteger_of_membersOfText (h : membersOfText [] depth fuel false seen rule text = .ok (out, rest)) :
    EndsInteger text := by
  cases fuel with
  | zero => cases h
  | succ fuel =>
      obtain ⟨⟨name, _⟩, hname, -⟩ := exists_of_bind_eq_ok h
      exact Json.endsInteger_of_nextName hname

/-- Where a name is found, its member is read, and then the others. -/
theorem exists_readMember_of_nextName {behind : Text} (hname : Json.nextName [] first text = .ok (some label, behind))
    (hcolon : Json.colon behind = .ok value) (h : membersOfText [] depth fuel first seen rule text = .ok (out, rest)) :
    ∃ less state after, readMember [] depth label seen rule value = .ok (state, after) ∧ EndsInteger after ∧
      membersOfText [] depth less false state.1 state.2 after = .ok (out, rest) := by
  cases fuel with
  | zero => cases h
  | succ less =>
      obtain ⟨hnone, -⟩ | ⟨_, _, _, state, after, hname', hcolon', hmember, hothers⟩ :=
        membersOfText_succ_eq_ok_iff.mp h
      · cases hnone.symm.trans hname
      cases hname.symm.trans hname'
      cases hcolon.symm.trans hcolon'
      exact ⟨less, state, after, hmember, endsInteger_of_membersOfText hothers, hothers⟩

/-- Behind a name and its colon there is less of the text. -/
theorem length_of_nextName (hname : Json.nextName [] first text = .ok (some label, rest))
    (hcolon : Json.colon rest = .ok value) : value.length < text.length := by
  obtain ⟨behind, before, nameText, -, rfl⟩ := Json.exists_spelled_of_nextName hname
  obtain ⟨gap, rfl⟩ := Json.exists_gap_of_colon hcolon
  simp only [List.length_append, List.length_cons]
  omega

/-- More than the length of the text is fuel enough. -/
theorem membersOfText_of_length_lt (hdepth : 0 < depth) {enough : Nat}
    (h : membersOfText [] depth fuel first seen rule text = .ok (out, rest)) (henough : text.length < enough) :
    membersOfText [] depth enough first seen rule text = .ok (out, rest) := by
  induction fuel generalizing enough first seen rule text with
  | zero => cases h
  | succ fuel ih =>
      obtain ⟨enough, rfl⟩ : ∃ n, enough = n + 1 := ⟨enough - 1, by omega⟩
      rw [membersOfText_succ_eq_ok_iff] at h ⊢
      refine h.imp_right ?_
      rintro ⟨label, behind, value, state, after, hname, hcolon, hmember, hothers⟩
      obtain ⟨-, taken, rfl, -⟩ := exists_taken_of_readMember hdepth hmember
      have hlength := length_of_nextName hname hcolon
      rw [List.length_append] at hlength
      exact ⟨label, behind, _, state, after, hname, hcolon, hmember, ih hothers (by omega)⟩

/-- A field that was seen keeps what is written for it. -/
theorem fieldJson_membersOfText (hseen : field ∈ seen)
    (h : membersOfText [] depth fuel first seen rule text = .ok (out, rest)) :
    out.fieldJson field = rule.fieldJson field := by
  induction fuel generalizing first seen rule text with
  | zero => cases h
  | succ fuel ih =>
      rw [membersOfText_succ_eq_ok_iff] at h
      obtain ⟨-, rfl⟩ | ⟨label, behind, value, state, after, -, -, hmember, hothers⟩ := h
      · rfl
      obtain ⟨-, -, rfl⟩ | ⟨other, next, -, hother, hread, rfl⟩ := readMember_eq_ok_iff.mp hmember
      · exact ih hseen hothers
      · have hne : field ≠ other := by
          rintro rfl
          exact hother hseen
        rw [ih (List.mem_cons_of_mem _ hseen) hothers, fieldJson_readField_of_ne hread hne]

/-! ### The items of an array -/

/-- **The items of a rule are read** one after the other. -/
theorem fieldsOfText_cons_eq_ok_iff {fields : List Field} :
    fieldsOfText breaks depth first (field :: fields) rule text = .ok (out, rest) ↔
      (Json.nextItem first text = .ok (false, rest) ∧ rule = out) ∨
      ∃ value next after, Json.nextItem first text = .ok (true, value) ∧
        readField (.text breaks depth) field rule value = .ok (next, after) ∧
        fieldsOfText breaks depth false fields next after = .ok (out, rest) := by
  constructor
  · intro h
    obtain ⟨⟨more, value⟩, hitem, h⟩ := exists_of_bind_eq_ok h
    cases more with
    | false =>
        cases h
        exact .inl ⟨hitem, rfl⟩
    | true =>
        obtain ⟨⟨next, after⟩, hread, h⟩ := exists_of_bind_eq_ok h
        exact .inr ⟨value, next, after, hitem, hread, h⟩
  · rintro (⟨hitem, rfl⟩ | ⟨value, next, after, hitem, hread, hothers⟩)
    · rw [fieldsOfText, hitem, ok_bind]
      rfl
    · rw [fieldsOfText, hitem, ok_bind]
      dsimp only
      rw [hread, ok_bind]
      exact hothers

/-- What follows the items that were read does not go on with a number. -/
theorem endsInteger_of_fieldsOfText {fields : List Field}
    (h : fieldsOfText [] depth false fields rule text = .ok (out, rest)) : EndsInteger text := by
  cases fields with
  | nil =>
      obtain ⟨_, hend, -⟩ := exists_of_bind_eq_ok h
      unfold listEnd at hend
      split at hend
      · cases hend
      rename_i c more hskip
      obtain ⟨gap, rfl⟩ := Json.exists_gap_of_skipSpace hskip
      refine .append gap.blank ?_
      rintro _ ⟨⟩
      split at hend
      · rename_i hc
        rw [hc]
        decide
      split at hend
      · rename_i hc
        rw [hc]
        decide
      · cases hend
  | cons field fields =>
      obtain ⟨⟨more, _⟩, hitem, -⟩ := exists_of_bind_eq_ok h
      exact Json.endsInteger_of_nextItem hitem

/-- Where an item is found, it is read for the next field, and then the others. -/
theorem exists_readField_of_nextItem {fields : List Field} (hitem : Json.nextItem first text = .ok (true, value))
    (h : fieldsOfText [] depth first (field :: fields) rule text = .ok (out, rest)) :
    ∃ next after, readField (.text [] depth) field rule value = .ok (next, after) ∧ EndsInteger after ∧
      fieldsOfText [] depth false fields next after = .ok (out, rest) := by
  obtain ⟨hnone, -⟩ | ⟨_, next, after, hitem', hread, hothers⟩ := fieldsOfText_cons_eq_ok_iff.mp h
  · cases hnone.symm.trans hitem
  cases hitem.symm.trans hitem'
  exact ⟨next, after, hread, endsInteger_of_fieldsOfText hothers, hothers⟩

/-- A field that no item is left for keeps what is written for it. -/
theorem fieldJson_fieldsOfText {fields : List Field} (hfield : field ∉ fields)
    (h : fieldsOfText [] depth first fields rule text = .ok (out, rest)) :
    out.fieldJson field = rule.fieldJson field := by
  induction fields generalizing first rule text with
  | nil =>
      obtain ⟨_, -, h⟩ := exists_of_bind_eq_ok h
      cases h
      rfl
  | cons other fields ih =>
      rw [fieldsOfText_cons_eq_ok_iff] at h
      obtain ⟨-, rfl⟩ | ⟨value, next, after, -, hread, hothers⟩ := h
      · rfl
      obtain ⟨hne, hfields⟩ := not_or.mp (mt List.mem_cons.mpr hfield)
      rw [ih hfields hothers, fieldJson_readField_of_ne hread hne]

end StubServer.Rule
