import StubServer.Proofs.Json.Source
import StubServer.Proofs.Timestamp.Text
import StubServer.Rule.Wire

/-!
# The fields of a rule

A field that is written is read back as it was (`readField_append`), and a rule is put together from its
fields, whichever of them are absent (`foldl_copy`). This takes numbers that fit into the types they have
on the way, and timestamps whose texts stand for them; such a rule is `Expressible`.
-/

namespace StubServer.Rule

open Json (Text Blank EndsInteger Source)

variable {rule source target : Rule} {field other : Field} {gap rest : Text} {v : Json}

/-- Number and priority fit into 64 and 32 bits, and the timestamps are read back. -/
structure Expressible (rule : Rule) : Prop where
  id : ∀ id ∈ rule.id, -9223372036854775808 ≤ id ∧ id ≤ 9223372036854775807
  priority : -2147483648 ≤ rule.priority ∧ rule.priority ≤ 2147483647
  createdAt : ∀ t ∈ rule.createdAt, t.ReadsBack
  updatedAt : ∀ t ∈ rule.updatedAt, t.ReadsBack

/-- Fields are told apart by their names. -/
theorem ofLabel?_label (field : Field) : Field.ofLabel? field.label = some field := by
  cases field <;> decide

/-! ### Copying fields -/

/-- A rule with one field of another. -/
def copy (source : Rule) (field : Field) (target : Rule) : Rule :=
  match field with
  | .id => { target with id := source.id }
  | .name => { target with name := source.name }
  | .description => { target with description := source.description }
  | .externalKey => { target with externalKey := source.externalKey }
  | .enabled => { target with enabled := source.enabled }
  | .priority => { target with priority := source.priority }
  | .method => { target with method := source.method }
  | .url => { target with url := source.url }
  | .urlMatch => { target with urlMatch := source.urlMatch }
  | .headerPattern => { target with headerPattern := source.headerPattern }
  | .queryPattern => { target with queryPattern := source.queryPattern }
  | .bodyPattern => { target with bodyPattern := source.bodyPattern }
  | .response => { target with response := source.response }
  | .createdAt => { target with createdAt := source.createdAt }
  | .updatedAt => { target with updatedAt := source.updatedAt }

/-- Copying one field leaves the others. -/
theorem fieldJson_copy_of_ne (source target : Rule) (hne : other ≠ field) :
    (source.copy field target).fieldJson other = target.fieldJson other := by
  cases field <;> cases other <;> first | rfl | exact absurd rfl hne

/-- Copying a field that is absent on both sides changes nothing. -/
theorem copy_of_fieldJson_eq_none (hsource : source.fieldJson field = none)
    (htarget : target.fieldJson field = none) : source.copy field target = target := by
  cases target
  cases field <;> simp_all [fieldJson, copy]

/-- All fields together are the rule. -/
theorem foldl_copy (rule target : Rule) :
    Field.all.foldl (fun target field => rule.copy field target) target = rule := by
  simp only [Field.all, List.foldl_cons, List.foldl_nil, copy]

/-! ### Reading fields -/

/-- A text is read back. -/
theorem string_append (hgap : Blank gap) (depth : Nat) (expected s : String) (rest : Text) :
    (Source.text [] depth).string expected (gap ++ (Json.stringText s ++ rest)) = .ok (s, rest) :=
  Json.stringText?_append hgap expected s rest

/-- What is written as a string, and may be missing, is read back if it is there. -/
theorem optional_string_append {α : Type} (hgap : Blank gap) (depth : Nat)
    {read : Text → Except Json.Error (α × Text)} {s : String} {value : α}
    (hread : read (gap ++ (Json.stringText s ++ rest)) = .ok (value, rest)) :
    (Source.text [] depth).optional read (gap ++ (Json.stringText s ++ rest)) = .ok (some value, rest) := by
  rw [Json.stringText_append] at hread ⊢
  exact Json.optional_append hgap (by decide) (by decide) depth hread

/-- A text that could have been any value is read back. -/
theorem readRawText_append (hgap : Blank gap) (depth : Nat) (s : String) (rest : Text) :
    readRawText (.text [] depth) (gap ++ (Json.stringText s ++ rest)) = .ok (some s, rest) := by
  have hany : (Source.text [] depth).any (gap ++ (Json.stringText s ++ rest)) = .ok (.string s, rest) :=
    Json.readValue_append hgap _ depth s rest
  unfold readRawText
  rw [hany]
  rfl

/-- A timestamp is read back. -/
theorem readTimestamp_append (hgap : Blank gap) (depth : Nat) {t : Timestamp} (h : t.ReadsBack)
    (rest : Text) :
    readTimestamp (.text [] depth) (gap ++ (Json.stringText t.text ++ rest)) = .ok (t, rest) := by
  have hparse : Timestamp.parse t.text = .ok t := h
  unfold readTimestamp
  rw [string_append hgap]
  simp [bind, Except.bind, hparse, pure, Except.pure]

/-- The names of all interpretations of the URL pattern are read back. -/
theorem ofName?_name (m : UrlMatch) :
    m.name ∈ UrlMatch.all.map UrlMatch.name ∧ UrlMatch.ofName? m.name = some m := by
  cases m <;> decide

/-- How the URL pattern is interpreted is read back. -/
theorem readUrlMatch_append (hgap : Blank gap) (depth : Nat) (m : UrlMatch) (rest : Text) :
    readUrlMatch (.text [] depth) (gap ++ (Json.stringText m.name ++ rest)) = .ok (m, rest) := by
  obtain ⟨hmem, hname⟩ := ofName?_name m
  have hvariant : (Source.text [] depth).variant (UrlMatch.all.map UrlMatch.name)
      (gap ++ (Json.stringText m.name ++ rest)) = .ok (m.name, rest) :=
    Json.variantText_append hgap depth hmem rest
  unfold readUrlMatch
  rw [hvariant]
  simp [bind, Except.bind, hname, pure, Except.pure]

/-- The number of a rule is read back. -/
theorem optional_int_append (hgap : Blank gap) (depth : Nat) {low high id : Int} (expected : String)
    (hlow : low ≤ id) (hhigh : id ≤ high) (hrange : Json.InRange id) (hrest : EndsInteger rest) :
    (Source.text [] depth).optional ((Source.text [] depth).int low high expected)
      (gap ++ (intText id ++ rest)) = .ok (some id, rest) := by
  have hint := Json.int_append hgap depth expected hlow hhigh hrange hrest
  obtain ⟨first, others, htext, hfirst⟩ := Json.exists_intText id
  rw [htext, List.cons_append] at hint ⊢
  have hnull : first ≠ 'n' := by
    rcases hfirst with rfl | hdigit
    · decide
    · exact Json.ne_of_isDigit hdigit (by decide)
  exact Json.optional_append hgap (Json.isSpace_eq_false hfirst) hnull depth hint

/-- The text of an integer that fits. -/
theorem compact_ofInt {i : Int} (hrange : Json.InRange i) : Json.compact (.ofInt i) = intText i := by
  simp [Json.ofInt, hrange, Json.compact, Json.Number.text]

/-- **A field that is written** is read back, into whatever rule. -/
theorem readField_append (h : rule.Expressible) (hv : rule.fieldJson field = some v) (depth : Nat)
    (hgap : Blank gap) (hrest : EndsInteger rest) (target : Rule) :
    readField (.text [] depth) field target (gap ++ (Json.compact v ++ rest)) =
      .ok (rule.copy field target, rest) := by
  have hstring := fun s => string_append hgap depth "a string" s rest
  have hraw := fun s => readRawText_append hgap depth s rest
  cases field with
  | name | method | url =>
      obtain rfl := Option.some.inj hv
      simp only [Json.compact, readField, hstring]
      rfl
  | description | externalKey =>
      obtain ⟨s, hs, rfl⟩ := Option.map_eq_some_iff.mp hv
      simp only [Json.compact, readField, optional_string_append hgap depth (hstring s), copy, hs]
      rfl
  | headerPattern | queryPattern | bodyPattern =>
      obtain ⟨s, hs, rfl⟩ := Option.map_eq_some_iff.mp hv
      simp only [Json.compact, readField, hraw, copy, hs]
      rfl
  | response =>
      obtain rfl := Option.some.inj hv
      simp only [Json.compact, readField, hraw]
      rfl
  | enabled =>
      obtain rfl := Option.some.inj hv
      have hbool : (Source.text [] depth).bool (gap ++ (Json.boolText rule.enabled ++ rest)) =
          .ok (rule.enabled, rest) := Json.boolText?_append hgap rule.enabled rest
      simp only [Json.compact, readField, hbool]
      rfl
  | id =>
      obtain ⟨id, hid, rfl⟩ := Option.map_eq_some_iff.mp hv
      obtain ⟨hlow, hhigh⟩ := h.id id hid
      have hrange : Json.InRange id := ⟨hlow, by omega⟩
      rw [compact_ofInt hrange]
      simp only [readField, optional_int_append hgap depth "i64" hlow hhigh hrange hrest, copy, hid]
      rfl
  | priority =>
      obtain rfl := Option.some.inj hv
      obtain ⟨hlow, hhigh⟩ := h.priority
      have hrange : Json.InRange rule.priority := ⟨by omega, by omega⟩
      rw [compact_ofInt hrange]
      simp only [readField, Json.int_append hgap depth "i32" hlow hhigh hrange hrest]
      rfl
  | urlMatch =>
      obtain rfl := Option.some.inj hv
      simp only [Json.compact, readField, readUrlMatch_append hgap]
      rfl
  | createdAt =>
      obtain ⟨t, ht, rfl⟩ := Option.map_eq_some_iff.mp hv
      have htime := readTimestamp_append hgap depth (h.createdAt t ht) rest
      simp only [Json.compact, readField, optional_string_append hgap depth htime, copy, ht]
      rfl
  | updatedAt =>
      obtain ⟨t, ht, rfl⟩ := Option.map_eq_some_iff.mp hv
      have htime := readTimestamp_append hgap depth (h.updatedAt t ht) rest
      simp only [Json.compact, readField, optional_string_append hgap depth htime, copy, ht]
      rfl

end StubServer.Rule
