import Mathlib.Tactic.Set
import StubServer.Proofs.Json.Layout
import StubServer.Proofs.Rule.Field

/-!
# Rules that are written are read back

The JSON text of a rule, compact or pretty, is read as the same rule, and the text of a list of rules as
the same list. Only the fields that are there are written, and each is read into what was read so far, so
the proof goes through the list of all fields: a field that is absent leaves the rule without it
(`membersOfText_listed`).

## Main statements

* `readText_compact`, `readText_pretty`: the texts of a rule, with anything behind them.
* `ofText_render`, `ofText_renderPretty`: the texts of a rule.
* `listOfText_render`, `listOfText_renderPretty`: the texts of a list of rules.
-/

namespace StubServer.Rule

open Json (Text Blank EndsInteger listed memberText)

variable {rule : Rule} {gap between close rest : Text} {text : Json → Text}

/-! ### One rule -/

/-- What is written for a field, with its name. -/
def member? (rule : Rule) (field : Field) : Option (String × Json) :=
  (rule.fieldJson field).map fun v => (field.label, v)

/-- A member that was not seen yet is read into the rule read so far. -/
theorem membersOfText_word {field : Field} {v : Json} {seen : List Field} {more : Text}
    (h : rule.Expressible) (hv : rule.fieldJson field = some v) (hgap : Blank gap)
    (hbetween : Blank between) (hseen : field ∉ seen) (hmore : EndsInteger more) (depth fuel : Nat)
    (first : Bool) (target : Rule) :
    membersOfText [] depth (fuel + 1) first seen target
        ((if first then [] else [',']) ++ (gap ++
          (Json.stringText field.label ++ ':' :: (between ++ (Json.compact v ++ more))))) =
      membersOfText [] depth fuel false (field :: seen) (rule.copy field target) more := by
  have hname := Json.nextName_word first hgap field.label
    (':' :: (between ++ (Json.compact v ++ more)))
  have hread := readField_append h hv depth hbetween hmore target
  rw [membersOfText, hname]
  simp [bind, Except.bind, ofLabel?_label, hseen, Json.colon_cons, hread]

/-- **The members of a rule** are read back, each into the rule read so far. -/
theorem membersOfText_listed (h : rule.Expressible)
    (htext : ∀ field v, rule.fieldJson field = some v → text v = Json.compact v)
    (hgap : Blank gap) (hbetween : Blank between) (hclose : Blank close) (depth : Nat) (rest : Text)
    (fields : List Field) (hnodup : fields.Nodup) (fuel : Nat) (first : Bool) (seen : List Field)
    (target : Rule) (hfuel : (fields.filterMap rule.member?).length < fuel)
    (hseen : ∀ field ∈ fields, field ∉ seen)
    (habsent : ∀ field ∈ fields, rule.fieldJson field = none → target.fieldJson field = none) :
    membersOfText [] depth fuel first seen target
        (listed gap close '\x7d' (memberText between text) first (fields.filterMap rule.member?) ++ rest) =
      .ok (fields.foldl (fun target field => rule.copy field target) target, rest) := by
  induction fields generalizing fuel first seen target with
  | nil =>
      obtain ⟨fuel, rfl⟩ : ∃ n, fuel = n + 1 := ⟨fuel - 1, by omega⟩
      have hend := Json.nextName_close first hclose rest
      simp only [List.filterMap_nil, listed, List.append_assoc, List.singleton_append, membersOfText,
        hend]
      rfl
  | cons field fields ih =>
      obtain ⟨hfield, hnodup⟩ := List.nodup_cons.mp hnodup
      have hseenRest : ∀ other ∈ fields, other ∉ seen := fun other hother =>
        hseen other (List.mem_cons_of_mem _ hother)
      have habsentRest : ∀ other ∈ fields, rule.fieldJson other = none → target.fieldJson other = none :=
        fun other hother => habsent other (List.mem_cons_of_mem _ hother)
      cases hv : rule.fieldJson field with
      | none =>
          have hmember : rule.member? field = none := by simp [member?, hv]
          have hcopy := copy_of_fieldJson_eq_none hv (habsent field List.mem_cons_self hv)
          rw [List.filterMap_cons_none hmember] at hfuel ⊢
          rw [List.foldl_cons, hcopy]
          exact ih hnodup fuel first seen target hfuel hseenRest habsentRest
      | some v =>
          have hmember : rule.member? field = some (field.label, v) := by simp [member?, hv]
          rw [List.filterMap_cons_some hmember] at hfuel ⊢
          obtain ⟨fuel, rfl⟩ : ∃ n, fuel = n + 1 := ⟨fuel - 1, by omega⟩
          have hmore : EndsInteger (listed gap close '\x7d' (memberText between text) false
              (fields.filterMap rule.member?) ++ rest) :=
            Json.endsInteger_listed hclose (by decide) _ rest
          have hword := membersOfText_word h hv hgap hbetween (hseen field List.mem_cons_self) hmore
            depth fuel first target
          simp only [listed, memberText, htext field v hv, List.append_assoc, List.cons_append] at hword ⊢
          rw [hword, List.foldl_cons]
          refine ih hnodup fuel false (field :: seen) (rule.copy field target) ?_ ?_ ?_
          · simpa using hfuel
          · intro other hother hmem
            rcases List.mem_cons.mp hmem with rfl | hmem
            · exact hfield hother
            · exact hseenRest other hother hmem
          · intro other hother hnone
            have hne : other ≠ field := fun heq => hfield (heq ▸ hother)
            rw [fieldJson_copy_of_ne rule target hne]
            exact habsentRest other hother hnone

/-- **A rule laid out as an object** is read back. -/
theorem readText_listed (h : rule.Expressible)
    (htext : ∀ field v, rule.fieldJson field = some v → text v = Json.compact v)
    (hgap : Blank gap) (hbetween : Blank between) (hclose : Blank close) {depth : Nat} (hdepth : 1 < depth)
    (rest : Text) :
    readText [] depth ('\x7b' ::
        (listed gap close '\x7d' (memberText between text) true (Field.all.filterMap rule.member?) ++
          rest)) = .ok (rule, rest) := by
  set inside := listed gap close '\x7d' (memberText between text) true (Field.all.filterMap rule.member?)
    with hinside
  have hlength : (Field.all.filterMap rule.member?).length ≤ inside.length :=
    Json.length_le_listed gap close '\x7d' (memberText between text) _
  -- A rule that nothing was read into has no optional fields.
  have habsent : ∀ field ∈ Field.all, rule.fieldJson field = none →
      ({} : Rule).fieldJson field = none := by
    intro field _ hnone
    cases field <;> simp_all [fieldJson]
  have hmembers := membersOfText_listed h htext hgap hbetween hclose (depth - 1) rest Field.all
    (by decide) ((inside ++ rest).length + 1) true [] {} (by rw [List.length_append]; omega) (by simp)
    habsent
  rw [foldl_copy] at hmembers
  have hbrace : Json.skipSpace ('\x7b' :: (inside ++ rest)) = '\x7b' :: (inside ++ rest) := rfl
  rw [readText, Json.atNext, hbrace]
  dsimp only
  rw [if_neg (by decide), if_pos rfl, if_neg (Nat.not_le.mpr hdepth)]
  exact hmembers

/-- The fields are written alike in both texts. -/
theorem pretty_of_fieldJson {field : Field} {v : Json} (level : Nat)
    (hv : rule.fieldJson field = some v) : Json.pretty level v = Json.compact v := by
  have hint (i : Int) : Json.pretty level (.ofInt i) = Json.compact (.ofInt i) := by
    unfold Json.ofInt
    split <;> rw [Json.pretty, Json.compact]
  cases field with
  | name | method | url | urlMatch | response | enabled =>
      obtain rfl := Option.some.inj hv
      rw [Json.pretty, Json.compact]
  | description | externalKey | headerPattern | queryPattern | bodyPattern | createdAt | updatedAt =>
      obtain ⟨_, -, rfl⟩ := Option.map_eq_some_iff.mp hv
      rw [Json.pretty, Json.compact]
  | id =>
      obtain ⟨id, -, rfl⟩ := Option.map_eq_some_iff.mp hv
      exact hint id
  | priority =>
      obtain rfl := Option.some.inj hv
      exact hint rule.priority

/-- A rule has a name, at least. -/
theorem members_ne_nil (rule : Rule) : Field.all.filterMap rule.member? ≠ [] := by
  have hname : ("name", Json.string rule.name) ∈ Field.all.filterMap rule.member? :=
    List.mem_filterMap.mpr ⟨.name, by decide, rfl⟩
  exact List.ne_nil_of_mem hname

/-- The compact text of a rule is read back. -/
theorem readText_compact (h : rule.Expressible) {depth : Nat} (hdepth : 1 < depth) (rest : Text) :
    readText [] depth (Json.compact rule.toJson ++ rest) = .ok (rule, rest) := by
  have hblank : Blank [] := by simp [Blank]
  have hread := readText_listed h (fun _ _ _ => rfl) hblank hblank hblank hdepth rest
  rwa [← List.cons_append, ← Json.compact_object] at hread

/-- The pretty text of a rule is read back. -/
theorem readText_pretty (h : rule.Expressible) {depth : Nat} (hdepth : 1 < depth) (level : Nat)
    (rest : Text) : readText [] depth (Json.pretty level rule.toJson ++ rest) = .ok (rule, rest) := by
  have hread := readText_listed h (fun field v hv => pretty_of_fieldJson (level + 1) hv)
    (Json.blank_newline (level + 1)) (show Blank [' '] by simp [Blank, Json.isSpace])
    (Json.blank_newline level) hdepth rest
  rwa [← List.cons_append, ← Json.pretty_object level rule.members_ne_nil] at hread

/-- The compact text of a rule is the rule. -/
theorem ofText_render (h : rule.Expressible) : ofText rule.toJson.render = .ok rule := by
  have hread := readText_compact h (show 1 < Json.depthLimit by decide) []
  rw [List.append_nil] at hread
  rw [ofText, Json.render, String.toList_ofList, hread]
  rfl

/-- The pretty text of a rule is the rule. -/
theorem ofText_renderPretty (h : rule.Expressible) : ofText rule.toJson.renderPretty = .ok rule := by
  have hread := readText_pretty h (show 1 < Json.depthLimit by decide) 0 []
  rw [List.append_nil] at hread
  rw [ofText, Json.renderPretty, String.toList_ofList, hread]
  rfl

/-! ### Lists of rules -/

variable {rules : List Rule} {word : Rule → Text}

/-- A text of a rule that is read as this rule, whatever stands behind it. -/
structure Reads (depth : Nat) (word : Rule → Text) (rule : Rule) : Prop where
  brace : ∃ others, word rule = '\x7b' :: others
  read : ∀ rest, readText [] depth (word rule ++ rest) = .ok (rule, rest)

/-- **The items of a list of rules** are read back. -/
theorem itemsOfText_listed {depth : Nat} (hgap : Blank gap) (hclose : Blank close) (rest : Text)
    (hwords : ∀ rule ∈ rules, Reads depth word rule) (fuel : Nat) (hfuel : rules.length < fuel)
    (first : Bool) :
    itemsOfText [] depth fuel first (listed gap close ']' word first rules ++ rest) = .ok (rules, rest) := by
  induction rules generalizing fuel first with
  | nil =>
      obtain ⟨fuel, rfl⟩ : ∃ n, fuel = n + 1 := ⟨fuel - 1, by omega⟩
      have hend := Json.nextItem_close first hclose rest
      simp only [listed, List.append_assoc, List.singleton_append, itemsOfText, hend]
      rfl
  | cons rule rules ih =>
      obtain ⟨fuel, rfl⟩ : ∃ n, fuel = n + 1 := ⟨fuel - 1, by omega⟩
      obtain ⟨⟨others, hothers⟩, hread⟩ := hwords rule List.mem_cons_self
      have hread := hread (listed gap close ']' word false rules ++ rest)
      have hnext := Json.nextItem_word first hgap (c := '\x7b') (by decide) (by decide)
        (others ++ (listed gap close ']' word false rules ++ rest))
      have hrest := ih (fun other hother => hwords other (List.mem_cons_of_mem _ hother)) fuel
        (by simpa using hfuel) false
      rw [hothers] at hread
      simp only [listed, hothers, List.append_assoc, List.cons_append] at hread hnext ⊢
      rw [itemsOfText, hnext]
      simp [bind, Except.bind, hread, hrest, pure, Except.pure]

/-- A list of rules is read back from its layout. -/
theorem listOfText_listed (hgap : Blank gap) (hclose : Blank close)
    (hwords : ∀ rule ∈ rules, Reads (Json.depthLimit - 1) word rule) :
    listOfText (.ofList ('[' :: listed gap close ']' word true rules)) = .ok rules := by
  have hlength := Json.length_le_listed gap close ']' word rules
  have hitems := itemsOfText_listed hgap hclose [] hwords
    ((listed gap close ']' word true rules).length + 1) (by omega) true
  rw [List.append_nil] at hitems
  have hbracket : Json.skipSpace ('[' :: listed gap close ']' word true rules) =
      '[' :: listed gap close ']' word true rules := rfl
  rw [listOfText, String.toList_ofList, readList, Json.atNext, hbracket]
  dsimp only
  rw [if_pos rfl, hitems]
  rfl

/-- **The compact text of a list of rules** is the list. -/
theorem listOfText_render (h : ∀ rule ∈ rules, rule.Expressible) :
    listOfText (listToJson rules).render = .ok rules := by
  rw [Json.render, listToJson, Json.compact_array, Json.listed_map]
  refine listOfText_listed (by simp [Blank]) (by simp [Blank]) fun rule hrule => ⟨?_, fun rest => ?_⟩
  · exact ⟨_, Json.compact_object _⟩
  · exact readText_compact (h rule hrule) (by decide) rest

/-- **The pretty text of a list of rules** is the list. -/
theorem listOfText_renderPretty (h : ∀ rule ∈ rules, rule.Expressible) :
    listOfText (listToJson rules).renderPretty = .ok rules := by
  cases hrules : rules with
  | nil => rfl
  | cons rule others =>
      have hne : rules.map toJson ≠ [] := by simp [hrules]
      rw [← hrules, Json.renderPretty, listToJson, Json.pretty_array 0 hne, Json.listed_map]
      refine listOfText_listed (Json.blank_newline 1) (Json.blank_newline 0) fun rule hrule =>
        ⟨?_, fun rest => ?_⟩
      · exact ⟨_, Json.pretty_object 1 rule.members_ne_nil⟩
      · exact readText_pretty (h rule hrule) (by decide) 1 rest

end StubServer.Rule
