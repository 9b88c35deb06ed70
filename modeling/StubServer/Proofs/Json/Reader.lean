import StubServer.Json.Source
import StubServer.Proofs.Json.Reading.Value

/-!
# Readers of one value

Whatever a reader expects, where it succeeds a value stands, and it takes the text of this value up to its end. It does
so alike with something else behind the value, if that does not go on with a number. This holds of all questions that
can be asked of a text, and of what is put together from them.

## Main statements

* `ReadsValues`: the readers of one value.
* `readsValues_readValue`, `readsValues_stringText?`, `readsValues_numberText`, `readsValues_boolText?`,
  `readsValues_variantText`: the questions.
* `ReadsValues.bind`, `ReadsValues.optional`, `ReadsValues.int`: what is put together from them.
-/

namespace StubServer.Json

variable {α β : Type} {text rest : Text} {depth : Nat}

/-- Where a reader succeeds, it takes the text of a value, and does so alike with something else behind it. -/
def ReadsValues (read : Text → Except Error (α × Text)) : Prop :=
  ∀ ⦃text : Text⦄ ⦃a : α⦄ ⦃rest : Text⦄, read text = .ok (a, rest) →
    ∃ (gap : Gap) (core : Text) (room : Nat) (v : Json), text = gap.text ++ (core ++ rest) ∧ Spells room v core ∧
      ∀ ⦃other : Text⦄, EndsInteger other → read (gap.text ++ (core ++ other)) = .ok (a, other)

/-! ### Questions -/

/-- Any value. -/
theorem readsValues_readValue (hdepth : 0 < depth) :
    ReadsValues fun text => readValue [] (fuelFor text) depth text := by
  intro text v rest h
  obtain ⟨gap, core, rfl, hspells⟩ := beginsWith_of_readValue h
  refine ⟨gap, core, depth - 1, v, rfl, hspells, fun other hother => ?_⟩
  have hbegins : BeginsWith (depth - 1) v (gap.text ++ (core ++ other)) other := ⟨gap, core, rfl, hspells⟩
  exact hbegins.readValue_eq hother (Nat.sub_lt hdepth Nat.one_pos)

/-- What is read from the first character on that is not blank. -/
theorem readsValues_atNext {k : Char → Text → Except Error (α × Text)}
    (h : ∀ {c more a rest}, k c more = .ok (a, rest) → ∃ taken room v, more = taken ++ rest ∧
      Spells room v (c :: taken) ∧ ∀ other, EndsInteger other → k c (taken ++ other) = .ok (a, other)) :
    ReadsValues fun text => atNext text k := by
  intro text a rest hread
  unfold atNext at hread
  dsimp only at hread
  split at hread
  · cases hread
  rename_i c more hskip
  obtain ⟨gap, rfl⟩ := exists_gap_of_skipSpace hskip
  obtain ⟨taken, room, v, rfl, hspells, htaken⟩ := h hread
  refine ⟨gap, c :: taken, room, v, rfl, hspells, fun other hother => ?_⟩
  dsimp only
  rw [List.cons_append, atNext_append gap.blank (isSpace_of_skipSpace hskip)]
  exact htaken other hother

/-- Null was next. -/
theorem exists_gap_of_nullText? (h : nullText? text = .ok (some rest)) :
    ∃ gap : Gap, text = gap.text ++ (['n', 'u', 'l', 'l'] ++ rest) := by
  unfold nullText? at h
  split at h
  · rename_i hskip
    obtain ⟨gap, rfl⟩ := exists_gap_of_skipSpace hskip
    obtain ⟨_, hword, heq⟩ := exists_of_map_eq_ok h
    cases heq
    exact ⟨gap, by rw [eq_append_of_readWord hword]; rfl⟩
  · cases h

/-- Null is found. -/
theorem nullText?_null (gap : Gap) (rest : Text) :
    nullText? (gap.text ++ (['n', 'u', 'l', 'l'] ++ rest)) = .ok (some rest) := by
  have hskip := skipSpace_append_cons gap.blank (show isSpace 'n' = false by decide) (['u', 'l', 'l'] ++ rest)
  unfold nullText?
  rw [List.cons_append, hskip]
  exact congrArg (Except.map some) (readWord_append ['u', 'l', 'l'] rest)

/-- A truth value. -/
theorem readsValues_boolText? : ReadsValues (boolText? []) := by
  refine readsValues_atNext fun {c more a rest} h => ?_
  by_cases htrue : c = 't'
  · rw [if_pos htrue] at h
    subst htrue
    obtain ⟨_, hword, heq⟩ := exists_of_map_eq_ok h
    cases heq
    refine ⟨_, 0, .bool true, eq_append_of_readWord hword, .bool 0 true, fun other _ => ?_⟩
    rw [if_pos rfl, readWord_append]
    rfl
  rw [if_neg htrue] at h
  by_cases hfalse : c = 'f'
  · rw [if_pos hfalse] at h
    subst hfalse
    obtain ⟨_, hword, heq⟩ := exists_of_map_eq_ok h
    cases heq
    refine ⟨_, 0, .bool false, eq_append_of_readWord hword, .bool 0 false, fun other _ => ?_⟩
    rw [if_neg htrue, if_pos rfl, readWord_append]
    rfl
  rw [if_neg hfalse] at h
  cases h

/-- A number. -/
theorem readsValues_numberText (expected : String) : ReadsValues (numberText [] expected) := by
  refine readsValues_atNext fun {c more a rest} h => ?_
  by_cases hminus : c = '-'
  · rw [if_pos hminus] at h
    subst hminus
    obtain ⟨taken, rfl, htaken⟩ := exists_taken_of_readNumber h
    refine ⟨taken, 0, _, rfl, .number 0 htaken, fun other hother => ?_⟩
    rw [if_pos rfl]
    exact readNumber_append htaken hother
  rw [if_neg hminus] at h
  by_cases hdigit : isDigit c = true
  · rw [if_pos hdigit] at h
    obtain ⟨taken, htext, htaken⟩ := exists_taken_of_readNumber h
    cases taken with
    | nil => cases htaken
    | cons d taken =>
        obtain ⟨rfl, rfl⟩ := List.cons.inj htext
        refine ⟨taken, 0, _, rfl, @Spells.number 0 false _ _ htaken, fun other hother => ?_⟩
        rw [if_neg hminus, if_pos hdigit]
        exact readNumber_append htaken hother
  rw [if_neg hdigit] at h
  cases h

/-- A string was read. -/
theorem exists_spelled_of_stringText? {expected name : String} (h : stringText? [] expected text = .ok (name, rest)) :
    ∃ (gap : Gap) (taken : Text), text = gap.text ++ '"' :: (taken ++ '"' :: rest) ∧
      SpellsString name.toList taken := by
  unfold stringText? atNext at h
  split at h
  · cases h
  rename_i c more hskip
  obtain ⟨gap, rfl⟩ := exists_gap_of_skipSpace hskip
  dsimp only at h
  split at h
  · rename_i hquote
    rw [readCharacters_nil] at h
    obtain ⟨⟨cs, _⟩, hstring, heq⟩ := exists_of_map_eq_ok h
    cases heq
    obtain ⟨taken, rfl, htaken⟩ := exists_spellsString_of_readString hstring
    exact ⟨gap, taken, by rw [hquote], by rwa [String.toList_ofList]⟩
  · cases h

/-- A string is read, however it is written. -/
theorem stringText?_spelled (gap : Gap) {name : String} {taken : Text} (h : SpellsString name.toList taken)
    (expected : String) (rest : Text) :
    stringText? [] expected (gap.text ++ '"' :: (taken ++ '"' :: rest)) = .ok (name, rest) := by
  rw [stringText?, atNext_append gap.blank (by decide), if_pos rfl, readCharacters_nil,
    h.readString_append]
  simp [Except.map]

/-- A string. -/
theorem readsValues_stringText? (expected : String) : ReadsValues (stringText? [] expected) := by
  intro text name rest h
  obtain ⟨gap, taken, rfl, htaken⟩ := exists_spelled_of_stringText? h
  refine ⟨gap, '"' :: (taken ++ ['"']), 0, .string name, by simp, .string 0 htaken, fun other _ => ?_⟩
  have hread := stringText?_spelled gap htaken expected other
  simpa using hread

/-! ### Combinations -/

/-- What is made of a value that was read, whatever is behind it. -/
theorem ReadsValues.bind {read : Text → Except Error (α × Text)} {next : α × Text → Except Error (β × Text)}
    (h : ReadsValues read) (hnext : ∀ {a rest b after}, next (a, rest) = .ok (b, after) →
      after = rest ∧ ∀ other, next (a, other) = .ok (b, other)) : ReadsValues fun text => read text >>= next := by
  intro text b rest hread
  obtain ⟨⟨a, after⟩, hread, hmade⟩ := exists_of_bind_eq_ok hread
  obtain ⟨rfl, hnext⟩ := hnext hmade
  obtain ⟨gap, core, room, v, rfl, hspells, hreads⟩ := h hread
  refine ⟨gap, core, room, v, rfl, hspells, fun other hother => ?_⟩
  dsimp only
  rw [hreads hother, ok_bind]
  exact hnext other

/-- Null, or what is expected. -/
theorem ReadsValues.optional {read : Text → Except Error (α × Text)} (h : ReadsValues read) :
    ReadsValues ((Source.text [] depth).optional read) := by
  intro text a rest hread
  obtain ⟨next, hnull, hread⟩ := exists_of_bind_eq_ok hread
  cases next with
  | some after =>
      obtain ⟨gap, rfl⟩ := exists_gap_of_nullText? hnull
      cases hread
      refine ⟨gap, _, 0, .null, rfl, .null 0, fun other _ => ?_⟩
      exact congrArg (· >>= _) (nullText?_null gap other)
  | none =>
      obtain ⟨⟨v, _⟩, hread, heq⟩ := exists_of_bind_eq_ok hread
      cases heq
      obtain ⟨gap, core, room, v, rfl, hspells, hreads⟩ := h hread
      obtain ⟨c, more, rfl, hspace, -⟩ := hspells.starts
      refine ⟨gap, _, room, v, rfl, hspells, fun other hother => ?_⟩
      have hc : c ≠ 'n' := by
        rintro rfl
        change nullText? _ = _ at hnull
        rw [nullText?, List.cons_append, skipSpace_append_cons gap.blank hspace] at hnull
        obtain ⟨_, -, heq⟩ := exists_of_map_eq_ok hnull
        cases heq
      exact optional_append gap.blank hspace hc depth (hreads hother)

/-- An integer within bounds. -/
theorem readsValues_int (low high : Int) (expected : String) :
    ReadsValues ((Source.text [] depth).int low high expected) := by
  refine (readsValues_numberText expected).bind fun {n rest i after} h => ?_
  obtain ⟨j, hj, h⟩ := exists_of_bind_eq_ok h
  cases h
  exact ⟨rfl, fun other => by dsimp only; rw [hj]; rfl⟩

/-! ### Names -/

/-- Null and nothing else was read. -/
theorem exists_gap_of_unitText (h : unitText [] text = .ok rest) :
    ∃ gap : Gap, text = gap.text ++ (['n', 'u', 'l', 'l'] ++ rest) := by
  unfold unitText atNext at h
  split at h
  · cases h
  rename_i c more hskip
  obtain ⟨gap, rfl⟩ := exists_gap_of_skipSpace hskip
  dsimp only at h
  split at h
  · rename_i hc
    subst hc
    exact ⟨gap, by rw [eq_append_of_readWord h]; rfl⟩
  · cases h

/-- Null is read. -/
theorem unitText_null (gap : Gap) (rest : Text) :
    unitText [] (gap.text ++ (['n', 'u', 'l', 'l'] ++ rest)) = .ok rest := by
  rw [List.cons_append, unitText, atNext_append gap.blank (by decide), if_pos rfl]
  exact readWord_append ['u', 'l', 'l'] rest

/-- The only name of an object, over null. -/
def onlyName (names : List String) (text : Text) : Except Error (String × Text) := do
  let (s, rest) ← stringText? [] "variant identifier" text
  let name ← chooseVariant names s
  let rest ← colon rest >>= unitText []
  match skipSpace rest with
  | [] => .error .endOfObject
  | d :: rest => if d = '\x7d' then .ok (name, rest) else .error .expectedValue

/-- What is read behind the brace of an object with only one name. -/
theorem exists_of_onlyName {names : List String} {name : String} (h : onlyName names text = .ok (name, rest)) :
    ∃ (member : WrittenMember), SpellsString member.name.toList member.nameText ∧
      member.item.value = .null ∧ member.item.core = ['n', 'u', 'l', 'l'] ∧
      text = listed [] [] '\x7d' WrittenMember.text true [member] ++ rest ∧
      ∀ other, onlyName names (listed [] [] '\x7d' WrittenMember.text true [member] ++ other) = .ok (name, other) := by
  obtain ⟨⟨s, afterName⟩, hstring, hmade⟩ := exists_of_bind_eq_ok h
  obtain ⟨chosen, hchoose, hmade⟩ := exists_of_bind_eq_ok hmade
  obtain ⟨afterNull, hvalue, hclose⟩ := exists_of_bind_eq_ok hmade
  obtain ⟨afterColon, hcolon, hunit⟩ := exists_of_bind_eq_ok hvalue
  obtain ⟨before, nameText, rfl, hspells⟩ := exists_spelled_of_stringText? hstring
  obtain ⟨behindName, rfl⟩ := exists_gap_of_colon hcolon
  obtain ⟨beforeNull, rfl⟩ := exists_gap_of_unitText hunit
  split at hclose
  · cases hclose
  rename_i d more hskip
  obtain ⟨behindNull, rfl⟩ := exists_gap_of_skipSpace hskip
  split at hclose
  case isFalse => cases hclose
  rename_i hbrace
  cases hclose
  let item : WrittenItem :=
    { before := beforeNull, value := .null, core := ['n', 'u', 'l', 'l'], behind := behindNull }
  refine ⟨{ before, name := s, nameText, behindName, item }, hspells, rfl, rfl, ?_, fun other => ?_⟩
  · simp [listed, WrittenMember.text, WrittenItem.text, item, hbrace]
  · have hname := stringText?_spelled before hspells "variant identifier"
      (behindName.text ++ ':' :: (beforeNull.text ++ (['n', 'u', 'l', 'l'] ++ (behindNull.text ++ '\x7d' :: other))))
    have hend := skipSpace_append_cons behindNull.blank (show isSpace '\x7d' = false by decide) other
    have htext : listed [] [] '\x7d' WrittenMember.text true
        [{ before, name := s, nameText, behindName, item }] ++ other =
        before.text ++ '"' :: (nameText ++ '"' :: (behindName.text ++ ':' :: (beforeNull.text ++
          (['n', 'u', 'l', 'l'] ++ (behindNull.text ++ '\x7d' :: other))))) := by
      simp [listed, WrittenMember.text, WrittenItem.text, item]
    rw [htext, onlyName, hname, ok_bind]
    dsimp only
    rw [hchoose, ok_bind, colon_append behindName.blank, ok_bind, unitText_null, ok_bind, hend]
    simp

/-- One of the names. -/
theorem readsValues_variantText (names : List String) : ReadsValues (variantText [] depth names) := by
  refine readsValues_atNext fun {c more name rest} h => ?_
  by_cases hquote : c = '"'
  · rw [if_pos hquote] at h
    subst hquote
    obtain ⟨⟨cs, after⟩, hstring, h⟩ := exists_of_bind_eq_ok h
    obtain ⟨other, hchoose, h⟩ := exists_of_bind_eq_ok h
    cases h
    rw [readCharacters_nil] at hstring
    obtain ⟨taken, rfl, htaken⟩ := exists_spellsString_of_readString hstring
    refine ⟨taken ++ ['"'], 0, .string (.ofList cs), by simp, .string 0 (by rwa [String.toList_ofList]),
      fun other _ => ?_⟩
    rw [if_pos rfl, List.append_assoc, List.singleton_append, readCharacters_nil, htaken.readString_append, ok_bind]
    dsimp only
    rw [hchoose]
    rfl
  rw [if_neg hquote] at h
  by_cases hbrace : c = '\x7b'
  · rw [if_pos hbrace] at h
    subst hbrace
    split at h
    · cases h
    rename_i hdepth
    obtain ⟨member, hname, hvalue, hcore, rfl, honly⟩ := exists_of_onlyName h
    have hspells : Spells 1 (.ofMembers ([member].map WrittenMember.member))
        ('\x7b' :: listed [] [] '\x7d' WrittenMember.text true [member]) := by
      refine .object [member] .none (List.forall_mem_singleton.mpr hname) (List.forall_mem_singleton.mpr ?_)
      rw [hvalue, hcore]
      exact .null 0
    refine ⟨_, 1, _, rfl, hspells, fun other _ => ?_⟩
    rw [if_neg hquote, if_pos rfl, if_neg hdepth]
    exact honly other
  rw [if_neg hbrace] at h
  cases h

end StubServer.Json
