import StubServer.Proofs.Json.Reading.Value
import StubServer.Proofs.Json.Skipping.Word

/-!
# Values that are read over

Reading over a value checks less than reading it: surrogates need not come in pairs, numbers may be too large, names
may occur twice and containers may be inside each other without end. What is read over is still taken from the front of
the text alone, and where a value is read, it is read over, up to the same place.

## Main definitions

* `skipStep`: one step in a list, of items or of members.
* `SkipsAlike`: a part of a text is read over, whatever is behind it that does not go on with a number.

## Main statements

* `skipsAlike_of_skipValue`: what is read over does not depend on what is behind it.
* `BeginsWith.skipValue_eq`: values are read over.
-/

namespace StubServer.Json

variable {text rest : Text} {c : Char}

/-! ### Lists -/

/-- What is read over with one more step of fuel in a list: its bracket, or one of its words and the others. -/
def skipStep (bracket : Char) (noEnd noComma : Error) (one others : Text → Except Error Text) (first : Bool)
    (text : Text) : Except Error Text :=
  match skipSpace text with
  | [] => .error noEnd
  | c :: rest =>
    if c = bracket then .ok rest
    else if first then one (c :: rest) >>= others
    else if c = ',' then one rest >>= others
    else .error noComma

/-- Items are read over as a list. -/
theorem skipItems_succ (fuel : Nat) (first : Bool) (text : Text) :
    skipItems (fuel + 1) first text =
      skipStep ']' .endOfList .expectedListCommaOrEnd (skipValue fuel) (skipItems fuel false) first text := by
  rw [skipItems]
  rfl

/-- Members are read over as a list. -/
theorem skipMembers_succ (fuel : Nat) (first : Bool) (text : Text) :
    skipMembers (fuel + 1) first text =
      skipStep '\x7d' .endOfObject .expectedObjectCommaOrEnd (skipMember fuel) (skipMembers fuel false) first
        text := by
  rw [skipMembers]
  rfl

section Lists

variable {bracket : Char} {noEnd noComma : Error} {one others : Text → Except Error Text} {first : Bool}

/-- The bracket of a list is read over. -/
theorem skipStep_bracket (gap : Gap) (hbracket : isSpace bracket = false) (rest : Text) :
    skipStep bracket noEnd noComma one others first (gap.text ++ bracket :: rest) = .ok rest := by
  rw [skipStep, skipSpace_append_cons gap.blank hbracket]
  simp

/-- A first word is read over, and then the others. -/
theorem skipStep_first (gap : Gap) (hspace : isSpace c = false) (hc : c ≠ bracket) (text : Text) :
    skipStep bracket noEnd noComma one others true (gap.text ++ c :: text) = one (c :: text) >>= others := by
  rw [skipStep, skipSpace_append_cons gap.blank hspace]
  simp [hc]

/-- A word behind a comma is read over, and then the others. -/
theorem skipStep_comma (gap : Gap) (hbracket : ',' ≠ bracket) (text : Text) :
    skipStep bracket noEnd noComma one others false (gap.text ++ ',' :: text) = one text >>= others := by
  rw [skipStep, skipSpace_append_cons gap.blank (by decide)]
  simp [hbracket]

/-- How a step in a list may succeed. -/
theorem cases_of_skipStep (h : skipStep bracket noEnd noComma one others first text = .ok rest) :
    (∃ gap : Gap, isSpace bracket = false ∧ text = gap.text ++ bracket :: rest) ∨
    (∃ (gap : Gap) (c : Char) (more after : Text), first = true ∧ isSpace c = false ∧ c ≠ bracket ∧
      text = gap.text ++ c :: more ∧ one (c :: more) = .ok after ∧ others after = .ok rest) ∨
    ∃ (gap : Gap) (more after : Text), first = false ∧ ',' ≠ bracket ∧
      text = gap.text ++ ',' :: more ∧ one more = .ok after ∧ others after = .ok rest := by
  unfold skipStep at h
  split at h
  · cases h
  rename_i c more hskip
  obtain ⟨gap, rfl⟩ := exists_gap_of_skipSpace hskip
  have hspace := isSpace_of_skipSpace hskip
  split at h
  · rename_i hc
    cases h
    exact .inl ⟨gap, hc ▸ hspace, by rw [hc]⟩
  rename_i hc
  split at h
  · rename_i hfirst
    obtain ⟨after, hone, hothers⟩ := exists_of_bind_eq_ok h
    exact .inr (.inl ⟨gap, c, more, after, hfirst, hspace, hc, rfl, hone, hothers⟩)
  rename_i hfirst
  split at h
  · rename_i hcomma
    subst hcomma
    obtain ⟨after, hone, hothers⟩ := exists_of_bind_eq_ok h
    exact .inr (.inr ⟨gap, more, after, eq_false_of_ne_true hfirst, hc, rfl, hone, hothers⟩)
  · cases h

/-- What goes on with a list does not go on with a number. -/
theorem endsInteger_of_skipStep (hbracket : goesOn bracket = false)
    (h : skipStep bracket noEnd noComma one others false text = .ok rest) : EndsInteger text := by
  obtain ⟨gap, -, rfl⟩ | ⟨_, _, _, _, hfirst, -⟩ | ⟨gap, more, _, -, -, rfl, -⟩ := cases_of_skipStep h
  · refine .append gap.blank ?_
    rintro _ ⟨⟩
    exact hbracket
  · cases hfirst
  · refine .append gap.blank ?_
    rintro _ ⟨⟩
    decide

end Lists

/-! ### Values -/

/-- A part of a text is read over, with enough fuel and whatever is behind it that does not go on with a number. -/
def SkipsAlike (skip : Nat → Text → Except Error Text) (text rest : Text) : Prop :=
  ∃ taken, taken ≠ [] ∧ text = taken ++ rest ∧
    ∀ ⦃fuel⦄ ⦃other⦄, 2 * taken.length ≤ fuel → EndsInteger other → skip fuel (taken ++ other) = .ok other

/-- What ends a number does so with something else behind it. -/
theorem EndsInteger.append_of_ne_nil {taken : Text} (h : EndsInteger (taken ++ rest)) (hne : taken ≠ [])
    (other : Text) : EndsInteger (taken ++ other) := by
  cases taken with
  | nil => exact absurd rfl hne
  | cons c taken => exact h

/-- A list is read over alike, if its words are. -/
theorem skipsAlike_list {bracket : Char} {noEnd noComma : Error} {one : Nat → Text → Except Error Text}
    {all : Nat → Bool → Text → Except Error Text} {fuel : Nat} {first : Bool}
    (hstep : ∀ fuel first text,
      all (fuel + 1) first text = skipStep bracket noEnd noComma (one fuel) (all fuel false) first text)
    (hone : ∀ {text rest}, one fuel text = .ok rest → SkipsAlike one text rest)
    (hothers : ∀ {text rest}, all fuel false text = .ok rest → EndsInteger text ∧ SkipsAlike (all · false) text rest)
    (h : all (fuel + 1) first text = .ok rest) : SkipsAlike (all · first) text rest := by
  rw [hstep] at h
  obtain ⟨gap, hspace, rfl⟩ | ⟨gap, c, more, after, rfl, hspace, hc, rfl, hread, hrest⟩ |
    ⟨gap, more, after, rfl, hbracket, rfl, hread, hrest⟩ := cases_of_skipStep h
  · refine ⟨gap.text ++ [bracket], by simp, by simp, fun fuel other hfuel _ => ?_⟩
    obtain ⟨fuel, rfl⟩ : ∃ k, fuel = k + 1 := ⟨fuel - 1, by simp at hfuel; omega⟩
    rw [List.append_assoc, List.singleton_append]
    dsimp only
    rw [hstep, skipStep_bracket gap hspace]
  · obtain ⟨word, hword, htext, hskip⟩ := hone hread
    obtain ⟨hends, last, hlast, rfl, hskips⟩ := hothers hrest
    obtain ⟨d, word, rfl⟩ := List.exists_cons_of_ne_nil hword
    obtain ⟨rfl, rfl⟩ := List.cons.inj htext
    refine ⟨gap.text ++ c :: (word ++ last), by simp, by simp, fun fuel other hfuel hother => ?_⟩
    simp only [List.length_append, List.length_cons] at hfuel hskip
    have hlength := List.length_pos_iff.mpr hlast
    obtain ⟨fuel, rfl⟩ : ∃ k, fuel = k + 1 := ⟨fuel - 1, by omega⟩
    have hread := hskip (by omega : _ ≤ fuel) (hends.append_of_ne_nil hlast other)
    have hrest := hskips (by omega : _ ≤ fuel) hother
    rw [List.append_assoc, List.cons_append, List.append_assoc]
    dsimp only at hrest ⊢
    rw [hstep, skipStep_first gap hspace hc, ← List.cons_append, hread, ok_bind, hrest]
  · obtain ⟨word, hword, rfl, hskip⟩ := hone hread
    obtain ⟨hends, last, hlast, rfl, hskips⟩ := hothers hrest
    refine ⟨gap.text ++ ',' :: (word ++ last), by simp, by simp, fun fuel other hfuel hother => ?_⟩
    simp only [List.length_append, List.length_cons] at hfuel
    have hlength := List.length_pos_iff.mpr hlast
    obtain ⟨fuel, rfl⟩ : ∃ k, fuel = k + 1 := ⟨fuel - 1, by omega⟩
    have hread := hskip (by omega : _ ≤ fuel) (hends.append_of_ne_nil hlast other)
    have hrest := hskips (by omega : _ ≤ fuel) hother
    rw [List.append_assoc, List.cons_append, List.append_assoc]
    dsimp only at hrest ⊢
    rw [hstep, skipStep_comma gap hbracket, hread, ok_bind, hrest]

/-- A member is read over alike, if its value is. -/
theorem skipsAlike_member {fuel : Nat}
    (hvalue : ∀ {text rest}, skipValue fuel text = .ok rest → SkipsAlike skipValue text rest)
    (h : skipMember (fuel + 1) text = .ok rest) : SkipsAlike skipMember text rest := by
  rw [skipMember] at h
  split at h
  · cases h
  rename_i c more hskip
  obtain ⟨gap, rfl⟩ := exists_gap_of_skipSpace hskip
  split at h
  · cases h
  rename_i hquote
  obtain rfl : c = '"' := Decidable.not_not.mp hquote
  split at h
  · cases h
  rename_i behind hname
  obtain ⟨name, rfl, htaken⟩ := exists_taken_of_skipString hname
  split at h
  · cases h
  rename_i d more' hskip'
  obtain ⟨gap', rfl⟩ := exists_gap_of_skipSpace hskip'
  split at h
  · cases h
  rename_i hcolon
  obtain rfl : d = ':' := Decidable.not_not.mp hcolon
  obtain ⟨value, hne, rfl, hvalue⟩ := hvalue h
  refine ⟨gap.text ++ '"' :: (name ++ (gap'.text ++ ':' :: value)), by simp, by simp,
    fun fuel other hfuel hother => ?_⟩
  simp only [List.length_append, List.length_cons] at hfuel
  obtain ⟨fuel, rfl⟩ : ∃ k, fuel = k + 1 := ⟨fuel - 1, by omega⟩
  have hread := hvalue (by omega : _ ≤ fuel) hother
  have hcolon := skipSpace_append_cons gap'.blank (show isSpace ':' = false by decide) (value ++ other)
  simp only [List.append_assoc, List.cons_append]
  rw [skipMember, skipSpace_append_cons gap.blank (by decide)]
  simp [htaken, hcolon, hread]

/-- Blanks before a value are skipped. -/
theorem skipValue_gap (gap : Gap) (fuel : Nat) (text : Text) :
    skipValue fuel (gap.text ++ text) = skipValue fuel text := by
  cases fuel with
  | zero => rfl
  | succ fuel => rw [skipValue, skipValue, skipSpace_append gap.blank]

/-- The first character decides what is read over. -/
theorem skipValue_cons (hspace : isSpace c = false) (fuel : Nat) (text : Text) :
    skipValue (fuel + 1) (c :: text) =
      if c = 'n' then readWord ['u', 'l', 'l'] text
      else if c = 't' then readWord ['r', 'u', 'e'] text
      else if c = 'f' then readWord ['a', 'l', 's', 'e'] text
      else if c = '-' then skipNumber text
      else if isDigit c then skipNumber (c :: text)
      else if c = '"' then skipString text
      else if c = '[' then skipItems fuel true text
      else if c = '\x7b' then skipMembers fuel true text
      else .error .expectedValue := by
  rw [skipValue, skipSpace, List.dropWhile_cons_of_neg (by simp [hspace])]

/-- A literal word is read over alike with something else behind it. -/
theorem exists_taken_of_readWord {word : List Char} (h : readWord word text = .ok rest) :
    ∃ taken, text = taken ++ rest ∧ ∀ other, readWord word (taken ++ other) = .ok other :=
  ⟨word, eq_append_of_readWord h, readWord_append word⟩

/-- Behind the first character of a value as much is taken as is read over there. -/
theorem exists_taken_of_skipValue_cons {fuel : Nat} (hspace : isSpace c = false)
    (hitems : ∀ {text rest}, skipItems fuel true text = .ok rest → SkipsAlike (skipItems · true) text rest)
    (hmembers : ∀ {text rest}, skipMembers fuel true text = .ok rest → SkipsAlike (skipMembers · true) text rest)
    (h : skipValue (fuel + 1) (c :: text) = .ok rest) :
    ∃ taken, text = taken ++ rest ∧ ∀ ⦃fuel⦄ ⦃other⦄, 2 * taken.length ≤ fuel → EndsInteger other →
      skipValue (fuel + 1) (c :: (taken ++ other)) = .ok other := by
  simp only [skipValue_cons hspace] at h ⊢
  split_ifs at h ⊢ with hn ht hf hminus hdigit hquote hbracket hbrace
  · obtain ⟨taken, htext, htaken⟩ := exists_taken_of_readWord h
    exact ⟨taken, htext, fun _ other _ _ => htaken other⟩
  · obtain ⟨taken, htext, htaken⟩ := exists_taken_of_readWord h
    exact ⟨taken, htext, fun _ other _ _ => htaken other⟩
  · obtain ⟨taken, htext, htaken⟩ := exists_taken_of_readWord h
    exact ⟨taken, htext, fun _ other _ _ => htaken other⟩
  · obtain ⟨taken, htext, htaken⟩ := exists_taken_of_skipNumber h
    exact ⟨taken, htext, fun _ other _ hother => htaken other hother⟩
  · obtain ⟨taken, htext, htaken⟩ := exists_taken_of_skipNumber h
    cases taken with
    | nil => cases htaken [] nofun
    | cons d taken =>
        obtain ⟨rfl, rfl⟩ := List.cons.inj htext
        exact ⟨taken, rfl, fun _ other _ hother => htaken other hother⟩
  · obtain ⟨taken, htext, htaken⟩ := exists_taken_of_skipString h
    exact ⟨taken, htext, fun _ other _ _ => htaken other⟩
  · obtain ⟨taken, -, htext, htaken⟩ := hitems h
    exact ⟨taken, htext, htaken⟩
  · obtain ⟨taken, -, htext, htaken⟩ := hmembers h
    exact ⟨taken, htext, htaken⟩

/-- A value is read over alike, if what is inside it is. -/
theorem skipsAlike_value {fuel : Nat}
    (hitems : ∀ {text rest}, skipItems fuel true text = .ok rest → SkipsAlike (skipItems · true) text rest)
    (hmembers : ∀ {text rest}, skipMembers fuel true text = .ok rest → SkipsAlike (skipMembers · true) text rest)
    (h : skipValue (fuel + 1) text = .ok rest) : SkipsAlike skipValue text rest := by
  cases hskip : skipSpace text with
  | nil => simp [skipValue, hskip] at h
  | cons c more =>
      obtain ⟨gap, rfl⟩ := exists_gap_of_skipSpace hskip
      have hspace := isSpace_of_skipSpace hskip
      rw [skipValue_gap] at h
      obtain ⟨taken, rfl, htaken⟩ := exists_taken_of_skipValue_cons hspace hitems hmembers h
      refine ⟨gap.text ++ c :: taken, by simp, by simp, fun fuel other hfuel hother => ?_⟩
      simp only [List.length_append, List.length_cons] at hfuel
      obtain ⟨fuel, rfl⟩ : ∃ k, fuel = k + 1 := ⟨fuel - 1, by omega⟩
      rw [List.append_assoc, List.cons_append, skipValue_gap]
      exact htaken (by omega) hother

/-- What is read over with some fuel is read over alike: a value, the items of an array, the members of an object and
one of them. -/
theorem skipsAlike (fuel : Nat) :
    (∀ {text rest}, skipValue fuel text = .ok rest → SkipsAlike skipValue text rest) ∧
    (∀ {first text rest}, skipItems fuel first text = .ok rest → SkipsAlike (skipItems · first) text rest) ∧
    (∀ {first text rest}, skipMembers fuel first text = .ok rest → SkipsAlike (skipMembers · first) text rest) ∧
    ∀ {text rest}, skipMember fuel text = .ok rest → SkipsAlike skipMember text rest := by
  induction fuel with
  | zero => exact ⟨nofun, nofun, nofun, nofun⟩
  | succ fuel ih =>
      obtain ⟨hvalue, hitems, hmembers, hmember⟩ := ih
      have hitemsEnd : ∀ {text rest}, skipItems fuel false text = .ok rest → EndsInteger text := by
        intro text rest h
        cases fuel with
        | zero => cases h
        | succ fuel => exact endsInteger_of_skipStep (by decide) (skipItems_succ fuel false text ▸ h)
      have hmembersEnd : ∀ {text rest}, skipMembers fuel false text = .ok rest → EndsInteger text := by
        intro text rest h
        cases fuel with
        | zero => cases h
        | succ fuel => exact endsInteger_of_skipStep (by decide) (skipMembers_succ fuel false text ▸ h)
      exact ⟨skipsAlike_value hitems hmembers,
        skipsAlike_list skipItems_succ hvalue fun h => ⟨hitemsEnd h, hitems h⟩,
        skipsAlike_list skipMembers_succ hmember fun h => ⟨hmembersEnd h, hmembers h⟩, skipsAlike_member hvalue⟩

/-- **A value that is read over** is so with something else behind it that does not go on with a number. -/
theorem skipsAlike_of_skipValue {fuel : Nat} (h : skipValue fuel text = .ok rest) : SkipsAlike skipValue text rest :=
  (skipsAlike fuel).1 h

/-! ### Values that are read -/

section Texts

variable {room fuel : Nat} {v : Json} {core : Text}

/-- Blanks before a member are skipped. -/
theorem skipMember_gap (gap : Gap) (fuel : Nat) (text : Text) :
    skipMember fuel (gap.text ++ text) = skipMember fuel text := by
  cases fuel with
  | zero => rfl
  | succ fuel => rw [skipMember, skipMember, skipSpace_append gap.blank]

/-- Blanks before what is left of a list are skipped. -/
theorem skipStep_gap {bracket : Char} {noEnd noComma : Error} {one others : Text → Except Error Text} (gap : Gap)
    (first : Bool) (text : Text) :
    skipStep bracket noEnd noComma one others first (gap.text ++ text) =
      skipStep bracket noEnd noComma one others first text := by
  rw [skipStep, skipStep, skipSpace_append gap.blank]

/-- Blanks before the items that are left are skipped. -/
theorem skipItems_gap (gap : Gap) (fuel : Nat) (first : Bool) (text : Text) :
    skipItems fuel first (gap.text ++ text) = skipItems fuel first text := by
  cases fuel with
  | zero => rfl
  | succ fuel => rw [skipItems_succ, skipItems_succ, skipStep_gap]

/-- Blanks before the members that are left are skipped. -/
theorem skipMembers_gap (gap : Gap) (fuel : Nat) (first : Bool) (text : Text) :
    skipMembers fuel first (gap.text ++ text) = skipMembers fuel first text := by
  cases fuel with
  | zero => rfl
  | succ fuel => rw [skipMembers_succ, skipMembers_succ, skipStep_gap]

/-- A word of a list is read over, and then the others. -/
theorem skipStep_word {bracket : Char} {noEnd noComma : Error} {one others : Text → Except Error Text} (first : Bool)
    (gap : Gap) (hspace : isSpace c = false) (hc : c ≠ bracket) (hcomma : ',' ≠ bracket)
    (hgap : ∀ (gap : Gap) text, one (gap.text ++ text) = one text) (text : Text) :
    skipStep bracket noEnd noComma one others first ((if first then [] else [',']) ++ (gap.text ++ c :: text)) =
      one (c :: text) >>= others := by
  cases first with
  | true => exact skipStep_first gap hspace hc text
  | false =>
      have hstep := @skipStep_comma bracket noEnd noComma one others .none hcomma (gap.text ++ c :: text)
      rwa [hgap] at hstep

/-- A text is read over, if there is fuel for twice its length. -/
def SkipsAs (core : Text) : Prop :=
  ∀ ⦃fuel : Nat⦄ ⦃rest : Text⦄, 2 * core.length ≤ fuel → EndsInteger rest → skipValue fuel (core ++ rest) = .ok rest

/-- To be read over, a text needs some fuel. -/
theorem skipsAs_of_succ {more : Text}
    (h : ∀ fuel rest, 2 * more.length < fuel → EndsInteger rest →
      skipValue (fuel + 1) (c :: (more ++ rest)) = .ok rest) : SkipsAs (c :: more) := by
  intro fuel rest hfuel hrest
  rw [List.length_cons] at hfuel
  obtain ⟨fuel, rfl⟩ : ∃ n, fuel = n + 1 := ⟨fuel - 1, by omega⟩
  exact h fuel rest (by omega) hrest

/-- The items of an array are read over. -/
theorem skipItems_listed {items : List WrittenItem} {close : Gap} (hstart : ∀ item ∈ items, Starts item.core)
    (hskip : ∀ item ∈ items, SkipsAs item.core) (first : Bool)
    (hfuel : 2 * (listed [] close.text ']' WrittenItem.text first items).length ≤ fuel) (rest : Text) :
    skipItems fuel first (listed [] close.text ']' WrittenItem.text first items ++ rest) = .ok rest := by
  induction items generalizing fuel first with
  | nil =>
      obtain ⟨fuel, rfl⟩ : ∃ n, fuel = n + 1 := ⟨fuel - 1, by simp [listed] at hfuel; omega⟩
      simp only [listed, List.append_assoc, List.singleton_append]
      rw [skipItems_succ, skipStep_bracket close (by decide)]
  | cons item items ih =>
      rw [List.forall_mem_cons] at hstart hskip
      obtain ⟨c, more, hcore, hspace, hc⟩ := hstart.1
      have hlength := length_lt_listed [] close.text ']' WrittenItem.text items
      simp only [listed, WrittenItem.text, List.length_append, List.nil_append] at hfuel
      have hpositive := hstart.1.length_pos
      obtain ⟨fuel, rfl⟩ : ∃ n, fuel = n + 1 := ⟨fuel - 1, by omega⟩
      have hends : EndsInteger (listed [] close.text ']' WrittenItem.text false items ++ rest) :=
        endsInteger_listed close.blank (by decide) items rest
      have hitem := hskip.1 (by omega : _ ≤ fuel) (.append item.behind.blank hends)
      have hothers := @ih fuel hstart.2 hskip.2 false (by omega)
      simp only [listed, WrittenItem.text, List.nil_append, List.append_assoc]
      rw [hcore, List.cons_append] at hitem ⊢
      rw [skipItems_succ, skipStep_word first item.before hspace hc (by decide) fun gap => skipValue_gap gap fuel,
        hitem, ok_bind, skipItems_gap, hothers]

/-- A member is read over. -/
theorem skipMember_spelled {member : WrittenMember} (hname : SpellsString member.name.toList member.nameText)
    (hskip : SkipsAs member.item.core) (hfuel : 2 * member.item.core.length ≤ fuel) (hrest : EndsInteger rest) :
    skipMember (fuel + 1) ('"' :: (member.nameText ++ '"' :: (member.behindName.text ++ ':' ::
        (member.item.text ++ rest)))) = .ok (member.item.behind.text ++ rest) := by
  have hcolon := skipSpace_append_cons member.behindName.blank (show isSpace ':' = false by decide)
    (member.item.text ++ rest)
  have hvalue : skipValue fuel (member.item.text ++ rest) = .ok (member.item.behind.text ++ rest) := by
    rw [WrittenItem.text, List.append_assoc, List.append_assoc, skipValue_gap]
    exact hskip hfuel (.append member.item.behind.blank hrest)
  rw [skipMember, skipSpace, List.dropWhile_cons_of_neg (by decide)]
  simp [hname.skipString_append, hcolon, hvalue]

/-- The members of an object are read over. -/
theorem skipMembers_listed {members : List WrittenMember} {close : Gap}
    (hnames : ∀ member ∈ members, SpellsString member.name.toList member.nameText)
    (hskip : ∀ member ∈ members, SkipsAs member.item.core) (first : Bool)
    (hfuel : 2 * (listed [] close.text '\x7d' WrittenMember.text first members).length ≤ fuel) (rest : Text) :
    skipMembers fuel first (listed [] close.text '\x7d' WrittenMember.text first members ++ rest) = .ok rest := by
  induction members generalizing fuel first with
  | nil =>
      obtain ⟨fuel, rfl⟩ : ∃ n, fuel = n + 1 := ⟨fuel - 1, by simp [listed] at hfuel; omega⟩
      simp only [listed, List.append_assoc, List.singleton_append]
      rw [skipMembers_succ, skipStep_bracket close (by decide)]
  | cons member members ih =>
      rw [List.forall_mem_cons] at hnames hskip
      have hlength := length_lt_listed [] close.text '\x7d' WrittenMember.text members
      simp only [listed, WrittenMember.text, WrittenItem.text, List.length_append, List.length_cons,
        List.nil_append] at hfuel
      obtain ⟨fuel, rfl⟩ : ∃ n, fuel = n + 2 := ⟨fuel - 2, by omega⟩
      have hends : EndsInteger (listed [] close.text '\x7d' WrittenMember.text false members ++ rest) :=
        endsInteger_listed close.blank (by decide) members rest
      have hmember := skipMember_spelled hnames.1 hskip.1 (by omega : _ ≤ fuel) hends
      have hothers := @ih (fuel + 1) hnames.2 hskip.2 false (by omega)
      simp only [listed, WrittenMember.text, List.nil_append, List.append_assoc, List.cons_append]
      rw [skipMembers_succ, skipStep_word first member.before (by decide) (by decide) (by decide) fun gap =>
        skipMember_gap gap (fuel + 1), hmember, ok_bind, skipMembers_gap, hothers]

/-- **A text of a value is read over.** -/
theorem Spells.skipsAs (h : Spells room v core) : SkipsAs core := by
  induction h with
  | null =>
      refine skipsAs_of_succ fun fuel rest _ _ => ?_
      rw [skipValue_cons (by decide)]
      exact readWord_append ['u', 'l', 'l'] rest
  | bool _ b =>
      cases b with
      | true =>
          refine skipsAs_of_succ fun fuel rest _ _ => ?_
          rw [skipValue_cons (by decide)]
          exact readWord_append ['r', 'u', 'e'] rest
      | false =>
          refine skipsAs_of_succ fun fuel rest _ _ => ?_
          rw [skipValue_cons (by decide)]
          exact readWord_append ['a', 'l', 's', 'e'] rest
  | @number _ negative text n h =>
      cases negative with
      | true =>
          refine skipsAs_of_succ fun fuel rest _ hrest => ?_
          rw [skipValue_cons (by decide)]
          exact skipNumber_of_readNumber (readNumber_append h hrest)
      | false =>
          obtain ⟨c, more, rfl, hc, -⟩ := exists_of_readNumber_eq_ok h
          refine skipsAs_of_succ fun fuel rest _ hrest => ?_
          have hskip := skipNumber_of_readNumber (readNumber_append h hrest)
          have hn : c ≠ 'n' := ne_of_isDigit hc (by decide)
          have ht : c ≠ 't' := ne_of_isDigit hc (by decide)
          have hf : c ≠ 'f' := ne_of_isDigit hc (by decide)
          have hminus : c ≠ '-' := ne_of_isDigit hc (by decide)
          rw [List.cons_append] at hskip
          rw [skipValue_cons (isSpace_eq_false (.inr hc))]
          simp [hn, ht, hf, hminus, hc, hskip]
  | string _ h =>
      refine skipsAs_of_succ fun fuel rest _ _ => ?_
      rw [skipValue_cons (by decide)]
      rw [List.append_assoc]
      exact h.skipString_append rest
  | array items close h ih =>
      refine skipsAs_of_succ fun fuel rest hfuel _ => ?_
      have hitems := skipItems_listed (fun item hitem => (h item hitem).starts) ih true (Nat.le_of_lt hfuel) rest
      rw [skipValue_cons (by decide)]
      exact hitems
  | object members close hnames _ ih =>
      refine skipsAs_of_succ fun fuel rest hfuel _ => ?_
      have hmembers := skipMembers_listed hnames ih true (Nat.le_of_lt hfuel) rest
      rw [skipValue_cons (by decide)]
      exact hmembers

/-- **A value at a place is read over.** -/
theorem BeginsWith.skipValue_eq (h : BeginsWith room v text rest) (hrest : EndsInteger rest) :
    skipValue (fuelFor text) text = .ok rest := by
  obtain ⟨gap, core, rfl, hspells⟩ := h
  rw [skipValue_gap]
  refine hspells.skipsAs ?_ hrest
  simp only [fuelFor, List.length_append]
  omega

end Texts

end StubServer.Json
