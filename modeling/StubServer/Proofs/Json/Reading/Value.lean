import StubServer.Proofs.Json.Reading.Word

/-!
# What is read is written

Whatever is read as a value is one of the texts of the value. And one of the texts of a value is read as nothing
else, so that at a place of a text there is at most one value, whatever there is room for.

## Main definitions

* `BeginsWith`: a text begins with one of the texts of a value.
* `Integral`: every number inside a value is an integer.

## Main statements

* `beginsWith_of_readValue`: where a value is read, one of its texts stands.
* `BeginsWith.readValue_eq`, `BeginsWith.unique`: the value at a place.
-/

namespace StubServer.Json

variable {text rest after : Text}

/-! ### Values -/

/-- A text begins with one of the texts of a value, behind blanks. -/
def BeginsWith (room : Nat) (v : Json) (text rest : Text) : Prop :=
  ∃ (gap : Gap) (core : Text), text = gap.text ++ (core ++ rest) ∧ Spells room v core

/-- A literal word was read. -/
theorem eq_append_of_readWord {word : List Char} (h : readWord word text = .ok rest) : text = word ++ rest := by
  induction word generalizing text with
  | nil =>
      cases h
      rfl
  | cons expected word ih =>
      cases text with
      | nil => cases h
      | cons c text =>
          rw [readWord] at h
          split at h
          · rename_i hc
            rw [hc, List.cons_append, ← ih h]
          · cases h

/-- A text begins with what is left of an array, up to its bracket. -/
def BeginsWithItems (room : Nat) (first : Bool) (vs : List Json) (text rest : Text) : Prop :=
  ∃ (gap close : Gap) (items : List WrittenItem), vs = items.map WrittenItem.value ∧
    (∀ item ∈ items, Spells room item.value item.core) ∧
    text = (if first then [] else gap.text) ++ (listed [] close.text ']' WrittenItem.text first items ++ rest)

/-- A text begins with what is left of an object, up to its brace. -/
def BeginsWithMembers (room : Nat) (first : Bool) (pairs : List (String × Json)) (text rest : Text) : Prop :=
  ∃ (gap close : Gap) (members : List WrittenMember), pairs = members.map WrittenMember.member ∧
    (∀ member ∈ members, SpellsString member.name.toList member.nameText) ∧
    (∀ member ∈ members, Spells room member.item.value member.item.core) ∧
    text = (if first then [] else gap.text) ++ (listed [] close.text '\x7d' WrittenMember.text first members ++ rest)

section Values

variable {room fuel depth : Nat} {first : Bool} {v : Json} {vs : List Json} {name : String}
  {pairs : List (String × Json)} {behind before : Gap} {after : Text}

/-- The bracket is all that is left of an array. -/
theorem beginsWithItems_nil (close : Gap) (rest : Text) :
    BeginsWithItems room first [] (close.text ++ ']' :: rest) rest :=
  ⟨.none, close, [], rfl, by simp, by simp [listed]⟩

/-- An item comes before the others. -/
theorem BeginsWith.beginsWithItems (h : BeginsWith room v text after)
    (hothers : BeginsWithItems room false vs after rest) :
    BeginsWithItems room first (v :: vs) (lead first behind ++ (before.text ++ text)) rest := by
  obtain ⟨gap, core, rfl, hspells⟩ := h
  obtain ⟨gap', close, items, rfl, hitems, rfl⟩ := hothers
  refine ⟨behind, close, { before := before.append gap, value := v, core, behind := gap' } :: items, rfl,
    List.forall_mem_cons.mpr ⟨hspells, hitems⟩, ?_⟩
  cases first <;> simp [lead, listed, WrittenItem.text]

/-- The brace is all that is left of an object. -/
theorem beginsWithMembers_nil (close : Gap) (rest : Text) :
    BeginsWithMembers room first [] (close.text ++ '\x7d' :: rest) rest :=
  ⟨.none, close, [], rfl, by simp, by simp, by simp [listed]⟩

/-- A member comes before the others. -/
theorem BeginsWith.beginsWithMembers {behindName : Gap} {nameText : Text}
    (hname : SpellsString name.toList nameText) (h : BeginsWith room v text after)
    (hothers : BeginsWithMembers room false pairs after rest) :
    BeginsWithMembers room first ((name, v) :: pairs)
      (lead first behind ++ (before.text ++ '"' :: (nameText ++ '"' :: (behindName.text ++ ':' :: text)))) rest := by
  obtain ⟨gap, core, rfl, hspells⟩ := h
  obtain ⟨gap', close, members, rfl, hnames, hmembers, rfl⟩ := hothers
  let item : WrittenItem := { before := gap, value := v, core, behind := gap' }
  refine ⟨behind, close, { before, name, nameText, behindName, item } :: members, rfl,
    List.forall_mem_cons.mpr ⟨hname, hnames⟩, List.forall_mem_cons.mpr ⟨hspells, hmembers⟩, ?_⟩
  cases first <;> simp [lead, listed, WrittenMember.text, WrittenItem.text, item]

/-- A text begins with the value that is read from it, if this is so inside the value. -/
theorem beginsWith_of_readValue_succ
    (hitems : ∀ {depth vs text rest}, readItems [] fuel depth true text = .ok (vs, rest) →
      BeginsWithItems (depth - 1) true vs text rest)
    (hmembers : ∀ {depth pairs text rest}, readMembers [] fuel depth true text = .ok (pairs, rest) →
      BeginsWithMembers (depth - 1) true pairs text rest)
    (h : readValue [] (fuel + 1) depth text = .ok (v, rest)) : BeginsWith (depth - 1) v text rest := by
  rw [readValue] at h
  split at h
  · cases h
  rename_i c more hskip
  obtain ⟨gap, rfl⟩ := exists_gap_of_skipSpace hskip
  suffices hcore : ∃ core, c :: more = core ++ rest ∧ Spells (depth - 1) v core by
    obtain ⟨core, htext, hspells⟩ := hcore
    exact ⟨gap, core, by rw [htext], hspells⟩
  split at h
  · rename_i hc
    subst hc
    obtain ⟨after, hword, heq⟩ := exists_of_map_eq_ok h
    cases heq
    exact ⟨_, congrArg ('n' :: ·) (eq_append_of_readWord hword), .null _⟩
  split at h
  · rename_i hc
    subst hc
    obtain ⟨after, hword, heq⟩ := exists_of_map_eq_ok h
    cases heq
    exact ⟨_, congrArg ('t' :: ·) (eq_append_of_readWord hword), .bool _ true⟩
  split at h
  · rename_i hc
    subst hc
    obtain ⟨after, hword, heq⟩ := exists_of_map_eq_ok h
    cases heq
    exact ⟨_, congrArg ('f' :: ·) (eq_append_of_readWord hword), .bool _ false⟩
  split at h
  · rename_i hc
    subst hc
    obtain ⟨⟨n, after⟩, hnumber, heq⟩ := exists_of_map_eq_ok h
    cases heq
    obtain ⟨taken, rfl, htaken⟩ := exists_taken_of_readNumber hnumber
    exact ⟨_, rfl, .number _ htaken⟩
  split at h
  · obtain ⟨⟨n, after⟩, hnumber, heq⟩ := exists_of_map_eq_ok h
    cases heq
    obtain ⟨taken, htext, htaken⟩ := exists_taken_of_readNumber hnumber
    exact ⟨_, htext, .number _ htaken⟩
  split at h
  · rename_i hc
    subst hc
    rw [readCharacters_nil] at h
    obtain ⟨⟨cs, after⟩, hstring, heq⟩ := exists_of_map_eq_ok h
    cases heq
    obtain ⟨taken, rfl, htaken⟩ := exists_spellsString_of_readString hstring
    refine ⟨'"' :: (taken ++ ['"']), by simp, .string _ ?_⟩
    rwa [String.toList_ofList]
  split at h
  · rename_i hc
    subst hc
    split at h
    · cases h
    obtain ⟨⟨vs, after⟩, hread, heq⟩ := exists_of_map_eq_ok h
    cases heq
    obtain ⟨room, rfl⟩ : ∃ room, depth = room + 2 := ⟨depth - 2, by omega⟩
    obtain ⟨_, close, items, rfl, hspells, rfl⟩ := hitems hread
    exact ⟨_, rfl, .array items close hspells⟩
  split at h
  · rename_i hc
    subst hc
    split at h
    · cases h
    obtain ⟨⟨pairs, after⟩, hread, heq⟩ := exists_of_map_eq_ok h
    cases heq
    obtain ⟨room, rfl⟩ : ∃ room, depth = room + 2 := ⟨depth - 2, by omega⟩
    obtain ⟨_, close, members, rfl, hnames, hspells, rfl⟩ := hmembers hread
    exact ⟨_, rfl, .object members close hnames hspells⟩
  · cases h

/-- A text begins with what is read from it with some fuel: a value, the items of an array and the members of an
object. -/
theorem beginsWith_of_read (fuel : Nat) :
    (∀ {depth v text rest}, readValue [] fuel depth text = .ok (v, rest) → BeginsWith (depth - 1) v text rest) ∧
    (∀ {depth first vs text rest}, readItems [] fuel depth first text = .ok (vs, rest) →
      BeginsWithItems (depth - 1) first vs text rest) ∧
    ∀ {depth first pairs text rest}, readMembers [] fuel depth first text = .ok (pairs, rest) →
      BeginsWithMembers (depth - 1) first pairs text rest := by
  induction fuel with
  | zero => exact ⟨nofun, nofun, nofun⟩
  | succ fuel ih =>
      obtain ⟨hvalue, hitems, hmembers⟩ := ih
      refine ⟨beginsWith_of_readValue_succ hitems hmembers, fun {depth first vs text rest} h => ?_,
        fun {depth first pairs text rest} h => ?_⟩
      · rw [readItems] at h
        split at h
        · cases h
        · rename_i hnext
          cases h
          obtain ⟨close, rfl⟩ := exists_gap_of_nextItem_close hnext
          exact beginsWithItems_nil close _
        rename_i hnext
        obtain ⟨-, behind, before, rfl⟩ := exists_gap_of_nextItem hnext
        split at h
        · cases h
        rename_i hread
        obtain ⟨⟨others, _⟩, hothers, heq⟩ := exists_of_map_eq_ok h
        cases heq
        exact (hvalue hread).beginsWithItems (hitems hothers)
      · rw [readMembers] at h
        split at h
        · cases h
        · rename_i hnext
          cases h
          obtain ⟨close, rfl⟩ := exists_gap_of_nextName_close hnext
          exact beginsWithMembers_nil close _
        rename_i hnext
        obtain ⟨behind, before, nameText, hname, rfl⟩ := exists_spelled_of_nextName hnext
        split at h
        · cases h
        rename_i hcolon
        obtain ⟨behindName, rfl⟩ := exists_gap_of_colon hcolon
        split at h
        · cases h
        rename_i hread
        obtain ⟨⟨others, _⟩, hothers, heq⟩ := exists_of_map_eq_ok h
        cases heq
        exact (hvalue hread).beginsWithMembers hname (hmembers hothers)

/-- **Where a value is read**, one of its texts stands. -/
theorem beginsWith_of_readValue (h : readValue [] fuel depth text = .ok (v, rest)) :
    BeginsWith (depth - 1) v text rest :=
  (beginsWith_of_read fuel).1 h

end Values

/-! ### Whole texts -/

/-- Nothing but blanks is left behind what was read to the end of a text. -/
theorem exists_gap_of_finish {α : Type} {read v : α} (h : finish (read, rest) = .ok v) :
    read = v ∧ ∃ gap : Gap, rest = gap.text := by
  unfold finish at h
  dsimp only at h
  split at h
  · rename_i hskip
    obtain ⟨gap, rfl⟩ := exists_gap_of_skipSpace hskip
    exact ⟨Except.ok.inj h, gap, List.append_nil _⟩
  · cases h

/-! ### Values without floating point numbers -/

/-- Every number inside a value is an integer. -/
inductive Integral : Json → Prop
  | null : Integral .null
  | bool (b : Bool) : Integral (.bool b)
  | integer (i : Int) (inRange : InRange i) : Integral (.number (.integer i inRange))
  | string (s : String) : Integral (.string s)
  | array {items : List Json} (h : ∀ v ∈ items, Integral v) : Integral (.array items)
  | object {members : List (String × Json)} (h : ∀ member ∈ members, Integral member.2) : Integral (.object members)

/-- **A value that has a text** is plain, if its numbers are integers: its members ascend, and there is room for its
containers. -/
theorem Spells.plain {room : Nat} {v : Json} {core : Text} (h : Spells room v core) (hintegral : Integral v) :
    Plain room v := by
  induction h with
  | null => exact .null _
  | bool room b => exact .bool _ b
  | number =>
      cases hintegral with
      | integer i inRange => exact .integer _ i inRange
  | string => exact .string _ _
  | array items close _ ih =>
      cases hintegral with
      | array hitems =>
          exact .array (List.forall_mem_map.mpr fun item hitem => ih item hitem (hitems _ (List.mem_map_of_mem hitem)))
  | object members close _ _ ih =>
      cases hintegral with
      | object hmembers =>
          refine .object (ascending_sortMembers _) fun member hmember => ?_
          obtain ⟨written, hwritten, rfl⟩ := List.mem_map.mp (mem_of_mem_sortMembers hmember)
          exact ih written hwritten (hmembers _ hmember)

/-- There may always be more room in the texts of a value. -/
theorem Spells.succ {room : Nat} {v : Json} {core : Text} (h : Spells room v core) : Spells (room + 1) v core := by
  induction h with
  | null => exact .null _
  | bool room b => exact .bool _ b
  | number _ h => exact .number _ h
  | string _ h => exact .string _ h
  | array items close _ ih => exact .array items close ih
  | object members close hnames _ ih => exact .object members close hnames ih

/-- A text with room for some containers is one with room for more. -/
theorem Spells.mono {room more : Nat} {v : Json} {core : Text} (h : Spells room v core) (hle : room ≤ more) :
    Spells more v core := by
  induction hle with
  | refl => exact h
  | step _ ih => exact ih.succ

/-! ### One value at a place -/

section Place

variable {room more depth : Nat} {v w : Json} {other : Text}

/-- Where one of its texts stands, a value is read. -/
theorem BeginsWith.readValue_eq (h : BeginsWith room v text rest) (hrest : EndsInteger rest) (hdepth : room < depth) :
    readValue [] (fuelFor text) depth text = .ok (v, rest) := by
  obtain ⟨gap, core, rfl, hspells⟩ := h
  obtain ⟨depth, rfl⟩ : ∃ n, depth = n + 1 := ⟨depth - 1, by omega⟩
  rw [readValue_gap gap.blank]
  refine (hspells.mono (Nat.le_of_lt_succ hdepth)).readsAs ?_ hrest
  simp only [fuelFor, List.length_append]
  omega

/-- **Only one value stands at a place**, and only one text is behind it that does not go on with a number. -/
theorem BeginsWith.unique (h : BeginsWith room v text rest) (h' : BeginsWith more w text other)
    (hrest : EndsInteger rest) (hother : EndsInteger other) : v = w ∧ rest = other := by
  have hread := h.readValue_eq hrest (Nat.lt_succ_of_le (Nat.le_max_left room more))
  have hread' := h'.readValue_eq hother (Nat.lt_succ_of_le (Nat.le_max_right room more))
  exact Prod.mk.inj (Except.ok.inj (hread.symm.trans hread'))

/-- A string needs no room for containers. -/
theorem BeginsWith.of_string {s : String} (h : BeginsWith room (.string s) text rest) :
    BeginsWith 0 (.string s) text rest := by
  obtain ⟨gap, core, htext, hspells⟩ := h
  cases hspells with
  | string _ h => exact ⟨gap, _, htext, .string 0 h⟩

end Place

end StubServer.Json
