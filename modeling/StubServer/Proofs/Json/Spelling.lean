import StubServer.Proofs.Json.Layout
import StubServer.Proofs.Json.Number

/-!
# The texts of a value

A value has many texts. There may be blanks between its words, members may come in any order and more than
once, and the characters of a string may be escaped or not. `Spells` is the relation between a value and its
texts, up to a number of containers inside each other, and `Spelled` is the same for whole texts with blanks
around the value. Each such text is read as the value.

## Main statements

* `readItems_word`, `readMembers_word`: the next item of an array and the next member of an object are read.
* `Spells.readsAs`: a text of a value is read as the value, whatever is behind it.
* `Spelled.document_eq`: a whole text of a value is read as the value.
-/

namespace StubServer.Json

variable {room depth fuel : Nat} {v : Json} {core gap rest : Text}

/-! ### Texts with blanks -/

/-- Blanks between words. -/
structure Gap where
  text : Text
  blank : Blank text

/-- No blanks. -/
def Gap.none : Gap := ⟨[], fun _ h => absurd h List.not_mem_nil⟩

/-- One blank. -/
def Gap.one : Gap := ⟨[' '], by simp [Blank, isSpace]⟩

@[simp] theorem Gap.text_none : Gap.none.text = [] := rfl

@[simp] theorem Gap.text_one : Gap.one.text = [' '] := rfl

/-- A value as it is written, with blanks around it. -/
structure WrittenItem where
  before : Gap := .none
  value : Json
  core : Text
  behind : Gap := .none

/-- The text of an item. -/
def WrittenItem.text (item : WrittenItem) : Text :=
  item.before.text ++ (item.core ++ item.behind.text)

/-- A member of an object as it is written, with blanks around its name and its value. -/
structure WrittenMember where
  before : Gap := .none
  name : String
  nameText : Text
  behindName : Gap := .none
  item : WrittenItem

/-- The text of a member. -/
def WrittenMember.text (member : WrittenMember) : Text :=
  member.before.text ++
    ('"' :: (member.nameText ++ '"' :: (member.behindName.text ++ ':' :: member.item.text)))

/-- The member that is written. -/
def WrittenMember.member (member : WrittenMember) : String × Json :=
  (member.name, member.item.value)

/-- The ways to write a value with at most `room` containers inside each other. -/
inductive Spells : (room : Nat) → Json → Text → Prop
  | null (room : Nat) : Spells room .null ['n', 'u', 'l', 'l']
  | bool (room : Nat) (b : Bool) : Spells room (.bool b) (boolText b)
  /-- The text of a number is one that is read as it where it stands alone. -/
  | number (room : Nat) {negative : Bool} {text : Text} {n : Number}
      (h : readNumber negative text = .ok (n, [])) :
      Spells room (.number n) ((if negative then ['-'] else []) ++ text)
  | string (room : Nat) {s : String} {text : Text} (h : SpellsString s.toList text) :
      Spells room (.string s) ('"' :: (text ++ ['"']))
  | array {room : Nat} (items : List WrittenItem) (close : Gap)
      (h : ∀ item ∈ items, Spells room item.value item.core) :
      Spells (room + 1) (.array (items.map WrittenItem.value))
        ('[' :: listed [] close.text ']' WrittenItem.text true items)
  | object {room : Nat} (members : List WrittenMember) (close : Gap)
      (hnames : ∀ member ∈ members, SpellsString member.name.toList member.nameText)
      (h : ∀ member ∈ members, Spells room member.item.value member.item.core) :
      Spells (room + 1) (.ofMembers (members.map WrittenMember.member))
        ('\x7b' :: listed [] close.text '\x7d' WrittenMember.text true members)

/-- A whole text is one of a value, with blanks around it and no more containers inside each other than
may be read. -/
def Spelled (v : Json) (text : Text) : Prop :=
  ∃ item : WrittenItem, item.value = v ∧ item.text = text ∧ Spells (depthLimit - 1) v item.core

/-! ### What stands where -/

/-- A text starts with what is neither blank nor the end of an array. -/
def Starts (core : Text) : Prop :=
  ∃ c more, core = c :: more ∧ isSpace c = false ∧ c ≠ ']'

/-- Such a text is not empty. -/
theorem Starts.length_pos (h : Starts core) : 0 < core.length := by
  obtain ⟨c, more, rfl, -⟩ := h
  exact Nat.succ_pos _

/-- The text of a value starts like one. -/
theorem Spells.starts (h : Spells room v core) : Starts core := by
  cases h with
  | null => exact ⟨'n', _, rfl, by decide, by decide⟩
  | bool _ b => cases b <;> exact ⟨_, _, rfl, by decide, by decide⟩
  | @number _ negative text n h =>
      cases negative with
      | true => exact ⟨'-', _, rfl, by decide, by decide⟩
      | false =>
          obtain ⟨c, more, rfl, hc, -⟩ := exists_of_readNumber_eq_ok h
          exact ⟨c, more, rfl, isSpace_eq_false (.inr hc), ne_of_isDigit hc (by decide)⟩
  | string => exact ⟨'"', _, rfl, by decide, by decide⟩
  | array => exact ⟨'[', _, rfl, by decide, by decide⟩
  | object => exact ⟨'\x7b', _, rfl, by decide, by decide⟩

/-- Blanks do not go on with a number. -/
theorem EndsInteger.append (hgap : Blank gap) (hrest : EndsInteger rest) : EndsInteger (gap ++ rest) := by
  cases gap with
  | nil => exact hrest
  | cons c gap =>
      rintro _ ⟨⟩
      exact goesOn_of_isSpace (hgap c List.mem_cons_self)

/-- Blanks before a value are skipped. -/
theorem readValue_gap (hgap : Blank gap) (fuel depth : Nat) (text : Text) :
    readValue [] fuel depth (gap ++ text) = readValue [] fuel depth text := by
  cases fuel with
  | zero => rfl
  | succ fuel => rw [readValue, readValue, skipSpace_append hgap]

/-- Blanks before an item, or before the comma in front of it, are skipped. -/
theorem nextItem_gap (hgap : Blank gap) (first : Bool) (text : Text) :
    nextItem first (gap ++ text) = nextItem first text := by
  rw [nextItem, nextItem, skipSpace_append hgap]

/-- Blanks before a member, or before the comma in front of it, are skipped. -/
theorem nextName_gap (hgap : Blank gap) (first : Bool) (text : Text) :
    nextName [] first (gap ++ text) = nextName [] first text := by
  unfold nextName
  rw [skipSpace_append hgap]

/-- Blanks before the items that are left are skipped. -/
theorem readItems_gap (hgap : Blank gap) (fuel depth : Nat) (first : Bool) (text : Text) :
    readItems [] fuel depth first (gap ++ text) = readItems [] fuel depth first text := by
  cases fuel with
  | zero => rfl
  | succ fuel => rw [readItems, readItems, nextItem_gap hgap]

/-- Blanks before the members that are left are skipped. -/
theorem readMembers_gap (hgap : Blank gap) (fuel depth : Nat) (first : Bool) (text : Text) :
    readMembers [] fuel depth first (gap ++ text) = readMembers [] fuel depth first text := by
  cases fuel with
  | zero => rfl
  | succ fuel => rw [readMembers, readMembers, nextName_gap hgap]

/-! ### Reading -/

/-- A text is read as a value, if there is fuel for twice its length. -/
def ReadsAs (depth : Nat) (v : Json) (core : Text) : Prop :=
  ∀ ⦃fuel : Nat⦄ ⦃rest : Text⦄, 2 * core.length ≤ fuel → EndsInteger rest →
    readValue [] fuel depth (core ++ rest) = .ok (v, rest)

/-- To be read, a text needs some fuel. -/
theorem readsAs_of_succ {c : Char} {more : Text}
    (h : ∀ fuel rest, 2 * more.length < fuel → EndsInteger rest →
      readValue [] (fuel + 1) depth (c :: (more ++ rest)) = .ok (v, rest)) : ReadsAs depth v (c :: more) := by
  intro fuel rest hfuel hrest
  rw [List.length_cons] at hfuel
  obtain ⟨fuel, rfl⟩ : ∃ n, fuel = n + 1 := ⟨fuel - 1, by omega⟩
  exact h fuel rest (by omega) hrest

/-- Null is read. -/
theorem readsAs_null : ReadsAs depth .null ['n', 'u', 'l', 'l'] := by
  refine readsAs_of_succ fun fuel rest _ _ => ?_
  rw [readValue, skipSpace, List.dropWhile_cons_of_neg (by decide)]
  simp only [if_true, readWord_append]
  rfl

/-- A truth value is read. -/
theorem readsAs_bool (b : Bool) : ReadsAs depth (.bool b) (boolText b) := by
  cases b with
  | true =>
      refine readsAs_of_succ fun fuel rest _ _ => ?_
      rw [readValue, skipSpace, List.dropWhile_cons_of_neg (by decide)]
      simp [readWord, Except.map]
  | false =>
      refine readsAs_of_succ fun fuel rest _ _ => ?_
      rw [readValue, skipSpace, List.dropWhile_cons_of_neg (by decide)]
      simp [readWord, Except.map]

/-- A number is read. -/
theorem readsAs_number {negative : Bool} {text : Text} {n : Number}
    (h : readNumber negative text = .ok (n, [])) :
    ReadsAs depth (.number n) ((if negative then ['-'] else []) ++ text) := by
  cases negative with
  | true =>
      refine readsAs_of_succ fun fuel rest _ hrest => ?_
      rw [readValue, skipSpace, List.dropWhile_cons_of_neg (by decide)]
      simp [readNumber_append h hrest, Except.map]
  | false =>
      obtain ⟨c, more, rfl, hc, -⟩ := exists_of_readNumber_eq_ok h
      refine readsAs_of_succ fun fuel rest _ hrest => ?_
      have hread := readNumber_append h hrest
      have hn : c ≠ 'n' := ne_of_isDigit hc (by decide)
      have ht : c ≠ 't' := ne_of_isDigit hc (by decide)
      have hf : c ≠ 'f' := ne_of_isDigit hc (by decide)
      have hminus : c ≠ '-' := ne_of_isDigit hc (by decide)
      rw [List.cons_append] at hread
      rw [readValue, skipSpace, List.dropWhile_cons_of_neg (by simp [isSpace_eq_false (.inr hc)])]
      simp [hn, ht, hf, hminus, hc, hread, Except.map]

/-- A string is read. -/
theorem readsAs_string {s : String} {text : Text} (h : SpellsString s.toList text) :
    ReadsAs depth (.string s) ('"' :: (text ++ ['"'])) := by
  refine readsAs_of_succ fun fuel rest _ _ => ?_
  rw [readValue, skipSpace, List.dropWhile_cons_of_neg (by decide)]
  simp [h.readString_append, Except.map, isDigit]

/-- A value with blanks around it is read. -/
theorem ReadsAs.readValue_item {item : WrittenItem} (h : ReadsAs depth item.value item.core)
    (hfuel : 2 * item.core.length ≤ fuel) (hrest : EndsInteger rest) :
    readValue [] fuel depth (item.text ++ rest) = .ok (item.value, item.behind.text ++ rest) := by
  rw [WrittenItem.text, List.append_assoc, List.append_assoc, readValue_gap item.before.blank]
  exact h hfuel (.append item.behind.blank hrest)

/-- The next item of an array is read. -/
theorem readItems_word {item : WrittenItem} (hstart : Starts item.core)
    (hread : ReadsAs depth item.value item.core) (first : Bool) (hfuel : 2 * item.core.length ≤ fuel)
    (hrest : EndsInteger rest) :
    readItems [] (fuel + 1) depth first ((if first then [] else [',']) ++ (item.text ++ rest)) =
      (readItems [] fuel depth false rest).map fun r => (item.value :: r.1, r.2) := by
  obtain ⟨c, more, hcore, hspace, hbracket⟩ := hstart
  have hnext := nextItem_word first item.before.blank hspace hbracket (more ++ (item.behind.text ++ rest))
  have hvalue := hread hfuel (.append item.behind.blank hrest)
  rw [hcore, List.cons_append] at hvalue
  simp only [WrittenItem.text, hcore, List.append_assoc, List.cons_append]
  rw [readItems, hnext]
  simp only [hvalue, readItems_gap item.behind.blank]

/-- The items of an array are read. -/
theorem readItems_listed {items : List WrittenItem} {close : Gap}
    (hstart : ∀ item ∈ items, Starts item.core)
    (hread : ∀ item ∈ items, ReadsAs depth item.value item.core) (first : Bool)
    (hfuel : 2 * (listed [] close.text ']' WrittenItem.text first items).length ≤ fuel) (rest : Text) :
    readItems [] fuel depth first (listed [] close.text ']' WrittenItem.text first items ++ rest) =
      .ok (items.map WrittenItem.value, rest) := by
  induction items generalizing fuel first with
  | nil =>
      obtain ⟨fuel, rfl⟩ : ∃ n, fuel = n + 1 := ⟨fuel - 1, by simp [listed] at hfuel; omega⟩
      simp only [listed, List.append_assoc, List.singleton_append]
      rw [readItems, nextItem_close first close.blank]
      rfl
  | cons item items ih =>
      rw [List.forall_mem_cons] at hstart hread
      have hpositive := hstart.1.length_pos
      have hlength := length_lt_listed [] close.text ']' WrittenItem.text items
      simp only [listed, WrittenItem.text, List.length_append, List.nil_append] at hfuel
      obtain ⟨fuel, rfl⟩ : ∃ n, fuel = n + 1 := ⟨fuel - 1, by omega⟩
      have hends : EndsInteger (listed [] close.text ']' WrittenItem.text false items ++ rest) :=
        endsInteger_listed close.blank (by decide) items rest
      have hword := readItems_word hstart.1 hread.1 first (show 2 * item.core.length ≤ fuel by omega) hends
      have hothers := @ih fuel hstart.2 hread.2 false (by omega)
      simp only [listed, List.nil_append, List.append_assoc]
      rw [hword, hothers]
      rfl

/-- The next member of an object is read. -/
theorem readMembers_word {member : WrittenMember} (hname : SpellsString member.name.toList member.nameText)
    (hread : ReadsAs depth member.item.value member.item.core) (first : Bool)
    (hfuel : 2 * member.item.core.length ≤ fuel) (hrest : EndsInteger rest) :
    readMembers [] (fuel + 1) depth first ((if first then [] else [',']) ++ (member.text ++ rest)) =
      (readMembers [] fuel depth false rest).map fun r => (member.member :: r.1, r.2) := by
  have hnext := nextName_spelled first member.before.blank hname
    (member.behindName.text ++ ':' :: (member.item.text ++ rest))
  have hcolon := colon_append member.behindName.blank (member.item.text ++ rest)
  simp only [WrittenMember.text, List.append_assoc, List.cons_append]
  rw [readMembers, hnext]
  simp only [hcolon, hread.readValue_item hfuel hrest, readMembers_gap member.item.behind.blank]
  rfl

/-- The members of an object are read. -/
theorem readMembers_listed {members : List WrittenMember} {close : Gap}
    (hnames : ∀ member ∈ members, SpellsString member.name.toList member.nameText)
    (hread : ∀ member ∈ members, ReadsAs depth member.item.value member.item.core) (first : Bool)
    (hfuel : 2 * (listed [] close.text '\x7d' WrittenMember.text first members).length ≤ fuel)
    (rest : Text) :
    readMembers [] fuel depth first (listed [] close.text '\x7d' WrittenMember.text first members ++ rest) =
      .ok (members.map WrittenMember.member, rest) := by
  induction members generalizing fuel first with
  | nil =>
      obtain ⟨fuel, rfl⟩ : ∃ n, fuel = n + 1 := ⟨fuel - 1, by simp [listed] at hfuel; omega⟩
      simp only [listed, List.append_assoc, List.singleton_append]
      rw [readMembers, nextName_close first close.blank]
      rfl
  | cons member members ih =>
      rw [List.forall_mem_cons] at hnames hread
      simp only [listed, WrittenMember.text, WrittenItem.text, List.length_append, List.length_cons,
        List.nil_append] at hfuel
      obtain ⟨fuel, rfl⟩ : ∃ n, fuel = n + 1 := ⟨fuel - 1, by omega⟩
      have hends : EndsInteger (listed [] close.text '\x7d' WrittenMember.text false members ++ rest) :=
        endsInteger_listed close.blank (by decide) members rest
      have hword := readMembers_word hnames.1 hread.1 first
        (show 2 * member.item.core.length ≤ fuel by omega) hends
      have hothers := @ih fuel hnames.2 hread.2 false (by omega)
      simp only [listed, List.nil_append, List.append_assoc]
      rw [hword, hothers]
      rfl

/-- An array is read if its items are. -/
theorem readsAs_array {items : List WrittenItem} (close : Gap) (hstart : ∀ item ∈ items, Starts item.core)
    (hread : ∀ item ∈ items, ReadsAs (room + 1) item.value item.core) :
    ReadsAs (room + 2) (.array (items.map WrittenItem.value))
      ('[' :: listed [] close.text ']' WrittenItem.text true items) := by
  refine readsAs_of_succ fun fuel rest hfuel _ => ?_
  have hitems := readItems_listed hstart hread true (Nat.le_of_lt hfuel) rest
  rw [readValue, skipSpace, List.dropWhile_cons_of_neg (by decide)]
  simp [hitems, Except.map, isDigit]

/-- An object is read if its members are. -/
theorem readsAs_object {members : List WrittenMember} (close : Gap)
    (hnames : ∀ member ∈ members, SpellsString member.name.toList member.nameText)
    (hread : ∀ member ∈ members, ReadsAs (room + 1) member.item.value member.item.core) :
    ReadsAs (room + 2) (.ofMembers (members.map WrittenMember.member))
      ('\x7b' :: listed [] close.text '\x7d' WrittenMember.text true members) := by
  refine readsAs_of_succ fun fuel rest hfuel _ => ?_
  have hmembers := readMembers_listed hnames hread true (Nat.le_of_lt hfuel) rest
  rw [readValue, skipSpace, List.dropWhile_cons_of_neg (by decide)]
  simp [hmembers, Except.map, isDigit]

/-- **A text of a value is read as the value.** -/
theorem Spells.readsAs (h : Spells room v core) : ReadsAs (room + 1) v core := by
  induction h with
  | null room => exact readsAs_null
  | bool room b => exact readsAs_bool b
  | number room h => exact readsAs_number h
  | string room h => exact readsAs_string h
  | array items close h ih => exact readsAs_array close (fun item hitem => (h item hitem).starts) ih
  | object members close hnames h ih => exact readsAs_object close hnames ih

/-- Nothing ends a number. -/
theorem endsInteger_nil : EndsInteger [] := by
  rintro _ ⟨⟩

/-- **A whole text of a value is read as the value.** -/
theorem Spelled.document_eq {text : Text} (h : Spelled v text) : document text = .ok v := by
  obtain ⟨item, rfl, rfl, hspells⟩ := h
  have hfuel : 2 * item.core.length ≤ fuelFor item.text := by
    simp only [fuelFor, WrittenItem.text, List.length_append]
    omega
  have hread : readValue [] (fuelFor item.text) depthLimit (item.text ++ []) =
      .ok (item.value, item.behind.text ++ []) := hspells.readsAs.readValue_item hfuel endsInteger_nil
  rw [List.append_nil, List.append_nil] at hread
  have hend : skipSpace item.behind.text = [] := by
    simpa [skipSpace] using skipSpace_append item.behind.blank []
  rw [document, hread, ok_bind, finish, hend]

end StubServer.Json
