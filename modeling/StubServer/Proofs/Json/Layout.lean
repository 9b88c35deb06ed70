import StubServer.Json.Write
import StubServer.Proofs.Json.Source

/-!
# Where the words stand

The compact and the pretty text of a value differ in nothing but blanks. Items and members are laid out in
one way, with commas between them and a bracket at the end (`listed`); the two texts are that with no blanks
and with line ends.

## Main statements

* `compact_array`, `compact_object`, `pretty_array`, `pretty_object`: the two texts as laid out.
* `endsInteger_listed`: after a number, the layout does not go on with it.
* `nextItem_word`, `nextItem_close`, `nextName_spelled`, `nextName_close`: the words are found.
-/

namespace StubServer.Json

variable {α : Type} {gap close rest : Text} {word : α → Text}

/-- Words behind blanks, with commas between them, and the bracket that closes them behind blanks of its
own. A first word has no comma before it. -/
def listed (gap close : Text) (bracket : Char) (word : α → Text) : (first : Bool) → List α → Text
  | _, [] => close ++ [bracket]
  | first, a :: rest =>
    (if first then [] else [',']) ++ (gap ++ (word a ++ listed gap close bracket word false rest))

/-- A member as a word, with blanks after its colon. -/
def memberText (gap : Text) (text : Json → Text) (member : String × Json) : Text :=
  stringText member.1 ++ ':' :: (gap ++ text member.2)

/-! ### The two texts -/

/-- Items without blanks. -/
theorem compactItems_eq (items : List Json) :
    compactItems items = listed [] [] ']' compact false items := by
  induction items with
  | nil => simp [compactItems, listed]
  | cons v items ih => simp [compactItems, listed, ih]

/-- Members without blanks. -/
theorem compactMembers_eq (members : List (String × Json)) :
    compactMembers members = listed [] [] '\x7d' (memberText [] compact) false members := by
  induction members with
  | nil => simp [compactMembers, listed]
  | cons member members ih => simp [compactMembers, listed, memberText, ih]

/-- Items on lines of their own. -/
theorem prettyItems_eq (level : Nat) (items : List Json) :
    prettyItems level items =
      listed (newline (level + 1)) (newline level) ']' (pretty (level + 1)) false items := by
  induction items with
  | nil => simp [prettyItems, listed]
  | cons v items ih => simp [prettyItems, listed, ih]

/-- Members on lines of their own. -/
theorem prettyMembers_eq (level : Nat) (members : List (String × Json)) :
    prettyMembers level members =
      listed (newline (level + 1)) (newline level) '\x7d' (memberText [' '] (pretty (level + 1))) false
        members := by
  induction members with
  | nil => simp [prettyMembers, listed]
  | cons member members ih => simp [prettyMembers, listed, memberText, ih]

/-- **The compact text of an array.** -/
theorem compact_array (items : List Json) :
    compact (.array items) = '[' :: listed [] [] ']' compact true items := by
  cases items with
  | nil => simp [compact, listed]
  | cons v items => simp [compact, listed, compactItems_eq]

/-- **The compact text of an object.** -/
theorem compact_object (members : List (String × Json)) :
    compact (.object members) =
      '\x7b' :: listed [] [] '\x7d' (memberText [] compact) true members := by
  cases members with
  | nil => simp [compact, listed]
  | cons member members => simp [compact, listed, memberText, compactMembers_eq]

/-- **The pretty text of an array** that is not empty. -/
theorem pretty_array (level : Nat) {items : List Json} (h : items ≠ []) :
    pretty level (.array items) =
      '[' :: listed (newline (level + 1)) (newline level) ']' (pretty (level + 1)) true items := by
  cases items with
  | nil => exact absurd rfl h
  | cons v items => simp [pretty, listed, prettyItems_eq]

/-- **The pretty text of an object** that is not empty. -/
theorem pretty_object (level : Nat) {members : List (String × Json)} (h : members ≠ []) :
    pretty level (.object members) =
      '\x7b' :: listed (newline (level + 1)) (newline level) '\x7d'
        (memberText [' '] (pretty (level + 1))) true members := by
  cases members with
  | nil => exact absurd rfl h
  | cons member members => simp [pretty, listed, memberText, prettyMembers_eq]

/-! ### What the layout adds -/

/-- A layout ends with its bracket. -/
theorem exists_listed (gap close : Text) (bracket : Char) (word : α → Text) (first : Bool) (as : List α) :
    ∃ others, listed gap close bracket word first as = others ++ [bracket] := by
  induction as generalizing first with
  | nil => exact ⟨close, rfl⟩
  | cons a as ih =>
      obtain ⟨others, hothers⟩ := ih false
      exact ⟨(if first then [] else [',']) ++ (gap ++ (word a ++ others)), by simp [listed, hothers]⟩

/-- Line ends are blank. -/
theorem blank_newline (level : Nat) : Blank (newline level) := by
  intro c hc
  rcases List.mem_cons.mp hc with rfl | hc
  · decide
  · obtain rfl := List.eq_of_mem_replicate hc
    decide

/-- No blank goes on with a number. -/
theorem goesOn_of_isSpace {c : Char} (h : isSpace c = true) : goesOn c = false := by
  simp only [isSpace, Bool.or_eq_true, beq_iff_eq] at h
  rcases h with ((rfl | rfl) | rfl) | rfl <;> decide

/-- **What follows a word** in a layout does not go on with a number. -/
theorem endsInteger_listed (hclose : Blank close) {bracket : Char} (hbracket : goesOn bracket = false)
    (as : List α) (rest : Text) :
    EndsInteger (listed gap close bracket word false as ++ rest) := by
  cases as with
  | nil =>
      cases close with
      | nil =>
          rintro _ ⟨⟩
          exact hbracket
      | cons c close =>
          rintro _ ⟨⟩
          exact goesOn_of_isSpace (hclose c List.mem_cons_self)
  | cons a as =>
      rintro _ ⟨⟩
      decide

/-- A layout has at least one character for each word and one for the bracket, unless the first word has no
comma. -/
theorem length_lt_listed (gap close : Text) (bracket : Char) (word : α → Text) (as : List α) :
    as.length < (listed gap close bracket word false as).length := by
  induction as with
  | nil => simp [listed]
  | cons a as ih =>
      simp [listed]
      omega

/-- A layout has no less characters than words. -/
theorem length_le_listed (gap close : Text) (bracket : Char) (word : α → Text) (as : List α) :
    as.length ≤ (listed gap close bracket word true as).length := by
  cases as with
  | nil => exact Nat.zero_le _
  | cons a as =>
      have hothers := length_lt_listed gap close bracket word as
      simp [listed]
      omega

/-- Words made from others are laid out alike. -/
theorem listed_map {β : Type} (gap close : Text) (bracket : Char) (word : α → Text) (f : β → α)
    (first : Bool) (bs : List β) :
    listed gap close bracket word first (bs.map f) =
      listed gap close bracket (fun b => word (f b)) first bs := by
  induction bs generalizing first with
  | nil => rfl
  | cons b bs ih => rw [List.map_cons, listed, listed, ih]

/-! ### Finding the words -/

/-- The next item of an array is found. -/
theorem nextItem_word (first : Bool) (hgap : Blank gap) {c : Char} (hc : isSpace c = false)
    (hbracket : c ≠ ']') (rest : Text) :
    nextItem first ((if first then [] else [',']) ++ (gap ++ c :: rest)) = .ok (true, c :: rest) := by
  have hskip := skipSpace_append_cons hgap hc rest
  cases first with
  | true => simp [nextItem, hskip, hbracket]
  | false =>
      have hcomma : skipSpace (',' :: (gap ++ c :: rest)) = ',' :: (gap ++ c :: rest) := rfl
      simp [nextItem, hcomma, hskip, hbracket]

/-- The end of an array is found. -/
theorem nextItem_close (first : Bool) (hclose : Blank close) (rest : Text) :
    nextItem first (close ++ ']' :: rest) = .ok (false, rest) := by
  simp [nextItem, skipSpace_append_cons hclose (show isSpace ']' = false by decide)]

/-- The name of the next member of an object is found, however it is written. -/
theorem nextName_spelled (first : Bool) (hgap : Blank gap) {name : String} {nameText : Text}
    (hname : SpellsString name.toList nameText) (rest : Text) :
    nextName [] first ((if first then [] else [',']) ++ (gap ++ ('"' :: (nameText ++ '"' :: rest)))) =
      .ok (some name, rest) := by
  have hskip := skipSpace_append_cons hgap (show isSpace '"' = false by decide) (nameText ++ '"' :: rest)
  cases first with
  | true => simp [nextName, hskip, hname.readString_append, Except.map]
  | false =>
      have hcomma : ∀ text, skipSpace (',' :: text) = ',' :: text := fun _ => rfl
      simp [nextName, hcomma, hskip, hname.readString_append, Except.map]

/-- The name of the next member of an object is found. -/
theorem nextName_word (first : Bool) (hgap : Blank gap) (name : String) (rest : Text) :
    nextName [] first ((if first then [] else [',']) ++ (gap ++ (stringText name ++ rest))) =
      .ok (some name, rest) := by
  rw [stringText_append]
  exact nextName_spelled first hgap (spellsString_escape name.toList) rest

/-- The end of an object is found. -/
theorem nextName_close (first : Bool) (hclose : Blank close) (rest : Text) :
    nextName [] first (close ++ '\x7d' :: rest) = .ok (none, rest) := by
  simp [nextName, skipSpace_append_cons hclose (show isSpace '\x7d' = false by decide)]

/-- The colon after a name is found. -/
theorem colon_append (hgap : Blank gap) (rest : Text) : colon (gap ++ ':' :: rest) = .ok rest := by
  simp [colon, skipSpace_append_cons hgap (show isSpace ':' = false by decide)]

/-- The colon right after a name is found. -/
theorem colon_cons (rest : Text) : colon (':' :: rest) = .ok rest :=
  rfl

end StubServer.Json
