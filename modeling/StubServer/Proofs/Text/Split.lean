import StubServer.Text.Split

/-!
# Texts that are cut apart

A text is cut in one way at the first occurrence of a mark (`append_cons_inj`), and this is where `cut` cuts it
(`cut_append_cons`, `eq_append_cons_of_cut`).

The pieces of a text, between the occurrences of a mark: there are no marks in them (`notMem_of_mem_pieces`), those
before a mark and those after it are all of them (`pieces_append_cons`), the first is all that comes before a mark
(`pieces_append`), and it is empty exactly where the text begins with one (`pieces_eq_nil_cons_iff`). Texts without
marks that are put together with a mark between them are the pieces again (`pieces_intercalate`).

A text occurs in another if it is a part of it (`occursIn_iff`).
-/

namespace StubServer

variable {mark : Char} {text left right piece : List Char}

/-! ### The first occurrence of a mark -/

/-- After the first occurrence of a mark comes all that comes after others. -/
theorem isSuffix_of_append_cons {left' right' : List Char} (h : mark ∉ left)
    (heq : left ++ mark :: right = left' ++ mark :: right') : right' <:+ right := by
  induction left generalizing left' with
  | nil =>
      cases left' with
      | nil => exact List.tail_eq_of_cons_eq heq ▸ List.suffix_refl _
      | cons c left' =>
          rw [List.tail_eq_of_cons_eq heq]
          exact (List.suffix_cons mark right').trans (List.suffix_append left' _)
  | cons c left ih =>
      obtain ⟨hc, hleft⟩ := not_or.mp (mt List.mem_cons.mpr h)
      cases left' with
      | nil => exact absurd (List.head_eq_of_cons_eq heq).symm hc
      | cons c' left' => exact ih hleft (List.tail_eq_of_cons_eq heq)

/-- A text is cut in one way at the first occurrence of a mark. -/
theorem append_cons_inj {left' right' : List Char} (h : mark ∉ left) (h' : mark ∉ left')
    (heq : left ++ mark :: right = left' ++ mark :: right') : left = left' ∧ right = right' := by
  obtain rfl : right = right' := (isSuffix_of_append_cons h' heq.symm).eq_of_length_le
    (isSuffix_of_append_cons h heq).length_le
  exact ⟨List.append_cancel_right heq, rfl⟩

/-- A text is cut where its first mark is. -/
theorem cut_append_cons (h : mark ∉ left) (right : List Char) :
    cut mark (left ++ mark :: right) = (left, some right) := by
  induction left with
  | nil => exact if_pos rfl
  | cons c left ih =>
      obtain ⟨hc, hleft⟩ := not_or.mp (mt List.mem_cons.mpr h)
      rw [List.cons_append, cut, if_neg (Ne.symm hc), ih hleft]

/-- A text without marks is not cut. -/
theorem cut_eq_of_notMem (h : mark ∉ text) : cut mark text = (text, none) := by
  induction text with
  | nil => rfl
  | cons c text ih =>
      obtain ⟨hc, htext⟩ := not_or.mp (mt List.mem_cons.mpr h)
      rw [cut, if_neg (Ne.symm hc), ih htext]

/-- Before the place where a text is cut there is no mark. -/
theorem eq_append_cons_of_cut (h : cut mark text = (left, some right)) :
    text = left ++ mark :: right ∧ mark ∉ left := by
  induction text generalizing left with
  | nil => cases h
  | cons c text ih =>
      rw [cut] at h
      split at h
      · rename_i hc
        cases h
        exact ⟨hc ▸ rfl, List.not_mem_nil⟩
      · rename_i hc
        obtain ⟨rfl, hafter⟩ := Prod.mk.inj h
        obtain ⟨htext, hmem⟩ := ih (Prod.ext rfl hafter)
        exact ⟨congrArg (c :: ·) htext, List.not_mem_cons_of_ne_of_not_mem (Ne.symm hc) hmem⟩

/-! ### All occurrences of a mark -/

/-- There is at least one piece. -/
theorem exists_pieces (mark : Char) (text : List Char) : ∃ piece more, pieces mark text = piece :: more := by
  cases text with
  | nil => exact ⟨[], [], rfl⟩
  | cons c rest =>
      rw [pieces]
      split
      · exact ⟨_, _, rfl⟩
      · split <;> exact ⟨_, _, rfl⟩

/-- A mark begins a piece. -/
theorem pieces_cons_mark (text : List Char) : pieces mark (mark :: text) = [] :: pieces mark text := by
  simp [pieces]

/-- Any other character belongs to the first piece. -/
theorem pieces_cons_of_ne {c : Char} (hne : c ≠ mark) {more : List (List Char)}
    (h : pieces mark text = piece :: more) : pieces mark (c :: text) = (c :: piece) :: more := by
  simp [pieces, hne, h]

/-- The pieces before a mark and those after it. -/
theorem pieces_append_cons (mark : Char) (left right : List Char) :
    pieces mark (left ++ mark :: right) = pieces mark left ++ pieces mark right := by
  induction left with
  | nil => exact pieces_cons_mark right
  | cons c left ih =>
      by_cases hc : c = mark
      · subst hc
        rw [List.cons_append, pieces_cons_mark, pieces_cons_mark, ih, List.cons_append]
      · obtain ⟨piece, more, hleft⟩ := exists_pieces mark left
        rw [hleft, List.cons_append] at ih
        rw [List.cons_append, pieces_cons_of_ne hc ih, pieces_cons_of_ne hc hleft, List.cons_append]

/-- A text without marks is the first piece, up to where another begins. -/
theorem pieces_append (hleft : mark ∉ left) {more : List (List Char)} (h : pieces mark right = [] :: more) :
    pieces mark (left ++ right) = left :: more := by
  induction left with
  | nil => exact h
  | cons c rest ih =>
      have hc : c ≠ mark := fun hc => hleft (hc ▸ List.mem_cons_self)
      exact pieces_cons_of_ne hc (ih fun hmem => hleft (List.mem_cons_of_mem c hmem))

/-- **Texts with a mark between them** are the pieces, if there are no marks in them. -/
theorem pieces_intercalate {parts : List (List Char)} (hparts : ∀ part ∈ parts, mark ∉ part) (hne : parts ≠ []) :
    pieces mark ([mark].intercalate parts) = parts := by
  induction parts with
  | nil => exact absurd rfl hne
  | cons part more ih =>
      obtain ⟨hpart, hmore⟩ := List.forall_mem_cons.mp hparts
      cases more with
      | nil =>
          have hlast := pieces_append hpart (show pieces mark [] = [] :: [] from rfl)
          rw [List.append_nil] at hlast
          rwa [List.intercalate_singleton]
      | cons next more =>
          have hrest := ih hmore (List.cons_ne_nil _ _)
          rw [List.intercalate_cons_cons, List.append_assoc, List.singleton_append]
          exact pieces_append hpart ((pieces_cons_mark _).trans (congrArg ([] :: ·) hrest))

/-- There are no marks in the pieces. -/
theorem notMem_of_mem_pieces (h : piece ∈ pieces mark text) : mark ∉ piece := by
  induction text generalizing piece with
  | nil => simp_all [pieces]
  | cons c rest ih =>
      obtain ⟨first, more, hpieces⟩ := exists_pieces mark rest
      by_cases hc : c = mark
      · rw [hc, pieces_cons_mark] at h
        rcases List.mem_cons.mp h with rfl | h
        · exact List.not_mem_nil
        · exact ih h
      · rw [pieces_cons_of_ne hc hpieces] at h
        rcases List.mem_cons.mp h with rfl | h
        · intro hmem
          rcases List.mem_cons.mp hmem with rfl | hmem
          · exact hc rfl
          · exact ih (hpieces ▸ List.mem_cons_self) hmem
        · exact ih (hpieces ▸ List.mem_cons_of_mem _ h)

/-- The first piece is empty exactly if the text begins with a mark, if with anything. -/
theorem pieces_eq_nil_cons_iff (mark : Char) (text : List Char) :
    (∃ more, pieces mark text = [] :: more) ↔ text.head?.getD mark = mark := by
  cases text with
  | nil => exact iff_of_true ⟨[], rfl⟩ rfl
  | cons c rest =>
      obtain ⟨first, others, hpieces⟩ := exists_pieces mark rest
      by_cases hc : c = mark
      · subst hc
        exact iff_of_true ⟨_, pieces_cons_mark rest⟩ rfl
      · refine iff_of_false ?_ hc
        rintro ⟨more, hmore⟩
        cases (pieces_cons_of_ne hc hpieces).symm.trans hmore

/-! ### Parts -/

/-- **A text occurs in another** if it stands somewhere in it, with something before and behind. -/
theorem occursIn_iff {needle : List Char} : occursIn needle text = true ↔ needle <:+: text := by
  induction text with
  | nil => rw [occursIn, List.isEmpty_iff, List.infix_nil]
  | cons c text ih => rw [occursIn, Bool.or_eq_true, List.isPrefixOf_iff_prefix, ih, List.infix_cons_iff]

end StubServer
