import StubServer.Regex.Pattern

/-!
# Escapes are read locally

The readers of patterns go through a text from left to right. What one of them takes is a beginning of the text, and
what comes after it makes no difference: put before any other text, the same beginning is read in the same way. A
reader for which this holds is `Local`.

Readers that look at the character after what they take, to see where they end, are local only where what follows
begins alike. After the letter of a word boundary this is a brace and what comes after it (`braceAhead`).

## Main statements

* `Flags.exists_skipped_of_skip`: what means nothing is skipped before any text.
* `local_readBraced`, `local_readCodePoint`, `local_readProperty`: texts in braces, numbers and properties are local.
* `exists_taken_of_readEscape`, `exists_taken_of_readSingle`: escapes and single characters are, up to what is ahead.
-/

namespace StubServer.Regex

variable {flags : Flags} {rest text taken more inner : List Char} {c : Char} {comment : Bool}

/-! ### Blanks and comments -/

/-- What is skipped at the beginning of a text is skipped before any other. -/
theorem exists_skipped_of_skipVerbose (h : skipVerbose comment text = c :: rest) :
    (∃ skipped, text = skipped ++ c :: rest ∧
      ∀ more, skipVerbose comment (skipped ++ more) = skipVerbose false more) ∧
    isBlank c = false ∧ c ≠ '#' := by
  induction text generalizing comment with
  | nil => cases comment <;> cases h
  | cons d text ih =>
      cases comment with
      | true =>
          rw [skipVerbose] at h
          obtain ⟨⟨skipped, rfl, hskip⟩, hc⟩ := ih h
          refine ⟨⟨d :: skipped, rfl, fun more => ?_⟩, hc⟩
          rw [List.cons_append, skipVerbose, hskip]
      | false =>
          rw [skipVerbose] at h
          split at h
          · rename_i hblank
            obtain ⟨⟨skipped, rfl, hskip⟩, hc⟩ := ih h
            refine ⟨⟨d :: skipped, rfl, fun more => ?_⟩, hc⟩
            rw [List.cons_append, skipVerbose, if_pos hblank, hskip]
          · rename_i hblank
            split at h
            · rename_i hhash
              obtain ⟨⟨skipped, rfl, hskip⟩, hc⟩ := ih h
              refine ⟨⟨d :: skipped, rfl, fun more => ?_⟩, hc⟩
              rw [List.cons_append, skipVerbose, if_neg hblank, if_pos hhash, hskip]
            · rename_i hhash
              cases h
              exact ⟨⟨[], rfl, fun more => rfl⟩, by simpa using hblank, hhash⟩

/-- Up to the next character that means something, a text is skipped whatever follows. -/
theorem Flags.exists_skipped_of_skip (h : flags.skip text = c :: rest) :
    ∃ skipped, text = skipped ++ c :: rest ∧ (∀ more, flags.skip (skipped ++ more) = flags.skip more) ∧
      ∀ more, flags.skip (c :: more) = c :: more := by
  unfold Flags.skip at *
  split at h
  · rename_i hverbose
    obtain ⟨⟨skipped, rfl, hskip⟩, hblank, hhash⟩ := exists_skipped_of_skipVerbose h
    refine ⟨skipped, rfl, fun more => ?_, fun more => ?_⟩
    · rw [if_pos hverbose, if_pos hverbose, hskip]
    · rw [if_pos hverbose, skipVerbose, if_neg (by simp [hblank]), if_neg hhash]
  · rename_i hverbose
    refine ⟨[], h, fun more => rfl, fun more => ?_⟩
    rw [if_neg hverbose]

/-- Where something means something, what comes after it is not skipped. -/
theorem Flags.skip_append (h : flags.skip taken ≠ []) (more : List Char) :
    flags.skip (taken ++ more) = flags.skip taken ++ more := by
  obtain ⟨c, rest, hskip⟩ := List.exists_cons_of_ne_nil h
  obtain ⟨skipped, rfl, hskips, hcons⟩ := Flags.exists_skipped_of_skip hskip
  rw [List.append_assoc, List.cons_append, hskips, hskips, hcons, hcons, List.cons_append]

/-- There is nothing to skip in an empty text. -/
@[simp] theorem Flags.skip_nil : flags.skip [] = [] := by
  unfold Flags.skip
  split <;> rfl

/-! ### Local readers -/

section Local

variable {α β : Type} {read : List Char → Option (α × List Char)}

/-- A reader takes a beginning of the text, and what comes after it makes no difference. -/
def Local (read : List Char → Option (α × List Char)) : Prop :=
  ∀ text value rest, read text = some (value, rest) →
    ∃ taken, text = taken ++ rest ∧ ∀ more, read (taken ++ more) = some (value, more)

/-- A reader that takes nothing is local. -/
theorem local_some (value : α) : Local fun text => some (value, text) := by
  rintro text _ _ ⟨⟩
  exact ⟨[], rfl, fun more => rfl⟩

/-- What is made of the value that was read makes no difference. -/
theorem Local.map (h : Local read) (f : α → β) : Local fun text => (read text).map fun r => (f r.1, r.2) := by
  intro text value rest hread
  obtain ⟨⟨first, middle⟩, hfirst, heq⟩ := Option.map_eq_some_iff.mp hread
  cases heq
  obtain ⟨taken, rfl, htaken⟩ := h _ _ _ hfirst
  exact ⟨taken, rfl, fun more => by dsimp only; rw [htaken, Option.map_some]⟩

end Local

/-! ### Texts in braces -/

/-- **Texts in braces are local**: they end with the first closing brace that is not in a comment. -/
theorem local_readBraced (flags : Flags) (comment : Bool) : Local (readBraced flags comment) := by
  intro text inner rest h
  induction text generalizing comment inner with
  | nil => cases comment <;> cases h
  | cons c text ih =>
      cases comment with
      | true =>
          rw [readBraced] at h
          obtain ⟨taken, rfl, htaken⟩ := ih _ _ h
          exact ⟨c :: taken, rfl, fun more => by rw [List.cons_append, readBraced, htaken]⟩
      | false =>
          rw [readBraced] at h
          split at h
          · rename_i hclose
            cases h
            exact ⟨[c], rfl, fun more => by rw [List.cons_append, readBraced, if_pos hclose]; rfl⟩
          rename_i hclose
          split at h
          · rename_i hblank
            obtain ⟨taken, rfl, htaken⟩ := ih _ _ h
            exact ⟨c :: taken, rfl, fun more => by
              rw [List.cons_append, readBraced, if_neg hclose, if_pos hblank, htaken]⟩
          rename_i hblank
          split at h
          · rename_i hhash
            obtain ⟨taken, rfl, htaken⟩ := ih _ _ h
            exact ⟨c :: taken, rfl, fun more => by
              rw [List.cons_append, readBraced, if_neg hclose, if_neg hblank, if_pos hhash, htaken]⟩
          · rename_i hhash
            obtain ⟨⟨inner', rest'⟩, hread, heq⟩ := Option.map_eq_some_iff.mp h
            cases heq
            obtain ⟨taken, rfl, htaken⟩ := ih _ _ hread
            exact ⟨c :: taken, rfl, fun more => by
              rw [List.cons_append, readBraced, if_neg hclose, if_neg hblank, if_neg hhash, htaken]; rfl⟩

/-- Where nothing means something there is no closing brace. -/
theorem readBraced_of_skip (h : flags.verbose = true) (hskip : skipVerbose comment text = []) :
    readBraced flags comment text = none := by
  induction text generalizing comment with
  | nil => cases comment <;> rfl
  | cons c text ih =>
      cases comment with
      | true =>
          rw [skipVerbose] at hskip
          rw [readBraced, ih hskip]
      | false =>
          rw [skipVerbose] at hskip
          split at hskip
          · rename_i hblank
            have hclose : c ≠ '\x7d' := by rintro rfl; revert hblank; decide
            rw [readBraced, if_neg hclose, if_pos (by simp [h, hblank]), ih hskip]
          rename_i hblank
          split at hskip
          · rename_i hhash
            subst hhash
            rw [readBraced, if_neg (by decide), if_neg (by simp [hblank]), if_pos (by simp [h]), ih hskip]
          · cases hskip

/-- A text in braces begins with something that means something, if only with the closing brace. -/
theorem Flags.skip_ne_nil_of_readBraced (h : readBraced flags false text = some (inner, rest)) :
    flags.skip text ≠ [] := by
  unfold Flags.skip
  split
  · rename_i hverbose
    intro hskip
    rw [readBraced_of_skip hverbose hskip] at h
    cases h
  · rintro rfl
    cases h

/-! ### Numbers and properties -/

/-- Digits of base 16 are local. -/
theorem local_readHexDigits (flags : Flags) (count : Nat) : Local (readHexDigits flags count) := by
  induction count with
  | zero => exact local_some []
  | succ count ih =>
      intro text digits rest h
      rw [readHexDigits] at h
      split at h
      · cases h
      rename_i c after hskip
      obtain ⟨skipped, rfl, hskips, hcons⟩ := Flags.exists_skipped_of_skip hskip
      split at h
      · rename_i hdigit
        obtain ⟨taken, rfl, htaken⟩ := ih.map (c :: ·) _ _ _ h
        refine ⟨skipped ++ c :: taken, by simp, fun more => ?_⟩
        rw [List.append_assoc, List.cons_append, readHexDigits, hskips, hcons]
        exact (if_pos hdigit).trans (htaken more)
      · cases h

/-- **Numbers of characters are local**, since there is at least one digit. -/
theorem local_readCodePoint (flags : Flags) (count : Nat) : Local (readCodePoint flags (count + 1)) := by
  intro text atom rest h
  unfold readCodePoint at h
  split at h
  · rename_i other hskip
    obtain ⟨skipped, rfl, hskips, hcons⟩ := Flags.exists_skipped_of_skip hskip
    simp only [bind, Option.bind_eq_some_iff, Option.pure_def, Prod.exists, Option.ite_none_left_eq_some] at h
    obtain ⟨digits, after, hread, hdigits, c, ⟨number, hnumber, hc⟩, ⟨⟩⟩ := h
    obtain ⟨taken, rfl, htaken⟩ := local_readBraced flags false _ _ _ hread
    refine ⟨skipped ++ '\x7b' :: taken, by simp, fun more => ?_⟩
    unfold readCodePoint
    rw [List.append_assoc, List.cons_append, hskips, hcons]
    simp only [htaken, bind, Option.bind_some, if_neg hdigits, hnumber, hc, Option.pure_def]
  · rename_i hbrace
    simp only [bind, Option.bind_eq_some_iff, Option.pure_def, Prod.exists] at h
    obtain ⟨digits, after, hread, c, ⟨number, hnumber, hc⟩, ⟨⟩⟩ := h
    obtain ⟨taken, rfl, htaken⟩ := local_readHexDigits flags _ _ _ _ hread
    have hskip : flags.skip taken ≠ [] := by
      intro hnil
      have := htaken []
      rw [List.append_nil, readHexDigits, hnil] at this
      cases this
    refine ⟨taken, rfl, fun more => ?_⟩
    unfold readCodePoint
    split
    · rename_i other hopen
      rw [Flags.skip_append hskip] at hopen hbrace
      obtain ⟨c, tail, hcons⟩ := List.exists_cons_of_ne_nil hskip
      rw [hcons] at hopen hbrace
      cases hopen
      exact absurd rfl (hbrace _)
    · simp only [htaken, bind, Option.bind_some, hnumber, hc, Option.pure_def]

/-- **Names of properties are local.** -/
theorem local_readProperty (flags : Flags) (negated : Bool) : Local (readProperty flags negated) := by
  intro text atom rest h
  unfold readProperty at h
  split at h
  · cases h
  · rename_i other hskip
    obtain ⟨skipped, rfl, hskips, hcons⟩ := Flags.exists_skipped_of_skip hskip
    simp only [bind, Option.bind_eq_some_iff, Option.pure_def, Prod.exists] at h
    obtain ⟨name, after, hread, set, hset, ⟨⟩⟩ := h
    obtain ⟨taken, rfl, htaken⟩ := local_readBraced flags false _ _ _ hread
    refine ⟨skipped ++ '\x7b' :: taken, by simp, fun more => ?_⟩
    unfold readProperty
    rw [List.append_assoc, List.cons_append, hskips, hcons]
    simp only [htaken, bind, Option.bind_some, hset, Option.pure_def]
  · rename_i c other hbrace hskip
    obtain ⟨skipped, rfl, hskips, hcons⟩ := Flags.exists_skipped_of_skip hskip
    simp only [Option.ite_none_left_eq_some, Option.map_eq_some_iff] at h
    obtain ⟨hc, set, hset, ⟨⟩⟩ := h
    refine ⟨skipped ++ [c], by simp, fun more => ?_⟩
    unfold readProperty
    rw [List.append_assoc, List.cons_append, hskips, hcons]
    split
    · rename_i heq
      cases heq
    · rename_i heq
      cases heq
      exact (hbrace rfl).elim
    · rename_i heq
      cases heq
      rw [if_neg hc, hset]
      rfl

/-! ### Word boundaries -/

/-- What a word boundary looks at: whether a brace follows, and if so, what comes after it. -/
def braceAhead (flags : Flags) : List Char → Option (Option Char)
  | '\x7b' :: rest => some (flags.skip rest).head?
  | _ => none

/-- A word boundary, by what it looks at. -/
theorem readBoundary_eq (flags : Flags) (words : Words) (text : List Char) :
    readBoundary flags words text =
      match braceAhead flags text with
      | none => some (.look (.wordBoundary words), text)
      | some none => none
      | some (some c) =>
        if c.isAlpha || c == '-' then do
          let (name, rest) ← readBraced flags false text.tail
          return (.look (← namedBoundary? words name), rest)
        else some (.look (.wordBoundary words), text) := by
  unfold readBoundary
  split
  · rename_i rest
    rw [braceAhead]
    cases flags.skip rest <;> rfl
  · rename_i hbrace
    have hahead : braceAhead flags text = none := by
      unfold braceAhead
      split
      · exact (hbrace _ rfl).elim
      · rfl
    rw [hahead]

/-- What comes after a text that is not empty does not change its first character. -/
theorem head?_append_of_ne_nil {α : Type} {l l' : List α} (h : l ≠ []) : (l ++ l').head? = l.head? := by
  cases l with
  | nil => exact absurd rfl h
  | cons a l => rfl

/-- A word boundary is local, up to what it looks at. -/
theorem exists_taken_of_readBoundary {words : Words} {atom : Atom}
    (h : readBoundary flags words text = some (atom, rest)) :
    (∃ l, atom = .look l) ∧ ∃ taken, text = taken ++ rest ∧
      ∀ more, braceAhead flags more = braceAhead flags rest →
        readBoundary flags words (taken ++ more) = some (atom, more) := by
  rw [readBoundary_eq] at h
  split at h
  · rename_i hahead
    cases h
    refine ⟨⟨_, rfl⟩, [], rfl, fun more hmore => ?_⟩
    rw [List.nil_append, readBoundary_eq, hmore, hahead]
  · cases h
  · rename_i c hahead
    split at h
    · rename_i hname
      simp only [bind, Option.bind_eq_some_iff, Option.pure_def, Prod.exists] at h
      obtain ⟨name, after, hread, l, hl, ⟨⟩⟩ := h
      obtain ⟨other, rfl⟩ : ∃ other, text = '\x7b' :: other := by
        unfold braceAhead at hahead
        split at hahead
        · exact ⟨_, rfl⟩
        · cases hahead
      obtain ⟨taken, rfl, htaken⟩ := local_readBraced flags false other _ _ hread
      have hskip := Flags.skip_ne_nil_of_readBraced (htaken [])
      rw [List.append_nil] at hskip
      refine ⟨⟨_, rfl⟩, '\x7b' :: taken, rfl, fun more _ => ?_⟩
      have hahead' : braceAhead flags ('\x7b' :: taken ++ more) = some (some c) := by
        rw [← hahead, List.cons_append, braceAhead, braceAhead, Flags.skip_append hskip, Flags.skip_append hskip,
          head?_append_of_ne_nil hskip, head?_append_of_ne_nil hskip]
      rw [readBoundary_eq, hahead']
      simp only [hname, if_true, List.cons_append, List.tail_cons, htaken, bind, Option.bind_some, hl, Option.pure_def]
    · rename_i hname
      cases h
      refine ⟨⟨_, rfl⟩, [], rfl, fun more hmore => ?_⟩
      rw [List.nil_append, readBoundary_eq, hmore, hahead]
      exact if_neg hname

/-! ### Escapes -/

/-- **Escapes are local**, assertions up to what they look at. -/
theorem exists_taken_of_readEscape {atom : Atom} (h : readEscape flags text = some (atom, rest)) :
    ∃ taken, taken ≠ [] ∧ text = taken ++ rest ∧
      ∀ more, ((∃ l, atom = .look l) → braceAhead flags more = braceAhead flags rest) →
        readEscape flags (taken ++ more) = some (atom, more) := by
  cases text with
  | nil => cases h
  | cons c text =>
  unfold readEscape at h
  dsimp only at h
  split at h
  · obtain ⟨taken, rfl, htaken⟩ := local_readCodePoint flags _ _ _ _ h
    exact ⟨'x' :: taken, by simp, rfl, fun more _ => htaken more⟩
  · obtain ⟨taken, rfl, htaken⟩ := local_readCodePoint flags _ _ _ _ h
    exact ⟨'u' :: taken, by simp, rfl, fun more _ => htaken more⟩
  · obtain ⟨taken, rfl, htaken⟩ := local_readCodePoint flags _ _ _ _ h
    exact ⟨'U' :: taken, by simp, rfl, fun more _ => htaken more⟩
  · obtain ⟨taken, rfl, htaken⟩ := local_readProperty flags _ _ _ _ h
    exact ⟨'p' :: taken, by simp, rfl, fun more _ => htaken more⟩
  · obtain ⟨taken, rfl, htaken⟩ := local_readProperty flags _ _ _ _ h
    exact ⟨'P' :: taken, by simp, rfl, fun more _ => htaken more⟩
  · cases h
    exact ⟨['A'], by simp, rfl, fun more _ => rfl⟩
  · cases h
    exact ⟨['z'], by simp, rfl, fun more _ => rfl⟩
  · obtain ⟨hlook, taken, rfl, htaken⟩ := exists_taken_of_readBoundary h
    exact ⟨'b' :: taken, by simp, rfl, fun more hmore => htaken more (hmore hlook)⟩
  · cases h
    exact ⟨['B'], by simp, rfl, fun more _ => rfl⟩
  · cases h
    exact ⟨['<'], by simp, rfl, fun more _ => rfl⟩
  · cases h
    exact ⟨['>'], by simp, rfl, fun more _ => rfl⟩
  · -- What is left are the letters of classes and the characters that stand for themselves.
    refine ⟨[c], by simp, ?_, fun more _ => ?_⟩
    · split at h
      · cases h
        rfl
      · simp only [Option.map_eq_some_iff] at h
        obtain ⟨d, hd, ⟨⟩⟩ := h
        rfl
    · rw [List.singleton_append, readEscape]
      · split at h
        · cases h
          rfl
        · simp only [Option.map_eq_some_iff] at h
          obtain ⟨d, hd, ⟨⟩⟩ := h
          simp only [hd, Option.map_some]
      all_goals assumption

/-! ### Single parts -/

/-- **Single characters, escapes and assertions are local**, up to what is ahead. -/
theorem exists_taken_of_readSingle {e : Expr} (h : readSingle flags c text = some (e, rest)) :
    ∃ taken, text = taken ++ rest ∧
      ∀ more, braceAhead flags more = braceAhead flags rest →
        readSingle flags c (taken ++ more) = some (e, more) := by
  unfold readSingle at h
  split at h
  · simp only [bind, Option.bind_eq_some_iff, Option.pure_def, Prod.exists] at h
    obtain ⟨atom, after, hread, e, he, ⟨⟩⟩ := h
    obtain ⟨taken, -, rfl, htaken⟩ := exists_taken_of_readEscape hread
    refine ⟨taken, rfl, fun more hmore => ?_⟩
    simp only [readSingle, htaken more fun _ => hmore, bind, Option.bind_some, he, Option.pure_def]
  · obtain ⟨e, he, ⟨⟩⟩ := Option.map_eq_some_iff.mp h
    exact ⟨[], rfl, fun more _ => by simp only [readSingle, List.nil_append, he, Option.map_some]⟩
  · cases h
    exact ⟨[], rfl, fun more _ => rfl⟩
  · cases h
    exact ⟨[], rfl, fun more _ => rfl⟩
  · cases h
    refine ⟨[], rfl, fun more _ => ?_⟩
    unfold readSingle
    split <;> simp_all

end StubServer.Regex
