import StubServer.Proofs.Regex.Locality.Escape
import StubServer.Proofs.Text.Split

/-!
# Openings of groups and operators are read locally

Where a group has no opening of its own, it begins with the first character that means something, so that what follows
has to begin alike. An operator that repeats a part ends before any character but a question mark; what may follow it,
and what follows a sequence of parts, is said by `Fits`.

## Main statements

* `exists_taken_of_readOpening`: openings are local, up to the beginning of the group.
* `Flags.exists_skipped`, `exists_taken_of_readRepetition`: what is skipped and operators are, up to what fits.
-/

namespace StubServer.Regex

variable {flags : Flags} {scope : Scope} {rest text more : List Char} {c : Char}

/-! ### Flags and names -/

/-- **Letters of flags are local**, up to the colon or the parenthesis after them. -/
theorem exists_taken_of_readFlags {changed : Flags} {seen : List Char}
    (h : readFlags flags seen text = some (changed, c, rest)) :
    ∃ first taken, text = first :: (taken ++ rest) ∧ first ∈ ':' :: ')' :: '-' :: flagLetters ∧
      ∀ more, readFlags flags seen (first :: (taken ++ more)) = some (changed, c, more) := by
  induction text generalizing flags seen with
  | nil => cases h
  | cons d text ih =>
      rw [readFlags] at h
      split at h
      · rename_i hend
        split at h
        · cases h
        · rename_i hproper
          cases h
          refine ⟨c, [], rfl, ?_, fun more => ?_⟩
          · rcases hend with rfl | rfl <;> simp
          · rw [List.nil_append, readFlags, if_pos hend, if_neg hproper]
      rename_i hend
      split at h
      · cases h
      rename_i hseen
      split at h
      · rename_i hhyphen
        obtain ⟨first, taken, rfl, -, htaken⟩ := ih h
        refine ⟨d, first :: taken, rfl, by simp [hhyphen], fun more => ?_⟩
        rw [readFlags, if_neg hend, if_neg hseen, if_pos hhyphen, List.cons_append, htaken]
      rename_i hhyphen
      split at h
      · rename_i hletter
        have hd : d ∈ flagLetters := List.contains_iff_mem.mp hletter
        obtain ⟨first, taken, rfl, -, htaken⟩ := ih h
        refine ⟨d, first :: taken, rfl, by simp [hd], fun more => ?_⟩
        rw [readFlags, if_neg hend, if_neg hseen, if_neg hhyphen, if_pos hletter, List.cons_append, htaken]
      · cases h

/-- **Names of groups are local.** -/
theorem local_readName (scope : Scope) : Local (readName scope) := by
  intro text after rest h
  unfold readName at h
  split at h
  · rename_i name other hcut
    obtain ⟨rfl, hname⟩ := eq_append_cons_of_cut hcut
    split at h
    · rename_i hproper
      cases h
      refine ⟨name ++ ['>'], by simp, fun more => ?_⟩
      rw [List.append_assoc, List.singleton_append, readName, cut_append_cons hname]
      exact if_pos hproper
    · cases h
  · cases h


/-! ### Openings -/

section Opening

variable {opening : Opening}

/-- The opening of a group with a name, which may begin with a letter. -/
theorem readOpening_nameP (hskip : scope.flags.skip text = '?' :: 'P' :: '<' :: rest) :
    readOpening scope text = (readName scope rest).map fun (scope, rest) => (.group scope, rest) := by
  rw [readOpening, hskip]
  rfl

/-- The opening of a group with a name. -/
theorem readOpening_name (hskip : scope.flags.skip text = '?' :: '<' :: c :: rest) (hequal : c ≠ '=')
    (hmark : c ≠ '!') :
    readOpening scope text = (readName scope (c :: rest)).map fun (scope, rest) => (.group scope, rest) := by
  rw [readOpening, hskip]
  simp [hequal, hmark]

/-- What letters of flags open: a group if they end with a colon, and otherwise they change the settings. -/
def flagsOpening (scope : Scope) (flags : Flags) (mark : Char) : Opening :=
  if mark = ':' then .group { scope with flags } else .change flags

/-- The opening of a group with letters of flags, or a change of the settings. -/
theorem readOpening_flags {mark : Char} {after : List Char} (hskip : scope.flags.skip text = '?' :: rest)
    (h : readFlags scope.flags [] rest = some (flags, mark, after)) :
    readOpening scope text = some (flagsOpening scope flags mark, after) := by
  obtain ⟨first, taken, rfl, hfirst, -⟩ := exists_taken_of_readFlags h
  -- The letters are none of those that begin other openings.
  have hother : ∀ d ∈ ':' :: ')' :: '-' :: flagLetters, d ∉ ['=', '!', '<', 'P'] := by simp [flagLetters]
  have hnone := hother first hfirst
  rw [readOpening, hskip]
  split
  case h_7 heq =>
    cases heq
    rw [h]
    by_cases hcolon : mark = ':'
    · subst hcolon
      rfl
    · simp [flagsOpening, hcolon]
  all_goals simp_all

/-- The opening of a group that has none of its own. -/
theorem readOpening_plain (hskip : scope.flags.skip text = rest) (h : rest.head? ≠ some '?') :
    readOpening scope text = some (.group scope, rest) := by
  rw [readOpening, hskip]
  split <;> simp_all

/-- **Openings are local.** What follows has to begin alike if a group may begin with it. -/
theorem exists_taken_of_readOpening (h : readOpening scope text = some (opening, rest)) :
    ∃ taken, text = taken ++ rest ∧
      ∀ more, ((∃ inside, opening = .group inside) → more ≠ [] ∧ more.head? = rest.head?) →
        readOpening scope (taken ++ more) = some (opening, more) := by
  have hopening := h
  unfold readOpening at h
  split at h
  · cases h
  · cases h
  · cases h
  · cases h
  · rename_i hskip
    obtain ⟨skipped, rfl, hskips, hcons⟩ := Flags.exists_skipped_of_skip hskip
    obtain ⟨⟨inside, after⟩, hname, heq⟩ := Option.map_eq_some_iff.mp h
    cases heq
    obtain ⟨taken, rfl, htaken⟩ := local_readName scope _ _ _ hname
    refine ⟨skipped ++ '?' :: 'P' :: '<' :: taken, by simp, fun more _ => ?_⟩
    have hskip' : scope.flags.skip (skipped ++ ('?' :: 'P' :: '<' :: taken ++ more)) =
        '?' :: 'P' :: '<' :: (taken ++ more) := (hskips _).trans (hcons _)
    rw [List.append_assoc, readOpening_nameP hskip', htaken]
    rfl
  · rename_i _ other hequal hmark hskip
    obtain ⟨skipped, rfl, hskips, hcons⟩ := Flags.exists_skipped_of_skip hskip
    obtain ⟨⟨inside, after⟩, hname, heq⟩ := Option.map_eq_some_iff.mp h
    cases heq
    obtain ⟨taken, rfl, htaken⟩ := local_readName scope _ _ _ hname
    -- A name does not begin with a mark of what is not allowed, since it is not empty.
    obtain ⟨c, taken, rfl⟩ : ∃ c tail, taken = c :: tail := by
      refine List.exists_cons_of_ne_nil fun hnil => ?_
      have := htaken []
      rw [hnil] at this
      cases this
    refine ⟨skipped ++ '?' :: '<' :: c :: taken, by simp, fun more _ => ?_⟩
    have hskip' : scope.flags.skip (skipped ++ ('?' :: '<' :: c :: taken ++ more)) =
        '?' :: '<' :: c :: (taken ++ more) := (hskips _).trans (hcons _)
    have hname' : readName scope (c :: (taken ++ more)) = some (inside, more) := htaken more
    rw [List.append_assoc, readOpening_name hskip' (fun heq => hequal (taken ++ rest) (by rw [heq]; rfl))
      (fun heq => hmark (taken ++ rest) (by rw [heq]; rfl)),
      hname']
    rfl
  · rename_i other _ _ _ _ _ _ hskip
    obtain ⟨skipped, rfl, hskips, hcons⟩ := Flags.exists_skipped_of_skip hskip
    cases hflags : readFlags scope.flags [] other with
    | none =>
        rw [hflags] at h
        cases h
    | some result =>
        obtain ⟨changed, mark, after⟩ := result
        obtain ⟨first, taken, rfl, -, htaken⟩ := exists_taken_of_readFlags hflags
        rw [readOpening_flags hskip hflags] at hopening
        cases hopening
        refine ⟨skipped ++ '?' :: first :: taken, by simp, fun more _ => ?_⟩
        have hskip' : scope.flags.skip (skipped ++ '?' :: first :: (taken ++ more)) = '?' :: first :: (taken ++ more) :=
          (hskips _).trans (hcons _)
        rw [List.append_assoc]
        exact readOpening_flags hskip' (htaken more)
  · rename_i hquestion
    cases h
    cases hskip : scope.flags.skip text with
    | nil =>
        refine ⟨text, (List.append_nil _).symm, fun more hmore => ?_⟩
        obtain ⟨hne, hhead⟩ := hmore ⟨_, rfl⟩
        exact absurd (List.head?_eq_none_iff.mp hhead) hne
    | cons c other =>
        obtain ⟨skipped, rfl, hskips, hcons⟩ := Flags.exists_skipped_of_skip hskip
        have hc : c ≠ '?' := by
          rintro rfl
          exact hquestion _ hskip
        refine ⟨skipped, rfl, fun more hmore => ?_⟩
        obtain ⟨more, rfl⟩ : ∃ tail, more = c :: tail := List.head?_eq_some_iff.mp (hmore ⟨_, rfl⟩).2
        exact readOpening_plain ((hskips _).trans (hcons _)) (by simpa using hc)

end Opening

/-! ### What fits, and operators -/

/-- What may stand in place of the rest of a text, so that the readers before it take the same. -/
inductive Fits (flags : Flags) : List Char → List Char → Prop
  /-- The text may end. -/
  | nil (rest : List Char) : Fits flags rest []
  /-- It may go on with the same character. -/
  | cons (c : Char) (rest more : List Char) : Fits flags (c :: rest) (c :: more)
  /-- At its end the group around it may be closed, if the parenthesis cannot be part of a comment. -/
  | close (more : List Char) (h : flags.verbose = false) : Fits flags [] (')' :: more)

/-- What fits after a text fits with the text before it. -/
theorem Fits.append (h : Fits flags rest more) (taken : List Char) : Fits flags (taken ++ rest) (taken ++ more) := by
  cases taken with
  | nil => exact h
  | cons c taken => exact .cons c _ _

/-- What fits does not begin in a new way, but for a closing parenthesis. -/
theorem Fits.head?_ne (h : Fits flags rest more) (hc : c ≠ ')') (hrest : rest.head? ≠ some c) :
    more.head? ≠ some c := by
  cases h with
  | nil => exact nofun
  | cons d rest more => exact hrest
  | close more hverbose => simpa using Ne.symm hc

/-- What is skipped is skipped before all that fits. -/
theorem Flags.exists_skipped (flags : Flags) (text : List Char) :
    ∃ skipped, text = skipped ++ flags.skip text ∧
      ∀ more, Fits flags (flags.skip text) more → flags.skip (skipped ++ more) = more := by
  cases hskip : flags.skip text with
  | nil =>
      refine ⟨text, (List.append_nil _).symm, fun more hmore => ?_⟩
      cases hmore with
      | nil => rw [List.append_nil, hskip]
      | close more hverbose =>
          have hplain : ∀ text, flags.skip text = text := fun text => by simp [Flags.skip, hverbose]
          rw [hplain] at hskip
          rw [hskip, hplain, List.nil_append]
  | cons c rest =>
      obtain ⟨skipped, rfl, hskips, hcons⟩ := Flags.exists_skipped_of_skip hskip
      refine ⟨skipped, rfl, fun more hmore => ?_⟩
      cases hmore with
      | nil => rw [hskips, Flags.skip_nil]
      | cons c rest more => rw [hskips, hcons]

/-- The text after a mark that a repetition is lazy, if there is one. -/
theorem exists_lazily (flags : Flags) (text : List Char) :
    ∃ taken, text = taken ++ (if text.head? = some '?' then text.drop 1 else text) ∧
      ∀ more, Fits flags (if text.head? = some '?' then text.drop 1 else text) more →
        (if (taken ++ more).head? = some '?' then (taken ++ more).drop 1 else taken ++ more) = more := by
  by_cases hlazy : text.head? = some '?'
  · obtain ⟨rest, rfl⟩ := List.head?_eq_some_iff.mp hlazy
    exact ⟨['?'], rfl, fun more _ => rfl⟩
  · refine ⟨[], by rw [if_neg hlazy, List.nil_append], fun more hmore => ?_⟩
    rw [if_neg hlazy] at hmore
    exact if_neg (hmore.head?_ne (by decide) hlazy)

/-- **Operators that repeat a part are local**, up to what fits. -/
theorem exists_taken_of_readRepetition {result : Nat × Option Nat}
    (h : readRepetition flags c text = some (result, rest)) :
    ∃ taken, text = taken ++ rest ∧
      ∀ more, Fits flags rest more → readRepetition flags c (taken ++ more) = some (result, more) := by
  unfold readRepetition at h
  dsimp only at h
  split at h
  · cases h
    obtain ⟨taken, htext, htaken⟩ := exists_lazily flags text
    exact ⟨taken, htext, fun more hmore => congrArg (fun after => some ((0, some 1), after)) (htaken more hmore)⟩
  · cases h
    obtain ⟨taken, htext, htaken⟩ := exists_lazily flags text
    exact ⟨taken, htext, fun more hmore => congrArg (fun after => some ((0, none), after)) (htaken more hmore)⟩
  · cases h
    obtain ⟨taken, htext, htaken⟩ := exists_lazily flags text
    exact ⟨taken, htext, fun more hmore => congrArg (fun after => some ((1, none), after)) (htaken more hmore)⟩
  · rename_i hone hmany hsome
    simp only [bind, Option.bind_eq_some_iff, Option.pure_def, Prod.exists] at h
    obtain ⟨inner, after, hread, least, extra, hcounts, ⟨⟩⟩ := h
    obtain ⟨taken, rfl, htaken⟩ := local_readBraced flags false _ _ _ hread
    obtain ⟨skipped, hafter, hskipped⟩ := flags.exists_skipped after
    obtain ⟨lazy, hrest, hlazy⟩ := exists_lazily flags (flags.skip after)
    refine ⟨taken ++ (skipped ++ lazy), ?_, fun more hmore => ?_⟩
    · rw [List.append_assoc, List.append_assoc, ← hrest, ← hafter]
    · have hfits := hmore.append lazy
      rw [← hrest] at hfits
      unfold readRepetition
      dsimp only
      split
      · exact (hone rfl).elim
      · exact (hmany rfl).elim
      · exact (hsome rfl).elim
      · rw [List.append_assoc, List.append_assoc, htaken]
        simp only [bind, Option.bind_some, hcounts, hskipped _ hfits, hlazy more hmore, Option.pure_def]

end StubServer.Regex
