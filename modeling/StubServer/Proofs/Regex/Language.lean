import StubServer.Proofs.Regex.Matching

/-!
# The texts that expressions stand for

An expression without assertions matches certain texts, wherever they stand: it *denotes* a language
(`Expr.Denotes`). A single character, a sequence and a repetition denote what one expects of them, and if an
expression that denotes a language is put between the two ends of the text, it matches exactly the texts of
the language (`Expr.Denotes.isMatch_whole_iff`).
-/

namespace StubServer.Regex

/-- The set of a character. -/
theorem CharSet.contains_of_iff {c d : Char} : (CharSet.of c).contains d = true ↔ d = c := by
  simp only [CharSet.of, CharSet.contains, Unicode.Ranges.contains, Unicode.Ranges.has, List.any_cons, List.any_nil,
    Bool.or_false, Bool.and_eq_true, decide_eq_true_eq]
  exact ⟨fun h => Char.toNat_inj.mp (Nat.le_antisymm h.2 h.1), fun h => h ▸ ⟨Nat.le_refl _, Nat.le_refl _⟩⟩

/-- The set of all other characters. -/
theorem CharSet.contains_compl_of_iff {c d : Char} : (CharSet.compl (.of c)).contains d = true ↔ d ≠ c := by
  rw [CharSet.contains, Bool.not_eq_true', ← Bool.not_eq_true, contains_of_iff]

namespace Expr

/-- An expression matches the texts of a language, wherever they stand, and nothing else. -/
def Denotes (e : Expr) (language : List Char → Prop) : Prop :=
  ∀ (text : Array Char) (i j : Nat),
    e.Spans text i j ↔ ∃ s, language s ∧ s <+: text.toList.drop i ∧ j = i + s.length

variable {a b e : Expr} {L M : List Char → Prop} {text : Array Char} {i j k : Nat}

/-- One text after another stands at a place. -/
theorem append_isPrefix_drop_iff {u v l : List Char} :
    u ++ v <+: l.drop i ↔ u <+: l.drop i ∧ v <+: l.drop (i + u.length) := by
  constructor
  · rintro ⟨rest, hrest⟩
    rw [← List.drop_drop, ← hrest, List.append_assoc, List.drop_left]
    exact ⟨⟨v ++ rest, rfl⟩, rest, rfl⟩
  · rintro ⟨⟨rest, hrest⟩, hv⟩
    rw [← List.drop_drop, ← hrest, List.drop_left] at hv
    exact hrest ▸ (List.prefix_append_right_inj u).mpr hv

/-- Equal languages are as good. -/
theorem Denotes.congr (h : e.Denotes L) (hiff : ∀ s, L s ↔ M s) : e.Denotes M := by
  intro text i j
  rw [h text i j]
  simp only [hiff]

/-- Nothing denotes the empty text. -/
theorem denotes_empty : empty.Denotes (· = []) := by
  intro text i j
  constructor
  · rintro rfl
    exact ⟨[], rfl, List.nil_prefix, rfl⟩
  · rintro ⟨_, rfl, -, rfl⟩
    rfl

/-- A set denotes its characters. -/
theorem denotes_chars (set : CharSet) : (chars set).Denotes fun s => ∃ c, set.contains c = true ∧ s = [c] := by
  intro text i j
  have hstands : ∀ c, [c] <+: text.toList.drop i ↔ text[i]? = some c := by
    intro c
    rw [← Array.getElem?_toList, ← List.head?_drop]
    cases text.toList.drop i <;> simp [eq_comm]
  rw [Spans]
  constructor
  · rintro ⟨rfl, hany⟩
    cases hc : text[i]? with
    | none =>
        rw [hc] at hany
        cases hany
    | some c =>
        rw [hc] at hany
        exact ⟨[c], ⟨c, hany, rfl⟩, (hstands c).mpr hc, rfl⟩
  · rintro ⟨_, ⟨c, hc, rfl⟩, hprefix, rfl⟩
    rw [(hstands c).mp hprefix]
    exact ⟨rfl, hc⟩

/-- A sequence denotes the texts of the one after those of the other. -/
theorem Denotes.seq (ha : a.Denotes L) (hb : b.Denotes M) :
    (seq a b).Denotes fun s => ∃ u v, L u ∧ M v ∧ s = u ++ v := by
  intro text i k
  rw [Spans]
  simp only [ha text, hb text]
  constructor
  · rintro ⟨_, ⟨u, hu, hstands, rfl⟩, v, hv, hstands', rfl⟩
    exact ⟨u ++ v, ⟨u, v, hu, hv, rfl⟩, append_isPrefix_drop_iff.mpr ⟨hstands, hstands'⟩, by
      rw [List.length_append, Nat.add_assoc]⟩
  · rintro ⟨_, ⟨u, v, hu, hv, rfl⟩, hstands, rfl⟩
    obtain ⟨hstands, hstands'⟩ := append_isPrefix_drop_iff.mp hstands
    exact ⟨_, ⟨u, hu, hstands, rfl⟩, v, hv, hstands', by rw [List.length_append, Nat.add_assoc]⟩

/-- A sequence denotes the texts of its first expression after which those of the others come. -/
theorem Denotes.seqAll_cons {rest : List Expr} (he : e.Denotes L) (hrest : (seqAll rest).Denotes M) :
    (seqAll (e :: rest)).Denotes fun s => ∃ u v, L u ∧ M v ∧ s = u ++ v :=
  fun text i k => spans_seqAll_cons.trans (he.seq hrest text i k)

/-- Rounds of an expression match texts of its language one after the other. -/
theorem Denotes.rounds_iff (h : e.Denotes L) (count : Nat) :
    Rounds (e.Spans text) count i k ↔
      ∃ parts : List (List Char), parts.length = count ∧ (∀ u ∈ parts, L u) ∧
        parts.flatten <+: text.toList.drop i ∧ k = i + parts.flatten.length := by
  induction count generalizing i with
  | zero =>
      constructor
      · rintro rfl
        exact ⟨[], rfl, by simp, List.nil_prefix, rfl⟩
      · rintro ⟨parts, hlength, -, -, rfl⟩
        rw [List.eq_nil_of_length_eq_zero hlength]
        rfl
  | succ count ih =>
      simp only [Rounds, ih, h text]
      constructor
      · rintro ⟨_, ⟨u, hu, hstands, rfl⟩, parts, hlength, hparts, hstands', rfl⟩
        refine ⟨u :: parts, by rw [List.length_cons, hlength], List.forall_mem_cons.mpr ⟨hu, hparts⟩, ?_, ?_⟩
        · exact append_isPrefix_drop_iff.mpr ⟨hstands, hstands'⟩
        · rw [List.flatten_cons, List.length_append, Nat.add_assoc]
      · rintro ⟨parts, hlength, hparts, hstands, rfl⟩
        obtain ⟨u, rest, rfl⟩ := List.exists_cons_of_length_eq_add_one hlength
        obtain ⟨hu, hrest⟩ := List.forall_mem_cons.mp hparts
        rw [List.flatten_cons] at hstands ⊢
        obtain ⟨hstands, hstands'⟩ := append_isPrefix_drop_iff.mp hstands
        exact ⟨_, ⟨u, hu, hstands, rfl⟩, rest, Nat.succ.inj hlength, hrest, hstands', by
          rw [List.length_append, Nat.add_assoc]⟩

/-- **A repetition** denotes the texts made of as many texts as there may be rounds. -/
theorem Denotes.rep (h : e.Denotes L) (least : Nat) (extra : Option Nat) :
    (rep least extra e).Denotes fun s => ∃ parts : List (List Char),
      least ≤ parts.length ∧ (∀ most ∈ extra, parts.length ≤ least + most) ∧ (∀ u ∈ parts, L u) ∧
        s = parts.flatten := by
  intro text i k
  constructor
  · rintro ⟨j, more, hleast, hmost, hmore⟩
    obtain ⟨parts, hlength, hparts, hstands, rfl⟩ :=
      (h.rounds_iff (least + more)).mp (rounds_add.mpr ⟨j, hleast, hmore⟩)
    refine ⟨parts.flatten, ⟨parts, by omega, fun most hm => ?_, hparts, rfl⟩, hstands, rfl⟩
    have := hmost most hm
    omega
  · rintro ⟨_, ⟨parts, hleast, hmost, hparts, rfl⟩, hstands, rfl⟩
    obtain ⟨more, hmore⟩ := Nat.exists_eq_add_of_le hleast
    obtain ⟨j, hrounds, hrest⟩ := rounds_add.mp ((h.rounds_iff (least + more)).mpr ⟨parts, hmore, hparts, hstands, rfl⟩)
    refine ⟨j, more, hrounds, fun most hm => ?_, hrest⟩
    have := hmost most hm
    omega

/-- A repetition of a set denotes the texts over the set that have as many characters. -/
theorem denotes_rep_chars (least : Nat) (extra : Option Nat) (set : CharSet) :
    (rep least extra (chars set)).Denotes fun s =>
      least ≤ s.length ∧ (∀ most ∈ extra, s.length ≤ least + most) ∧ ∀ c ∈ s, set.contains c = true := by
  refine ((denotes_chars set).rep least extra).congr fun s => ?_
  constructor
  · rintro ⟨parts, hleast, hmost, hparts, rfl⟩
    have hlength : parts.flatten.length = parts.length := by
      have hone : parts.map List.length = parts.map fun _ => 1 := List.map_congr_left fun u hu => by
        obtain ⟨c, -, rfl⟩ := hparts u hu
        rfl
      rw [List.length_flatten, hone, List.map_const', List.sum_replicate_nat, Nat.mul_one]
    refine ⟨hlength ▸ hleast, hlength ▸ hmost, fun c hc => ?_⟩
    obtain ⟨u, hu, hcu⟩ := List.mem_flatten.mp hc
    obtain ⟨d, hd, rfl⟩ := hparts u hu
    exact List.mem_singleton.mp hcu ▸ hd
  · rintro ⟨hleast, hmost, hs⟩
    refine ⟨s.map ([·]), by rwa [List.length_map], by rwa [List.length_map], ?_, ?_⟩
    · intro u hu
      obtain ⟨c, hc, rfl⟩ := List.mem_map.mp hu
      exact ⟨c, hs c hc, rfl⟩
    · exact (List.flatMap_singleton' s).symm

/-- A repetition of all characters but one denotes the texts without that one that are long enough. -/
theorem denotes_rep_compl (least : Nat) (c : Char) :
    (rep least none (chars (.compl (.of c)))).Denotes fun s => least ≤ s.length ∧ c ∉ s := by
  refine (denotes_rep_chars least none _).congr fun s => ?_
  simp only [CharSet.contains_compl_of_iff, Option.not_mem_none, false_implies, implies_true, true_and]
  exact and_congr_right fun _ => ⟨fun h hmem => h c hmem rfl, fun h d hd heq => h (heq ▸ hd)⟩

/-- Characters before a sequence denote these characters before its texts. -/
theorem denotes_literal_append {es : List Expr} (h : (seqAll es).Denotes L)
    (text : List Char) :
    (seqAll ((text.map fun c => .chars (.of c)) ++ es)).Denotes fun s => ∃ rest, L rest ∧ s = text ++ rest := by
  induction text with
  | nil => exact h.congr fun s => ⟨fun hs => ⟨s, hs, rfl⟩, fun ⟨rest, hrest, heq⟩ => heq ▸ hrest⟩
  | cons c text ih =>
      refine ((denotes_chars (.of c)).seqAll_cons ih).congr fun s => ⟨?_, ?_⟩
      · rintro ⟨_, _, ⟨d, hd, rfl⟩, ⟨rest, hrest, rfl⟩, rfl⟩
        exact ⟨rest, hrest, CharSet.contains_of_iff.mp hd ▸ rfl⟩
      · rintro ⟨rest, hrest, rfl⟩
        exact ⟨[c], _, ⟨c, CharSet.contains_of_iff.mpr rfl, rfl⟩, ⟨rest, hrest, rfl⟩, rfl⟩

/-- **Between the two ends**, an expression matches the texts of its language. -/
theorem Denotes.isMatch_whole_iff (h : e.Denotes L) (text : List Char) :
    e.whole.isMatch text = true ↔ L text := by
  rw [Expr.isMatch_whole_iff, h]
  constructor
  · rintro ⟨s, hs, hstands, hlength⟩
    rw [Nat.zero_add] at hlength
    have heq : s = text := hstands.eq_of_length hlength.symm
    exact heq ▸ hs
  · exact fun hs => ⟨text, hs, List.prefix_refl _, (Nat.zero_add _).symm⟩

end Expr

end StubServer.Regex
