import StubServer.Proofs.Regex.Locality.Opening

/-!
# Classes in brackets are read locally

A class in brackets ends with its closing bracket, so that nothing after it is looked at. What follows an item inside of
it may make a stretch of characters of the item; whether it does is decided before the closing bracket
(`itemEnds_append`). A class that is named by a word between colons ends with the first bracket, which is inside of any
class that could be read in its place (`readAsciiClass_eq_none`).

The readers take fuel. Twice as much as there are characters in the class is enough, and two more.

## Main statements

* `exists_taken_of_readRange`: items are local, up to whether a stretch follows.
* `takes_bracket`: classes in brackets are local.
-/

namespace StubServer.Regex

variable {flags : Flags} {rest text taken more : List Char} {c : Char}

/-! ### Items -/

/-- A character or an escape is local, an assertion up to what it looks at. -/
theorem exists_taken_of_readItem {atom : Atom} (h : readItem flags text = some (atom, rest)) :
    ∃ taken, taken ≠ [] ∧ text = taken ++ rest ∧
      ∀ more, ((∃ l, atom = .look l) → braceAhead flags more = braceAhead flags rest) →
        readItem flags (taken ++ more) = some (atom, more) := by
  cases text with
  | nil => cases h
  | cons c text =>
  rw [readItem] at h
  split at h
  · rename_i hescape
    obtain ⟨taken, -, rfl, htaken⟩ := exists_taken_of_readEscape h
    refine ⟨c :: taken, List.cons_ne_nil _ _, rfl, fun more hmore => ?_⟩
    rw [List.cons_append, readItem, if_pos hescape, htaken more hmore]
  · rename_i hescape
    cases h
    exact ⟨[c], List.cons_ne_nil _ _, rfl, fun more _ => if_neg hescape⟩

/-! ### Classes named by words -/

/-- The words that name classes are made of letters. -/
theorem notMem_of_asciiStretches? {word : List Char} {stretches : Unicode.Ranges}
    (h : asciiStretches? word = some stretches) : ']' ∉ word := by
  intro hmem
  have hne : ∀ name : String, ']' ∉ name.toList → word ≠ name.toList := fun name hname heq => hname (heq ▸ hmem)
  unfold asciiStretches? at h
  dsimp only at h
  rw [if_neg (hne "alnum" (by decide)), if_neg (hne "alpha" (by decide)), if_neg (hne "ascii" (by decide)),
    if_neg (hne "blank" (by decide)), if_neg (hne "cntrl" (by decide)), if_neg (hne "digit" (by decide)),
    if_neg (hne "graph" (by decide)), if_neg (hne "lower" (by decide)), if_neg (hne "print" (by decide)),
    if_neg (hne "punct" (by decide)), if_neg (hne "space" (by decide)), if_neg (hne "upper" (by decide)),
    if_neg (hne "word" (by decide)), if_neg (hne "xdigit" (by decide))] at h
  cases h

/-- A word and the end of its class, after the beginning of the class. -/
def readWord? (flags : Flags) (negated : Bool) (text : List Char) : Option (CharSet × List Char) :=
  match cut ':' text with
  | (word, some (']' :: rest)) => (asciiClass? flags negated word).map fun set => (set, rest)
  | _ => none

/-- A word is local, and there is no bracket in it. -/
theorem exists_taken_of_readWord? {negated : Bool} {set : CharSet}
    (h : readWord? flags negated text = some (set, rest)) :
    ∃ word, text = word ++ ':' :: ']' :: rest ∧ ']' ∉ word ∧
      ∀ more, readWord? flags negated (word ++ ':' :: ']' :: more) = some (set, more) := by
  unfold readWord? at h
  split at h
  · rename_i word after hcut
    obtain ⟨set, hset, ⟨⟩⟩ := Option.map_eq_some_iff.mp h
    obtain ⟨rfl, hcolon⟩ := eq_append_cons_of_cut hcut
    obtain ⟨stretches, hstretches, -⟩ := Option.map_eq_some_iff.mp hset
    refine ⟨word, rfl, notMem_of_asciiStretches? hstretches, fun more => ?_⟩
    rw [readWord?, cut_append_cons hcolon]
    exact congrArg (Option.map _) hset
  · cases h

/-- A class named by a word that is not negated. -/
theorem readAsciiClass_plain (h : text.head? ≠ some '^') :
    readAsciiClass flags (':' :: text) = readWord? flags false text := by
  rw [readAsciiClass]
  · rfl
  · rintro rest rfl
    exact h rfl

/-- A class named by a word between colons ends with the first bracket. -/
theorem exists_taken_of_readAsciiClass {set : CharSet} (h : readAsciiClass flags text = some (set, rest)) :
    ∃ taken, text = taken ++ ']' :: rest ∧ ']' ∉ taken ∧
      ∀ more, readAsciiClass flags (taken ++ ']' :: more) = some (set, more) := by
  obtain ⟨other, rfl⟩ : ∃ other, text = ':' :: other := by
    unfold readAsciiClass at h
    split at h
    · exact ⟨_, rfl⟩
    · cases h
  by_cases hnegated : other.head? = some '^'
  · obtain ⟨inner, rfl⟩ := List.head?_eq_some_iff.mp hnegated
    have hnamed : readWord? flags true inner = some (set, rest) := h
    obtain ⟨word, rfl, hword, hread⟩ := exists_taken_of_readWord? hnamed
    refine ⟨':' :: '^' :: (word ++ [':']), by simp, by simp [hword], fun more => ?_⟩
    rw [List.cons_append, List.cons_append, List.append_assoc, List.singleton_append]
    exact hread more
  · rw [readAsciiClass_plain hnegated] at h
    obtain ⟨word, rfl, hword, hread⟩ := exists_taken_of_readWord? h
    refine ⟨':' :: (word ++ [':']), by simp, by simp [hword], fun more => ?_⟩
    have hhead : (word ++ ':' :: ']' :: more).head? ≠ some '^' := by
      cases word with
      | nil => exact nofun
      | cons c word => exact hnegated
    simpa [readAsciiClass_plain hhead] using hread more

/-- Where no class is named by a word, the text up to a bracket is enough to see that. -/
theorem readAsciiClass_eq_none (h : readAsciiClass flags (taken ++ rest) = none) (hclose : ']' ∈ taken)
    (more : List Char) : readAsciiClass flags (taken ++ more) = none := by
  cases hnamed : readAsciiClass flags (taken ++ more) with
  | none => rfl
  | some named =>
      obtain ⟨word, heq, hword, hread⟩ := exists_taken_of_readAsciiClass hnamed
      obtain ⟨before, after, rfl, hbefore⟩ := List.eq_append_cons_of_mem hclose
      rw [List.append_assoc, List.cons_append] at heq h
      obtain ⟨rfl, -⟩ := append_cons_inj hbefore hword heq
      rw [hread] at h
      cases h

/-! ### Stretches of characters -/

/-- Whether an item may end here: a stretch of characters does not follow. -/
def itemEnds (flags : Flags) (text : List Char) : Bool :=
  match flags.skip text with
  | [] => false
  | '-' :: more =>
    let next := flags.skip more
    next.head? = some ']' ∨ next.head? = some '-'
  | _ => true

/-- No item ends at the end of the pattern. -/
theorem itemEnds_nil (h : flags.skip text = []) : itemEnds flags text = false := by
  unfold itemEnds
  rw [h]

/-- Before a hyphen, an item ends if a bracket or a hyphen comes next. -/
theorem itemEnds_hyphen (h : flags.skip text = '-' :: rest) :
    itemEnds flags text = decide ((flags.skip rest).head? = some ']' ∨ (flags.skip rest).head? = some '-') := by
  unfold itemEnds
  rw [h]
  rfl

/-- Before any other character, an item ends. -/
theorem itemEnds_of_ne (h : flags.skip text = c :: rest) (hc : c ≠ '-') : itemEnds flags text = true := by
  simp [itemEnds, h, hc]

/-- The class that an atom in a list stands for. -/
def Atom.class? (flags : Flags) : Atom → Option CharSet
  | .set s => some s
  | atom => (atom.member? flags).map .of

/-- An atom in a list together with the text after it. -/
theorem Atom.map_class? (flags : Flags) (atom : Atom) (rest : List Char) :
    (atom.class? flags).map (fun set => (set, rest)) =
      match atom with
      | .set s => some (s, rest)
      | atom => (atom.member? flags).map fun c => (.of c, rest) := by
  cases atom with
  | set s => rfl
  | char c byte => simp only [class?, Option.map_map, Function.comp_def]
  | look l => rfl

section Range

variable {set : CharSet} {first : Atom}

/-- An item that ends is a class or a character. -/
theorem readRange_single (hitem : readItem flags text = some (first, rest)) (hends : itemEnds flags rest = true) :
    readRange flags text = (first.class? flags).map fun set => (set, rest) := by
  rcases hskip : flags.skip rest with - | ⟨c, more⟩
  · rw [itemEnds_nil hskip] at hends
    cases hends
  by_cases hc : c = '-'
  · subst hc
    rw [itemEnds_hyphen hskip] at hends
    simp only [readRange, hitem, bind, Option.bind_some, hskip, if_pos (of_decide_eq_true hends)]
    exact (Atom.map_class? flags first rest).symm
  · simp only [readRange, hitem, bind, Option.bind_some, hskip, List.cons.injEq, hc, false_and, imp_self, implies_true]
    exact (Atom.map_class? flags first rest).symm

/-- An item that does not end is a stretch of characters. -/
theorem readRange_stretch (hitem : readItem flags text = some (first, rest)) (hends : itemEnds flags rest = false)
    (hskip : flags.skip rest = '-' :: more) :
    readRange flags text = (readItem flags (flags.skip more)).bind fun (last, rest) =>
      (first.member? flags).bind fun first => (last.member? flags).bind fun last =>
        if first ≤ last then some (.between first last, rest) else none := by
  rw [itemEnds_hyphen hskip] at hends
  unfold readRange
  simp only [hitem, bind, Option.bind_some, hskip, if_neg (of_decide_eq_false hends)]
  rfl

/-- An item ends after its first atom, or a stretch of characters follows. -/
theorem exists_of_readRange (h : readRange flags text = some (set, rest)) :
    ∃ first after, readItem flags text = some (first, after) ∧
      (itemEnds flags after = true ∨ itemEnds flags after = false ∧ ∃ more, flags.skip after = '-' :: more) := by
  unfold readRange at h
  simp only [bind, Option.bind_eq_some_iff, Prod.exists] at h
  obtain ⟨first, after, hitem, h⟩ := h
  refine ⟨first, after, hitem, ?_⟩
  rcases hskip : flags.skip after with - | ⟨c, more⟩
  · rw [hskip] at h
    cases h
  by_cases hc : c = '-'
  · subst hc
    cases hends : itemEnds flags after with
    | true => exact .inl rfl
    | false => exact .inr ⟨rfl, more, rfl⟩
  · exact .inl (itemEnds_of_ne hskip hc)

/-- **Items are local**, up to whether they end before what follows. -/
theorem exists_taken_of_readRange (h : readRange flags text = some (set, rest)) :
    ∃ taken, taken ≠ [] ∧ text = taken ++ rest ∧
      ∀ more, itemEnds flags more = itemEnds flags rest → readRange flags (taken ++ more) = some (set, more) := by
  obtain ⟨first, after, hitem, hends | ⟨hends, other, hskip⟩⟩ := exists_of_readRange h
  · obtain ⟨taken, hne, rfl, htaken⟩ := exists_taken_of_readItem hitem
    rw [readRange_single hitem hends] at h
    obtain ⟨set, hset, ⟨⟩⟩ := Option.map_eq_some_iff.mp h
    refine ⟨taken, hne, rfl, fun more hmore => ?_⟩
    have hitem' : readItem flags (taken ++ more) = some (first, more) := by
      refine htaken more ?_
      rintro ⟨l, rfl⟩
      cases hset
    rw [readRange_single hitem' (hmore.trans hends), hset]
    rfl
  · obtain ⟨taken, hne, rfl, htaken⟩ := exists_taken_of_readItem hitem
    rw [readRange_stretch hitem hends hskip] at h
    simp only [Option.bind_eq_some_iff, Prod.exists, Option.ite_none_right_eq_some] at h
    obtain ⟨last, tail, hlast, d, hd, e, he, hle, ⟨⟩⟩ := h
    obtain ⟨taken', hne', hother, htaken'⟩ := exists_taken_of_readItem hlast
    obtain ⟨f, taken', rfl⟩ := List.exists_cons_of_ne_nil hne'
    obtain ⟨skipped, rfl, hskips, hcons⟩ := Flags.exists_skipped_of_skip hskip
    obtain ⟨skipped', hother', hskips'⟩ := flags.exists_skipped other
    have hlook : ∀ {atom : Atom} {c : Char}, atom.member? flags = some c → ¬∃ l, atom = .look l := by
      rintro atom c hatom ⟨l, rfl⟩
      cases hatom
    refine ⟨taken ++ skipped ++ '-' :: (skipped' ++ f :: taken'), by simp [hne], ?_, fun more _ => ?_⟩
    · rw [hother', hother]
      simp
    · have hnext : flags.skip (skipped' ++ (f :: taken' ++ more)) = f :: taken' ++ more :=
        hskips' _ (hother ▸ .cons f _ _)
      have hskip' : flags.skip (skipped ++ '-' :: (skipped' ++ (f :: taken' ++ more))) =
          '-' :: (skipped' ++ (f :: taken' ++ more)) := (hskips _).trans (hcons _)
      have hends' : itemEnds flags (skipped ++ '-' :: (skipped' ++ (f :: taken' ++ more))) = false := by
        rw [← hends, itemEnds_hyphen hskip', itemEnds_hyphen hskip, hnext, hother]
        rfl
      have hitem' := htaken (skipped ++ '-' :: (skipped' ++ (f :: taken' ++ more))) fun h => absurd h (hlook hd)
      have hlast' := htaken' more fun h => absurd h (hlook he)
      rw [List.append_assoc, List.append_assoc, List.cons_append, List.append_assoc,
        readRange_stretch hitem' hends' hskip', hnext, hlast']
      simp only [Option.bind_some, hd, he, if_pos hle]

end Range

/-! ### Lists of items -/

section Bracket

variable {set : CharSet} {height fuel : Nat} {leading : Bool} {waiting : Option Waiting} {items : Items}

/-- A hyphen always means something. -/
theorem Flags.skip_hyphen (flags : Flags) (rest : List Char) : flags.skip ('-' :: rest) = '-' :: rest := by
  have hblank : isBlank '-' = false := by decide
  unfold Flags.skip
  split
  · rw [skipVerbose, hblank]
    rfl
  · rfl

/-- Whether a bracket closes the list, which it does not at its beginning. -/
def closesItems (leading : Bool) (items : Items) (c : Char) : Prop :=
  c = ']' ∧ ¬(leading = true ∧ items.count = 0)

/-- Reads one item of a list or an operation, from its first character on: whether the list still begins, the operation
that waits and the items, and the rest. -/
def readNext (flags : Flags) (fuel : Nat) (leading : Bool) (waiting : Option Waiting) (items : Items) (c : Char)
    (rest : List Char) : Option ((Bool × Option Waiting × Items) × List Char) :=
  if leading && c == '-' then some ((true, waiting, items.push (.of '-') 0), rest)
  else if c = ']' then some ((false, waiting, items.push (.of ']') 0), rest)
  else if c = '[' then
    match readAsciiClass flags rest with
    | some (set, rest) => if flags.allows set then some ((false, waiting, items.push set 0), rest) else none
    | none =>
      (readBracket flags fuel rest).map fun (set, height, rest) => ((false, waiting, items.push set height), rest)
  else
    match rest.head?.bind (Operation.ofPair? c) with
    | some operation =>
      let (left, height) := settled flags waiting items
      some ((false, some { operation, left, height }, {}), rest.drop 1)
    | none => (readRange flags (c :: rest)).map fun (set, rest) => ((false, waiting, items.push set 0), rest)

/-- A list of items ends with a bracket. -/
theorem readItems_close (h : flags.skip text = c :: rest) (hclose : closesItems leading items c) :
    readItems flags (fuel + 1) leading waiting items text =
      some ((settled flags waiting items).1, (settled flags waiting items).2, rest) := by
  obtain ⟨rfl, hbegun⟩ := hclose
  rw [readItems, h]
  simp_all

/-- A list of items goes on with an item or an operation. -/
theorem readItems_next (h : flags.skip text = c :: rest) (hclose : ¬closesItems leading items c) :
    readItems flags (fuel + 1) leading waiting items text =
      (readNext flags fuel leading waiting items c rest).bind fun ((leading, waiting, items), rest) =>
        readItems flags fuel leading waiting items rest := by
  rw [readItems, h]
  unfold readNext
  by_cases hhyphen : (leading && c == '-') = true
  · simp only [hhyphen, if_true, Option.bind_some]
  by_cases hbracket : c = ']'
  · obtain ⟨hleading, hcount⟩ : leading = true ∧ items.count = 0 := by simpa [closesItems, hbracket] using hclose
    simp [hbracket, hleading, hcount]
  have hleading : (leading && c == ']' && items.count == 0) = false := by simp [hbracket]
  simp only [hhyphen, hbracket, hleading, if_false, Bool.false_eq_true]
  split
  · cases readAsciiClass flags rest with
    | some named =>
        dsimp only
        split <;> rfl
    | none => cases readBracket flags fuel rest <;> rfl
  · cases rest.head?.bind (Operation.ofPair? c) with
    | some operation => rfl
    | none => cases readRange flags (c :: rest) <;> rfl

/-- A hyphen among the items is followed by something that means something. -/
theorem skip_ne_nil_of_readNext {result : (Bool × Option Waiting × Items) × List Char}
    (h : readNext flags fuel false waiting items '-' text = some result) : flags.skip text ≠ [] := by
  unfold readNext at h
  simp only [Bool.false_and, Bool.false_eq_true, if_false, Char.reduceEq] at h
  split at h
  · rename_i operation hpair
    obtain ⟨d, hd, hsame⟩ := Option.bind_eq_some_iff.mp hpair
    obtain ⟨tail, rfl⟩ := List.head?_eq_some_iff.mp hd
    unfold Operation.ofPair? at hsame
    split at hsame
    · cases hsame
    · rename_i heq
      rw [← Decidable.not_not.mp heq, Flags.skip_hyphen]
      exact List.cons_ne_nil _ _
  · obtain ⟨found, hrange, -⟩ := Option.map_eq_some_iff.mp h
    obtain ⟨first, after, hitem, hends⟩ := exists_of_readRange hrange
    obtain ⟨-, rfl⟩ : first = .char '-' false ∧ text = after := by
      cases hitem
      exact ⟨rfl, rfl⟩
    rintro hnil
    unfold itemEnds at hends
    simp [hnil] at hends

/-- What comes after the items of a list does not matter for where an item ends before them. -/
theorem itemEnds_append (h : readItems flags fuel false waiting items taken = some (set, height, rest))
    (more : List Char) : itemEnds flags (taken ++ more) = itemEnds flags taken := by
  cases fuel with
  | zero => cases h
  | succ fuel =>
  cases hskip : flags.skip taken with
  | nil =>
      rw [readItems, hskip] at h
      cases h
  | cons c other =>
  have hskip' : flags.skip (taken ++ more) = c :: (other ++ more) := by
    rw [Flags.skip_append (by rw [hskip]; exact List.cons_ne_nil _ _), hskip, List.cons_append]
  by_cases hc : c = '-'
  · subst hc
    have hother : flags.skip other ≠ [] := by
      rw [readItems_next hskip (by simp [closesItems])] at h
      obtain ⟨result, hnext, -⟩ := Option.bind_eq_some_iff.mp h
      exact skip_ne_nil_of_readNext hnext
    rw [itemEnds_hyphen hskip, itemEnds_hyphen hskip', Flags.skip_append hother, head?_append_of_ne_nil hother]
  · unfold itemEnds
    rw [hskip, hskip']
    split <;> split <;> simp_all

/-- The class that the items in a bracket make up. -/
def bracketed? (flags : Flags) (negated : Bool) (set : CharSet) : Option CharSet :=
  let set := flags.folded set
  let set := if negated then flags.complement set else set
  if flags.allows set then some set else none

/-- A class in brackets is made of its items, which may be negated. -/
theorem readBracket_succ (flags : Flags) (fuel : Nat) (text : List Char) :
    readBracket flags (fuel + 1) text =
      (readItems flags fuel true none {}
        (if (flags.skip text).head? = some '^' then (flags.skip text).drop 1 else flags.skip text)).bind
        fun (set, height, rest) =>
          (bracketed? flags ((flags.skip text).head? = some '^') set).map fun set => (set, height + 1, rest) := by
  rw [readBracket]
  simp only [bind]
  congr 1
  funext ⟨set, height, rest⟩
  by_cases hnegated : (flags.skip text).head? = some '^'
  · simp only [bracketed?, hnegated, decide_true, if_true]
    split <;> rfl
  · simp only [bracketed?, hnegated, decide_false, Bool.false_eq_true, if_false]
    split <;> rfl

/-- Before its items, a class in brackets has what is skipped and the mark that negates it. Other items may be put in
their place, if they begin alike. -/
theorem exists_readBracket_eq (flags : Flags) (text : List Char) :
    ∃ before inner negated, text = before ++ inner ∧ ∀ fuel more, more.head? = inner.head? →
      readBracket flags (fuel + 1) (before ++ more) =
        (readItems flags fuel true none {} more).bind fun (set, height, rest) =>
          (bracketed? flags negated set).map fun set => (set, height + 1, rest) := by
  cases hskip : flags.skip text with
  | nil =>
      refine ⟨text, [], false, (List.append_nil text).symm, fun fuel more hmore => ?_⟩
      rw [List.head?_eq_none_iff.mp hmore, List.append_nil, readBracket_succ, hskip]
      rfl
  | cons c inner =>
      obtain ⟨skipped, rfl, hskips, hcons⟩ := Flags.exists_skipped_of_skip hskip
      by_cases hc : c = '^'
      · subst hc
        refine ⟨skipped ++ ['^'], inner, true, by simp, fun fuel more _ => ?_⟩
        have hskip' : flags.skip (skipped ++ '^' :: more) = '^' :: more := (hskips _).trans (hcons _)
        rw [List.append_assoc, List.singleton_append, readBracket_succ, hskip']
        simp
      · refine ⟨skipped, c :: inner, false, rfl, fun fuel more hmore => ?_⟩
        obtain ⟨more, rfl⟩ := List.head?_eq_some_iff.mp hmore
        have hskip' : flags.skip (skipped ++ c :: more) = c :: more := (hskips _).trans (hcons _)
        rw [readBracket_succ, hskip']
        simp [hc]

variable {result : CharSet × Nat × List Char}

/-- With enough fuel, a class in brackets is read from a beginning of the text, whatever comes after it. -/
def TakesBracket (flags : Flags) (text : List Char) (result : CharSet × Nat × List Char) : Prop :=
  ∃ taken, text = taken ++ result.2.2 ∧ ']' ∈ taken ∧
    ∀ fuel more, 2 * taken.length + 2 ≤ fuel →
      readBracket flags fuel (taken ++ more) = some (result.1, result.2.1, more)

/-- With enough fuel, items are read from a beginning of the text, whatever comes after them. -/
def TakesItems (flags : Flags) (leading : Bool) (waiting : Option Waiting) (items : Items) (text : List Char)
    (result : CharSet × Nat × List Char) : Prop :=
  ∃ taken, text = taken ++ result.2.2 ∧ ']' ∈ taken ∧
    ∀ fuel more, 2 * taken.length + 1 ≤ fuel →
      readItems flags fuel leading waiting items (taken ++ more) = some (result.1, result.2.1, more)

/-- **An item is local** if classes in brackets are. What follows has to begin alike, and if the list has begun, the
item has to end before it or not as it did. -/
theorem exists_taken_of_readNext {leading' : Bool} {waiting' : Option Waiting} {items' : Items}
    (hbracket : ∀ {text result}, readBracket flags fuel text = some result → TakesBracket flags text result)
    (h : readNext flags fuel leading waiting items c text = some ((leading', waiting', items'), rest)) :
    ∃ taken, text = taken ++ rest ∧ ∀ fuel more, 2 * taken.length + 2 ≤ fuel → more.head? = rest.head? →
      (leading' = false → itemEnds flags more = itemEnds flags rest) →
        readNext flags fuel leading waiting items c (taken ++ more) = some ((leading', waiting', items'), more) := by
  unfold readNext at h
  split at h
  case isTrue hhyphen =>
    cases h
    exact ⟨[], rfl, fun fuel' more _ _ _ => if_pos hhyphen⟩
  case isFalse hhyphen =>
  split at h
  case isTrue hleading =>
    cases h
    exact ⟨[], rfl, fun fuel' more _ _ _ => by rw [readNext, if_neg hhyphen, if_pos hleading]; rfl⟩
  case isFalse hleading =>
  split at h
  case isTrue hopen =>
    cases hword : readAsciiClass flags text with
    | some named =>
        obtain ⟨set, after⟩ := named
        simp only [hword, Option.ite_none_right_eq_some] at h
        obtain ⟨hallowed, heq⟩ := h
        cases heq
        obtain ⟨word, rfl, -, hnamed⟩ := exists_taken_of_readAsciiClass hword
        refine ⟨word ++ [']'], by simp, fun fuel' more _ _ _ => ?_⟩
        rw [readNext, if_neg hhyphen, if_neg hleading, if_pos hopen, List.append_assoc, List.singleton_append, hnamed]
        exact if_pos hallowed
    | none =>
        simp only [hword] at h
        obtain ⟨⟨set, height, after⟩, hread, heq⟩ := Option.map_eq_some_iff.mp h
        cases heq
        obtain ⟨taken, rfl, hclose, htaken⟩ := hbracket hread
        refine ⟨taken, rfl, fun fuel' more hfuel _ _ => ?_⟩
        rw [readNext, if_neg hhyphen, if_neg hleading, if_pos hopen, readAsciiClass_eq_none hword hclose more,
          htaken fuel' more hfuel]
        rfl
  case isFalse hopen =>
    cases hpair : text.head?.bind (Operation.ofPair? c) with
    | some operation =>
        simp only [hpair] at h
        cases h
        obtain ⟨d, hd, hsame⟩ := Option.bind_eq_some_iff.mp hpair
        obtain ⟨text, rfl⟩ := List.head?_eq_some_iff.mp hd
        refine ⟨[d], rfl, fun fuel' more _ _ _ => ?_⟩
        rw [readNext, if_neg hhyphen, if_neg hleading, if_neg hopen, List.singleton_append, List.head?_cons,
          Option.bind_some, hsame]
        rfl
    | none =>
        simp only [hpair] at h
        obtain ⟨⟨set, after⟩, hrange, heq⟩ := Option.map_eq_some_iff.mp h
        cases heq
        obtain ⟨first, hne, htext, hfirst⟩ := exists_taken_of_readRange hrange
        obtain ⟨d, taken, rfl⟩ := List.exists_cons_of_ne_nil hne
        rw [List.cons_append, List.cons.injEq] at htext
        obtain ⟨rfl, rfl⟩ := htext
        refine ⟨taken, rfl, fun fuel' more _ hhead hends => ?_⟩
        have hpair' : (taken ++ more).head?.bind (Operation.ofPair? c) = none := by
          rw [← hpair, List.head?_append, List.head?_append, hhead]
        have hfirst' := hfirst more (hends rfl)
        rw [List.cons_append] at hfirst'
        rw [readNext, if_neg hhyphen, if_neg hleading, if_neg hopen, hpair']
        simp only [hfirst', Option.map_some]

/-- A class in brackets is local if its items are. -/
theorem takesBracket_succ
    (hitems : ∀ {text result}, readItems flags fuel true none {} text = some result →
      TakesItems flags true none {} text result)
    (h : readBracket flags (fuel + 1) text = some result) : TakesBracket flags text result := by
  obtain ⟨before, inner, negated, rfl, hbracket⟩ := exists_readBracket_eq flags text
  rw [hbracket fuel inner rfl] at h
  obtain ⟨⟨set, height, after⟩, hread, h⟩ := Option.bind_eq_some_iff.mp h
  obtain ⟨set, hset, rfl⟩ := Option.map_eq_some_iff.mp h
  obtain ⟨taken, rfl, hclose, htaken⟩ := hitems hread
  refine ⟨before ++ taken, (List.append_assoc ..).symm, by simp [hclose], fun fuel' more hfuel => ?_⟩
  rw [List.length_append] at hfuel
  obtain ⟨fuel', rfl⟩ := Nat.exists_eq_add_of_le' (show 1 ≤ fuel' by omega)
  have hne : taken ≠ [] := List.ne_nil_of_mem hclose
  have hhead : (taken ++ more).head? = (taken ++ after).head? := by
    rw [head?_append_of_ne_nil hne, head?_append_of_ne_nil hne]
  rw [List.append_assoc, hbracket fuel' _ hhead, htaken fuel' more (by omega), Option.bind_some]
  exact congrArg (Option.map _) hset

/-- Items are local if classes in brackets and further items are. -/
theorem takesItems_succ
    (hbracket : ∀ {text result}, readBracket flags fuel text = some result → TakesBracket flags text result)
    (hitems : ∀ {leading waiting items text result}, readItems flags fuel leading waiting items text = some result →
      TakesItems flags leading waiting items text result)
    (h : readItems flags (fuel + 1) leading waiting items text = some result) :
    TakesItems flags leading waiting items text result := by
  cases hskip : flags.skip text with
  | nil =>
      rw [readItems, hskip] at h
      cases h
  | cons c other =>
  obtain ⟨skipped, rfl, hskips, hcons⟩ := Flags.exists_skipped_of_skip hskip
  by_cases hclose : closesItems leading items c
  · rw [readItems_close hskip hclose] at h
    cases h
    refine ⟨skipped ++ [c], by simp, by simp [hclose.1], fun fuel' more hfuel => ?_⟩
    obtain ⟨fuel', rfl⟩ := Nat.exists_eq_add_of_le' (show 1 ≤ fuel' by omega)
    have hskip' : flags.skip (skipped ++ ([c] ++ more)) = c :: more := (hskips _).trans (hcons _)
    rw [List.append_assoc, readItems_close hskip' hclose]
  · rw [readItems_next hskip hclose] at h
    obtain ⟨⟨⟨leading', waiting', items'⟩, middle⟩, hnext, hread⟩ := Option.bind_eq_some_iff.mp h
    obtain ⟨first, rfl, hfirst⟩ := exists_taken_of_readNext hbracket hnext
    obtain ⟨taken, rfl, hbracket, htaken⟩ := hitems hread
    refine ⟨skipped ++ c :: (first ++ taken), by simp, by simp [hbracket], fun fuel' more hfuel => ?_⟩
    simp only [List.length_append, List.length_cons] at hfuel
    obtain ⟨fuel', rfl⟩ := Nat.exists_eq_add_of_le' (show 1 ≤ fuel' by omega)
    have hskip' : flags.skip (skipped ++ c :: (first ++ (taken ++ more))) = c :: (first ++ (taken ++ more)) :=
      (hskips _).trans (hcons _)
    have hne : taken ≠ [] := List.ne_nil_of_mem hbracket
    have hhead : (taken ++ more).head? = (taken ++ result.2.2).head? := by
      rw [head?_append_of_ne_nil hne, head?_append_of_ne_nil hne]
    have hends : leading' = false → itemEnds flags (taken ++ more) = itemEnds flags (taken ++ result.2.2) := by
      rintro rfl
      have hread' := htaken (2 * taken.length + 1) [] (Nat.le_refl _)
      rw [List.append_nil] at hread'
      rw [itemEnds_append hread', itemEnds_append hread']
    rw [List.append_assoc, List.cons_append, List.append_assoc, readItems_next hskip' hclose,
      hfirst fuel' (taken ++ more) (by omega) hhead hends]
    exact htaken fuel' more (by omega)

/-- **Classes in brackets are local**: reading one takes a beginning of the text, up to a closing bracket, and needs
twice as much fuel as that has characters, and two more. -/
theorem takes_bracket (flags : Flags) (fuel : Nat) :
    (∀ {text result}, readBracket flags fuel text = some result → TakesBracket flags text result) ∧
    ∀ {leading waiting items text result}, readItems flags fuel leading waiting items text = some result →
      TakesItems flags leading waiting items text result := by
  induction fuel with
  | zero => exact ⟨nofun, nofun⟩
  | succ fuel ih => exact ⟨takesBracket_succ ih.2, takesItems_succ ih.1 ih.2⟩

end Bracket

end StubServer.Regex
