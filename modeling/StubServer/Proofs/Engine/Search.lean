import StubServer.Engine.Basic
import StubServer.Proofs.Engine.Repair
import StubServer.Proofs.Unicode.Casing

/-!
# Searching for rules

A search is for the rules whose name holds the keyword, the blanks around it left out and its case disregarded: both
the keyword and the name are put in lower case, each by itself. That finds a keyword wherever it is written, if its
lower case does not depend on what stands beside it, and this is so for all keywords without a capital sigma at the
edge (`Unicode.Exposed`).

## Main statements

* `Engine.search_correct`: what a search finds, and the keywords that it always finds.
* `Engine.not_forall_findsVerbatim`: a keyword that is not found in a name that ends with it.
-/

namespace StubServer

variable {text : List Char} {keyword other : String}

/-! ### Blanks and case -/

/-- A blank text is nothing but blanks. -/
theorem trim_eq_nil (h : text.all isBlank = true) : trim text = [] := by
  have hnil : trimStart text = [] := List.dropWhile_eq_nil_iff.mpr (List.all_eq_true.mp h)
  rw [trim, hnil]
  rfl

/-- A letter is no blank, in either case. -/
theorem isBlank_toLower (c : Char) : isBlank c.toLower = isBlank c := by
  have hletter : ∀ {c : Char}, Unicode.IsLetter c → isBlank c = false := fun {c} h => by
    unfold Unicode.IsLetter at h
    simp [isBlank]
    omega
  rcases Unicode.toLower_eq_or_isLetter c with heq | ⟨hc, hlower⟩
  · rw [heq]
  · rw [hletter hc, hletter hlower]

/-- The blanks around a text in ASCII lower case. -/
theorem trim_map_toLower (text : List Char) : trim (text.map Char.toLower) = (trim text).map Char.toLower := by
  have hblank : isBlank ∘ Char.toLower = isBlank := funext isBlank_toLower
  rw [trim, trim, trimStart, trimStart, trimStart, trimStart, List.dropWhile_map, hblank, ← List.map_reverse,
    List.dropWhile_map, hblank, List.map_reverse]

namespace Engine

/-- What a name must hold for a keyword is told by the keyword in ASCII lower case. -/
theorem nameContains_congr (h : asciiLower other = asciiLower keyword) (name : List Char) :
    nameContains other.toList name = nameContains keyword.toList name := by
  have hlower : other.toList.map Char.toLower = keyword.toList.map Char.toLower := String.ofList_injective h
  rw [nameContains, nameContains, ← Unicode.lowercase_map_toLower (trim other.toList), ← trim_map_toLower, hlower,
    trim_map_toLower, Unicode.lowercase_map_toLower]

/-- A name that holds a keyword is found, if the keyword has no sigma at its edge. -/
theorem nameContains_of_infix (hedge : ¬ Unicode.Exposed (trim keyword.toList)) {name : List Char}
    (h : trim keyword.toList <:+: name) : nameContains keyword.toList name = true := by
  obtain ⟨left, right, rfl⟩ := h
  rw [nameContains, occursIn_iff, ← Unicode.lowerWithin_of_not_exposed hedge left.reverse right]
  exact Unicode.lowerWithin_infix left (trim keyword.toList) right

/-- Every name holds a blank keyword. -/
theorem nameContains_of_blank (h : isBlankText keyword = true) (name : List Char) :
    nameContains keyword.toList name = true := by
  rw [nameContains, trim_eq_nil h, occursIn_iff]
  exact List.nil_infix

/-! ### Searches -/

/-- What a search comes to is part of what there is to list. -/
structure SearchesList (engine : Engine) (env : Surroundings) (keyword : String) : Prop where
  /-- It fails if the rules cannot be listed, for the same reason. -/
  fails : ∀ error, engine.search env keyword = .error error ↔ engine.list env = .error error
  /-- The rules that are found are some of those listed, in the order of their numbers. -/
  finds : ∀ found, engine.search env keyword = .ok found →
    (∃ rules, engine.list env = .ok rules ∧ found.Sublist rules) ∧ found.Pairwise Rule.Below
  /-- For a blank keyword they are all of those listed. -/
  all : isBlankText keyword = true → engine.search env keyword = engine.list env

/-- All rules are found whose names hold the trimmed keyword just as it is written. -/
def FindsVerbatim (keyword : String) : Prop :=
  ∀ (engine : Engine) (env : Surroundings), engine.store.Reachable → ∀ rules, engine.list env = .ok rules →
    ∃ found, engine.search env keyword = .ok found ∧
      ∀ rule ∈ rules, trim keyword.toList <:+: rule.name.toList → rule ∈ found

variable {engine : Engine} {env : Surroundings} {rules : List Rule}

/-- The rules that a search finds. -/
theorem search_of_list (h : engine.list env = .ok rules) (keyword : String) :
    engine.search env keyword = .ok (rules.filter fun rule => nameContains keyword.toList rule.name.toList) := by
  rw [search, h]
  rfl

/-- What is listed are the rules of the table. -/
theorem eq_all_of_list (h : engine.list env = .ok rules) : rules = engine.store.table.all := by
  rw [list, asked] at h
  cases hload : engine.store.loadAll (env.condition 0) with
  | error e => rw [hload] at h; cases h
  | ok loaded =>
      rw [hload] at h
      obtain rfl := Except.ok.inj h
      exact Store.eq_of_loadAll hload

/-- A search in a store whose numbers ascend. -/
theorem searchesList (hstore : engine.store.table.WellFormed) (env : Surroundings) (keyword : String) :
    engine.SearchesList env keyword := by
  cases hlist : engine.list env with
  | error e =>
      have hsearch : engine.search env keyword = .error e := by rw [search, hlist]; rfl
      refine ⟨fun error => ?_, fun found hfound => ?_, fun _ => hsearch.trans hlist.symm⟩
      · rw [hsearch, hlist]
      · cases hsearch.symm.trans hfound
  | ok rules =>
      have hsearch := search_of_list hlist keyword
      refine ⟨fun error => ?_, fun found hfound => ?_, fun hblank => ?_⟩
      · rw [hsearch, hlist]
        exact ⟨nofun, nofun⟩
      · obtain rfl := Except.ok.inj (hsearch.symm.trans hfound)
        have hsublist : (rules.filter fun rule => nameContains keyword.toList rule.name.toList).Sublist rules :=
          List.filter_sublist
        exact ⟨⟨rules, hlist, hsublist⟩, (eq_all_of_list hlist ▸ hstore.pairwise_below).sublist hsublist⟩
      · rw [hsearch, hlist, List.filter_eq_self.mpr fun rule _ => nameContains_of_blank hblank rule.name.toList]

/-- An engine with one rule in memory. -/
def named (name : String) : Engine where
  store := { table := { rows := [(1, { id := some 1, name })], lastId := 1 } }

/-- Such an engine comes about. -/
theorem reachable_named (name : String) : (named name).store.Reachable := by
  have hload : Store.ofRules [{ name }] = .ok (named name).store := rfl
  exact .ofRules hload

/-- What is found verbatim is found by the name alone. -/
theorem nameContains_of_findsVerbatim (h : FindsVerbatim keyword) {name : List Char}
    (hname : trim keyword.toList <:+: name) : nameContains keyword.toList name = true := by
  have hlist : (named (.ofList name)).list calm = .ok [{ id := some 1, name := .ofList name }] := rfl
  obtain ⟨found, hsearch, hfound⟩ := h (named (.ofList name)) calm (reachable_named _) _ hlist
  have hmem := hfound _ List.mem_cons_self (by rwa [String.toList_ofList])
  rw [search_of_list hlist] at hsearch
  obtain rfl := Except.ok.inj hsearch
  have hholds := (List.mem_filter.mp hmem).2
  rwa [String.toList_ofList] at hholds

/-- **A keyword is found wherever it is written**, exactly if it has no sigma at its edge. -/
theorem findsVerbatim_iff : FindsVerbatim keyword ↔ ¬ Unicode.Exposed (trim keyword.toList) := by
  refine ⟨fun h hedge => ?_, fun hedge engine env _ rules hlist => ?_⟩
  · obtain ⟨name, hname, hmissed⟩ := Unicode.exists_not_occursIn hedge
    cases hmissed.symm.trans (nameContains_of_findsVerbatim h hname)
  · refine ⟨_, search_of_list hlist keyword, fun rule hrule hname => List.mem_filter.mpr ⟨hrule, ?_⟩⟩
    exact nameContains_of_infix hedge hname

/-- **What a search finds.** For every store and keyword it comes to some of the listed rules, in their order, and to
all of them if the keyword is blank; the case of the ASCII letters of the keyword does not matter. All rules whose
names hold the trimmed keyword as it is written are among them, exactly if the keyword has no sigma at its edge. -/
theorem search_correct (keyword : String) :
    (∀ (engine : Engine) (env : Surroundings), engine.store.Reachable → engine.SearchesList env keyword) ∧
      (∀ other, asciiLower other = asciiLower keyword →
        ∀ (engine : Engine) (env : Surroundings), engine.search env other = engine.search env keyword) ∧
      (FindsVerbatim keyword ↔ ¬ Unicode.Exposed (trim keyword.toList)) := by
  refine ⟨fun engine env hstore => searchesList hstore.wellFormed env keyword, fun other hother engine env => ?_,
    findsVerbatim_iff⟩
  have hnames : (fun rule : Rule => nameContains other.toList rule.name.toList) =
      fun rule => nameContains keyword.toList rule.name.toList :=
    funext fun rule => nameContains_congr hother rule.name.toList
  rw [search, search, hnames]

/-- The keyword may be written in capitals, with blanks around it. -/
theorem search_correct_user :
    (named "User lookup").SearchesList calm " USER " ∧
      (named "User lookup").search calm " user " = (named "User lookup").search calm " USER " ∧
      FindsVerbatim " USER " := by
  obtain ⟨hsearches, hcase, hfinds⟩ := search_correct " USER "
  have hlower : asciiLower " user " = asciiLower " USER " := by decide +kernel
  refine ⟨hsearches _ calm (reachable_named _), hcase " user " hlower _ calm, hfinds.mpr ?_⟩
  rintro ⟨left, right, htext, -⟩
  have hsigma : 'Σ' ∉ trim " USER ".toList := by decide +kernel
  exact hsigma (htext ▸ List.mem_append_right left List.mem_cons_self)

/-- A capital sigma as the keyword becomes the sigma within words, but the name that ends with it becomes one with a
final sigma. -/
theorem not_forall_findsVerbatim : ¬ ∀ keyword, FindsVerbatim keyword := fun h => by
  have hname : trim "Σ".toList <:+: ['a', 'Σ'] := ⟨['a'], [], by decide +kernel⟩
  have hholds := nameContains_of_findsVerbatim (h "Σ") hname
  have hkeyword : Unicode.lowercase (trim "Σ".toList) = ['σ'] := by
    have htrim : trim "Σ".toList = ['Σ'] := by decide +kernel
    rw [htrim]
    rfl
  have hlower : Unicode.lowercase ['a', 'Σ'] = ['a', 'ς'] := by
    have hletter : Unicode.meetsCased ['a'] = true := Unicode.meetsCased_cons (.inr (by decide)) []
    have hnone : Unicode.meetsCased [] = false := rfl
    rw [Unicode.lowercase_cons_letter]
    simp [Unicode.lowerWithin, Unicode.lowerAt, Unicode.endsWord, hletter, hnone]
  rw [nameContains, hkeyword, hlower] at hholds
  exact absurd hholds (by decide)

end Engine

end StubServer
