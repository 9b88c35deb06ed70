import StubServer.Http.Route
import StubServer.Proofs.Text.Integer
import StubServer.Proofs.Text.Split

/-!
# Which paths lead where

Below the path of the rules, slashes that come before another slash or at the end do not matter. `Route.Below`
says what is left of a path without them, and with that a route at which something can be changed has the paths
that one would write for it, and no others: a rule has those with a text that spells its number.

A path that begins like that of the rules but goes on without a slash leads nowhere.

## Main statements

* `Route.segments_spelled`, `Route.tidy_eq_spelled`: the parts of a path, and the path without its redundant slashes,
  which is its parts, each after one slash.
* `Route.ofPath_eq_iff`: the paths of a route at which something can be changed, and one by one
  `Route.ofPath_eq_rules_iff`, `Route.ofPath_eq_batch_iff`, `Route.ofPath_eq_reload_iff`, `Route.ofPath_eq_rule_iff`
  and `Route.ofPath_eq_toggle_iff`.
* `Route.ofPath_intText`: the decimal text of an integer leads to the rule with that number.
-/

namespace StubServer

namespace Route

variable {path : String} {text rest : List Char} {parts : List (List Char)} {route : Route} {id : Int}

/-! ### Redundant slashes -/

/-- The text without the slashes that come before another slash or at the end. -/
def tidy : List Char → List Char
  | [] => []
  | c :: rest => if c = '/' ∧ rest.head?.getD '/' = '/' then tidy rest else c :: tidy rest

/-- The parts of a path, each after a slash. -/
def spelled (parts : List (List Char)) : List Char :=
  parts.flatMap ('/' :: ·)

/-- The parts of a path hold something, and no slashes. -/
def Proper (parts : List (List Char)) : Prop :=
  ∀ part ∈ parts, part ≠ [] ∧ '/' ∉ part

/-- What stands between slashes, and is not empty, is a part. -/
theorem proper_segments (text : List Char) : Proper (segments text) := by
  intro part hpart
  obtain ⟨hpiece, hnonempty⟩ := List.mem_filter.mp hpart
  exact ⟨by simpa using hnonempty, notMem_of_mem_pieces hpiece⟩

/-- A slash at the beginning does not change the parts. -/
theorem segments_cons_slash (text : List Char) : segments ('/' :: text) = segments text := by
  rw [segments, segments, pieces_cons_mark]
  rfl

/-- **Parts that are spelled out** are read again. -/
theorem segments_spelled (h : Proper parts) : segments (spelled parts) = parts := by
  induction parts with
  | nil => rfl
  | cons part more ih =>
      obtain ⟨⟨hnonempty, hslash⟩, hmore⟩ := List.forall_mem_cons.mp h
      have hpart : spelled (part :: more) = '/' :: (part ++ spelled more) := rfl
      rw [hpart, segments_cons_slash]
      -- The part ends at the slash of the next one, or with the text.
      have hnext : ∃ others, pieces '/' (spelled more) = [] :: others := by
        cases more with
        | nil => exact ⟨[], rfl⟩
        | cons next others => exact ⟨_, pieces_cons_mark _⟩
      obtain ⟨others, hothers⟩ := hnext
      have hfilter := ih hmore
      rw [segments, hothers] at hfilter
      rw [segments, pieces_append hslash hothers]
      exact (List.filter_cons_of_pos (by simpa using hnonempty)).trans (congrArg (part :: ·) hfilter)

/-- Without redundant slashes a text is its first piece and then its parts, each after one slash. -/
theorem tidy_eq {piece : List Char} {more : List (List Char)} (h : pieces '/' text = piece :: more) :
    tidy text = piece ++ spelled (more.filter fun part => !part.isEmpty) := by
  induction text generalizing piece more with
  | nil =>
      obtain ⟨rfl, rfl⟩ := List.cons_eq_cons.mp h
      rfl
  | cons c rest ih =>
      obtain ⟨first, others, hpieces⟩ := exists_pieces '/' rest
      have hrest := ih hpieces
      have hhead := pieces_eq_nil_cons_iff '/' rest
      by_cases hc : c = '/'
      · subst hc
        rw [pieces_cons_mark, hpieces] at h
        obtain ⟨rfl, rfl⟩ := List.cons_eq_cons.mp h
        rw [tidy, hrest]
        cases first with
        | nil => exact if_pos ⟨rfl, hhead.mp ⟨others, hpieces⟩⟩
        | cons d first =>
            refine if_neg fun hredundant => ?_
            obtain ⟨_, hnil⟩ := hhead.mpr hredundant.2
            cases hpieces.symm.trans hnil
      · rw [pieces_cons_of_ne hc hpieces] at h
        obtain ⟨rfl, rfl⟩ := List.cons_eq_cons.mp h
        rw [tidy, if_neg fun hredundant => hc hredundant.1, hrest]
        rfl

/-- **Without redundant slashes** a text that begins with a slash, if with anything, is its parts, each after one
slash. -/
theorem tidy_eq_spelled (h : text.head?.getD '/' = '/') : tidy text = spelled (segments text) := by
  obtain ⟨more, hpieces⟩ := (pieces_eq_nil_cons_iff '/' text).mpr h
  rw [tidy_eq hpieces, segments, hpieces]
  rfl

example : tidy "//7///toggle/".toList = "/7/toggle".toList := by decide

/-- A text that begins with something else does so without its redundant slashes. -/
theorem tidy_ne_spelled (h : text.head?.getD '/' ≠ '/') (parts : List (List Char)) : tidy text ≠ spelled parts := by
  cases text with
  | nil => exact absurd rfl h
  | cons c rest =>
      have hc : c ≠ '/' := h
      rw [tidy, if_neg fun hredundant => hc hredundant.1]
      cases parts with
      | nil => exact List.cons_ne_nil _ _
      | cons part more => exact fun heq => hc (List.cons_eq_cons.mp heq).1

/-- Parts that are spelled out have no redundant slashes. -/
theorem tidy_spelled (h : Proper parts) : tidy (spelled parts) = spelled parts := by
  have hhead : (spelled parts).head?.getD '/' = '/' := by cases parts <;> rfl
  rw [tidy_eq_spelled hhead, segments_spelled h]

/-! ### Reading paths -/

/-- The path is that of the rules and then a text, but for redundant slashes in that. -/
def Below (path : String) (text : List Char) : Prop :=
  ∃ rest, path.toList = "/admin/stubs".toList ++ rest ∧ tidy rest = text

/-- Whether there is a method that changes something. -/
def mayChange : Route → Bool
  | rules | batch | reload | rule _ | toggle _ => true
  | health | ping | metrics | search | statistics | invalidId _ | unknown => false

/-- How the parts of a path name what can be changed. -/
inductive Names : List (List Char) → Route → Prop
  | rules : Names [] rules
  | batch : Names ["batch".toList] batch
  | reload : Names ["reload".toList] reload
  | rule {text : List Char} {id : Int} (h : Spells text id) : Names [text] (rule id)
  | toggle {text : List Char} {id : Int} (h : Spells text id) : Names [text, "toggle".toList] (toggle id)

/-- Names hold something, and no slashes. -/
theorem Names.proper (h : Names parts route) : Proper parts := by
  cases h with
  | rules => exact List.forall_mem_nil _
  | batch => exact List.forall_mem_singleton.mpr (by decide)
  | reload => exact List.forall_mem_singleton.mpr (by decide)
  | rule h => exact List.forall_mem_singleton.mpr h.proper
  | toggle h => exact List.forall_mem_cons.mpr ⟨h.proper, List.forall_mem_singleton.mpr (by decide)⟩

/-- The parts of a path lead to what they name. -/
theorem Names.ofSegments_eq (h : Names parts route) : ofSegments parts = route := by
  cases h with
  | rules => rfl
  | batch => decide
  | reload => decide
  | rule h =>
      have hbatch := h.ne_word "batch".toList (by decide)
      have hsearch := h.ne_word "search".toList (by decide)
      have hstatistics := h.ne_word "statistics".toList (by decide)
      have hreload := h.ne_word "reload".toList (by decide)
      rw [ofSegments, if_neg hbatch, if_neg hsearch, if_neg hstatistics, if_neg hreload,
        readInteger?_eq_some_iff.mpr h]
  | toggle h =>
      rw [ofSegments, readInteger?_eq_some_iff.mpr h]
      exact if_pos rfl

/-- A single part names what can be changed, or nothing can be. -/
theorem names_of_ofSegments_singleton {part : List Char} (hpart : ofSegments [part] = route)
    (h : route.mayChange = true) : Names [part] route := by
  rw [ofSegments] at hpart
  split at hpart
  · rename_i hbatch
    exact hpart ▸ hbatch ▸ .batch
  · split at hpart
    · subst hpart
      cases h
    · split at hpart
      · subst hpart
        cases h
      · split at hpart
        · rename_i hreload
          exact hpart ▸ hreload ▸ .reload
        · split at hpart
          · rename_i hread
            exact hpart ▸ .rule (readInteger?_eq_some_iff.mp hread)
          · subst hpart
            cases h

/-- Two parts name what can be changed, or nothing can be. -/
theorem names_of_ofSegments_pair {part action : List Char} (hparts : ofSegments [part, action] = route)
    (h : route.mayChange = true) : Names [part, action] route := by
  rw [ofSegments] at hparts
  split at hparts
  · rename_i hread
    split at hparts
    · rename_i htoggle
      exact hparts ▸ htoggle ▸ .toggle (readInteger?_eq_some_iff.mp hread)
    · subst hparts
      cases h
  · subst hparts
    cases h

/-- What can be changed is named by the parts that lead there. -/
theorem names_ofSegments (h : (ofSegments parts).mayChange = true) : Names parts (ofSegments parts) := by
  match parts with
  | [] => exact .rules
  | [part] => exact names_of_ofSegments_singleton rfl h
  | [part, action] => exact names_of_ofSegments_pair rfl h
  | _ :: _ :: _ :: _ => cases h

/-- What comes after the start of a text. -/
theorem after?_eq_some_iff {start : List Char} : after? start text = some rest ↔ text = start ++ rest := by
  induction start generalizing text with
  | nil => exact Option.some_inj
  | cons c start ih =>
      cases text with
      | nil => simp [after?]
      | cons d text =>
          rw [after?, List.cons_append, List.cons_eq_cons]
          split
          · rename_i hcd
            rw [ih]
            exact (and_iff_right hcd.symm).symm
          · rename_i hcd
            exact iff_of_false nofun fun heq => hcd heq.1.symm

/-- After the path of the rules, a slash has to come next, if anything. -/
theorem ofPath_of_after? (h : after? "/admin/stubs".toList path.toList = some rest) :
    ofPath path = if rest.head?.getD '/' = '/' then ofSegments (segments rest) else unknown := by
  have hother : ∀ other : String, after? "/admin/stubs".toList other.toList = none → path ≠ other := by
    rintro other hnone rfl
    cases h.symm.trans hnone
  unfold ofPath
  rw [if_neg (hother _ (by decide)), if_neg (hother _ (by decide)), if_neg (hother _ (by decide)), h]
  cases rest with
  | nil => rfl
  | cons c rest =>
      by_cases hc : c = '/'
      · subst hc
        rw [segments_cons_slash]
        rfl
      · have hhead : ¬ (c :: rest).head?.getD '/' = '/' := hc
        rw [if_neg hhead]
        split
        · cases ‹some (c :: rest) = some []›
        · rename_i heq
          exact absurd (List.cons_eq_cons.mp (Option.some.inj heq)).1 hc
        · rfl

/-- Elsewhere nothing can be changed. -/
theorem mayChange_of_after?_eq_none (h : after? "/admin/stubs".toList path.toList = none) :
    (ofPath path).mayChange = false := by
  unfold ofPath
  rw [h]
  split
  · rfl
  · split
    · rfl
    · split <;> rfl

/-- **The paths of a route** at which something can be changed are those that spell out a name of it, but for
redundant slashes. -/
theorem ofPath_eq_iff (hroute : route.mayChange = true) :
    ofPath path = route ↔ ∃ parts, Names parts route ∧ Below path (spelled parts) := by
  constructor
  · rintro rfl
    cases hafter : after? "/admin/stubs".toList path.toList with
    | none => exact absurd (hroute.symm.trans (mayChange_of_after?_eq_none hafter)) Bool.noConfusion
    | some rest =>
        rw [ofPath_of_after? hafter] at hroute ⊢
        split at hroute
        · rename_i hhead
          rw [if_pos hhead]
          exact ⟨segments rest, names_ofSegments hroute, rest, after?_eq_some_iff.mp hafter, tidy_eq_spelled hhead⟩
        · cases hroute
  · rintro ⟨parts, hnames, rest, hpath, htidy⟩
    rw [ofPath_of_after? (after?_eq_some_iff.mpr hpath)]
    by_cases hhead : rest.head?.getD '/' = '/'
    · -- Spelling out is injective on the parts of paths.
      have hsegments := congrArg segments ((tidy_eq_spelled hhead).symm.trans htidy)
      rw [segments_spelled hnames.proper, segments_spelled (proper_segments rest)] at hsegments
      rw [if_pos hhead, hsegments, hnames.ofSegments_eq]
    · exact absurd htidy (tidy_ne_spelled hhead parts)

/-! ### The paths of each route -/

/-- The paths at which rules are created. -/
theorem ofPath_eq_rules_iff : ofPath path = .rules ↔ Below path [] := by
  rw [ofPath_eq_iff rfl]
  constructor
  · rintro ⟨parts, ⟨⟩, hpath⟩
    exact hpath
  · exact fun hpath => ⟨[], .rules, hpath⟩

/-- The paths at which several rules are created at once. -/
theorem ofPath_eq_batch_iff : ofPath path = .batch ↔ Below path "/batch".toList := by
  rw [ofPath_eq_iff rfl]
  constructor
  · rintro ⟨parts, ⟨⟩, hpath⟩
    exact hpath
  · exact fun hpath => ⟨["batch".toList], .batch, hpath⟩

/-- The paths at which the index is made anew. -/
theorem ofPath_eq_reload_iff : ofPath path = .reload ↔ Below path "/reload".toList := by
  rw [ofPath_eq_iff rfl]
  constructor
  · rintro ⟨parts, ⟨⟩, hpath⟩
    exact hpath
  · exact fun hpath => ⟨["reload".toList], .reload, hpath⟩

/-- The paths of a rule. -/
theorem ofPath_eq_rule_iff : ofPath path = .rule id ↔ ∃ text, Spells text id ∧ Below path ('/' :: text) := by
  have hspelled : ∀ text : List Char, spelled [text] = '/' :: text := by simp [spelled]
  rw [ofPath_eq_iff rfl]
  constructor
  · rintro ⟨parts, hnames, hpath⟩
    cases hnames with
    | rule hid => exact ⟨_, hid, hspelled _ ▸ hpath⟩
  · rintro ⟨text, hid, hpath⟩
    exact ⟨[text], .rule hid, (hspelled text).symm ▸ hpath⟩

/-- The paths at which a rule is enabled or disabled. -/
theorem ofPath_eq_toggle_iff :
    ofPath path = .toggle id ↔ ∃ text, Spells text id ∧ Below path ('/' :: text ++ "/toggle".toList) := by
  have hspelled : ∀ text : List Char, spelled [text, "toggle".toList] = '/' :: text ++ "/toggle".toList := by
    simp [spelled]
  rw [ofPath_eq_iff rfl]
  constructor
  · rintro ⟨parts, hnames, hpath⟩
    cases hnames with
    | toggle hid => exact ⟨_, hid, hspelled _ ▸ hpath⟩
  · rintro ⟨text, hid, hpath⟩
    exact ⟨[text, "toggle".toList], .toggle hid, (hspelled text).symm ▸ hpath⟩

/-- A path without redundant slashes leads where it says. -/
theorem ofPath_spelled (hroute : route.mayChange = true) (hnames : Names parts route)
    (hpath : path.toList = "/admin/stubs".toList ++ spelled parts) : ofPath path = route :=
  (ofPath_eq_iff hroute).mpr ⟨parts, hnames, spelled parts, hpath, tidy_spelled hnames.proper⟩

/-- **The decimal text** of an integer of 64 bits leads to the rule with that number. -/
theorem ofPath_intText (hleast : -9223372036854775808 ≤ id) (hgreatest : id ≤ 9223372036854775807) :
    ofPath ("/admin/stubs/" ++ .ofList (intText id)) = .rule id ∧
      ofPath ("/admin/stubs/" ++ .ofList (intText id) ++ "/toggle") = .toggle id := by
  have hspells := spells_intText hleast hgreatest
  exact ⟨ofPath_spelled rfl (.rule hspells) (by simp [spelled]),
    ofPath_spelled rfl (.toggle hspells) (by simp [spelled])⟩

end Route

end StubServer
