import StubServer.Proofs.Matcher.Compile
import StubServer.Proofs.Regex.Anchoring
import StubServer.Proofs.Regex.Language
import StubServer.Proofs.Text.Split

/-!
# Path templates

A template is literal text with holes in it. Read from left to right, an opening brace that is closed later begins a
hole, which goes on to the first closing brace; every other brace is literal text (`Template.Splits`). A path
fills a template if it is the literal texts in their order with something between each two of them that is
not empty and has no slash in it (`Template.Fills`).

The template is made into a regular expression, which is then read, compiled and searched for. What comes of it are
exactly the paths that fill the template.

## Main statements

* `Template.splits_existsUnique`: every template has its literal texts.
* `Template.templateSource_eq`, `Template.readsAs_source`: the pattern of a template, and how it is read.
* `Template.denotes_expr`: what its expression denotes.
* `UrlMatcher.accepts_template_iff`: which paths a template accepts.
-/

namespace StubServer

open Regex (Expr FitsAnchored Part SizeLimit ReadsAs anchored literal literal_cons compile?)

namespace Template

/-! ### Templates and paths -/

/-- The literal texts of a template, before, between and after its holes. -/
inductive Splits : (template : List Char) → (literals : List (List Char)) → Prop
  /-- No opening brace is closed later. -/
  | literal {text : List Char} (h : ∀ before after, text = before ++ '\x7b' :: after → '\x7d' ∉ after) :
      Splits text [text]
  /-- The first opening brace and the first closing brace after it make up a hole. -/
  | hole {before name rest : List Char} {literals : List (List Char)} (hbefore : '\x7b' ∉ before)
      (hname : '\x7d' ∉ name) (h : Splits rest literals) :
      Splits (before ++ '\x7b' :: (name ++ '\x7d' :: rest)) (before :: literals)

/-- A path is the literal texts of a template with a part of one segment in each of its holes. -/
inductive Fills : (literals : List (List Char)) → (path : List Char) → Prop
  | literal (text : List Char) : Fills [text] text
  | hole {before part rest : List Char} {literals : List (List Char)} (hpart : part ≠ []) (hslash : '/' ∉ part)
      (h : Fills literals rest) : Fills (before :: literals) (before ++ (part ++ rest))

variable {template before name rest text path : List Char} {literals others : List (List Char)} {c : Char}

/-- A text without an opening brace is literal. -/
theorem Splits.of_notMem (h : '\x7b' ∉ text) : Splits text [text] :=
  .literal fun _ _ heq => absurd (by rw [heq]; simp) h

/-- A template has its literal texts. -/
theorem exists_splits (template : List Char) : ∃ literals, Splits template literals := by
  induction hlength : template.length using Nat.strong_induction_on generalizing template with
  | _ length ih =>
      by_cases hopen : '\x7b' ∈ template
      · obtain ⟨before, after, rfl, hbefore⟩ := List.eq_append_cons_of_mem hopen
        by_cases hclose : '\x7d' ∈ after
        · obtain ⟨name, rest, rfl, hname⟩ := List.eq_append_cons_of_mem hclose
          obtain ⟨literals, hrest⟩ := ih rest.length (by simp at hlength; omega) rest rfl
          exact ⟨_, .hole hbefore hname hrest⟩
        · exact ⟨_, .literal fun before' after' heq hmem =>
            hclose ((isSuffix_of_append_cons hbefore heq).subset hmem)⟩
      · exact ⟨_, .of_notMem hopen⟩

/-- Where a hole is, the literal text before it comes first. -/
theorem Splits.exists_of_hole (h : Splits template literals) (hbefore : '\x7b' ∉ before) (hname : '\x7d' ∉ name)
    (htemplate : template = before ++ '\x7b' :: (name ++ '\x7d' :: rest)) :
    ∃ others, literals = before :: others ∧ Splits rest others := by
  cases h with
  | literal hclosed => exact absurd (by simp) (hclosed _ _ htemplate)
  | hole hbefore' hname' h =>
      obtain ⟨rfl, hafter⟩ := append_cons_inj hbefore' hbefore htemplate
      obtain ⟨rfl, rfl⟩ := append_cons_inj hname' hname hafter
      exact ⟨_, rfl, h⟩

/-- A template has no other literal texts. -/
theorem Splits.unique (h : Splits template literals) (h' : Splits template others) : literals = others := by
  induction h generalizing others with
  | literal hclosed =>
      cases h' with
      | literal => rfl
      | hole => exact absurd (by simp) (hclosed _ _ rfl)
  | hole hbefore hname h ih =>
      obtain ⟨others, rfl, hrest⟩ := h'.exists_of_hole hbefore hname rfl
      rw [ih hrest]

/-- **Every template has its literal texts.** -/
theorem splits_existsUnique (template : List Char) : ∃! literals, Splits template literals := by
  obtain ⟨literals, h⟩ := exists_splits template
  exact ⟨literals, h, fun others h' => h'.unique h⟩

/-! ### The pattern of a template -/

/-- The pattern of a template, from its literal texts. -/
def source : List (List Char) → List Char
  | [] => []
  | [text] => literal text
  | before :: literals => literal before ++ ("[^/]+".toList ++ source literals)

/-- The parts of that pattern. -/
def parts : List (List Char) → List Part
  | [] => []
  | [text] => text.map fun c => (.chars (.of c), 0)
  | before :: literals =>
    (before.map fun c => (.chars (.of c), 0)) ++ ((.rep 1 none (.chars (.compl (.of '/'))), 2) :: parts literals)

/-- The expression of a template. -/
def expr (literals : List (List Char)) : Expr :=
  .seqAll ((parts literals).map (·.1))

open UrlMatcher (templateSource)

/-- A text without closed braces is written literally. -/
theorem templateSource_literal (h : ∀ before after, text = before ++ '\x7b' :: after → '\x7d' ∉ after) :
    templateSource false text = literal text := by
  induction text with
  | nil => rfl
  | cons c text ih =>
      have hopen : ¬ (c = '\x7b' ∧ '\x7d' ∈ text) := fun ⟨hc, hmem⟩ => h [] text (hc ▸ rfl) hmem
      have hrest := ih fun before after heq => h (c :: before) after (heq ▸ rfl)
      rw [templateSource, if_neg hopen, hrest, ← literal_cons]

/-- What is in a hole is not read. -/
theorem templateSource_inside (h : '\x7d' ∉ name) (rest : List Char) :
    templateSource true (name ++ '\x7d' :: rest) = templateSource false rest := by
  induction name with
  | nil => simp [templateSource]
  | cons c name ih =>
      obtain ⟨hc, hname⟩ := not_or.mp (List.mem_cons.not.mp h)
      simpa [templateSource, Ne.symm hc] using ih hname

/-- What stands before a hole is written literally. -/
theorem templateSource_append (h : '\x7b' ∉ before) (rest : List Char) :
    templateSource false (before ++ rest) = literal before ++ templateSource false rest := by
  induction before with
  | nil => rfl
  | cons c before ih =>
      obtain ⟨hc, hbefore⟩ := not_or.mp (List.mem_cons.not.mp h)
      have hopen : ¬ (c = '\x7b' ∧ '\x7d' ∈ before ++ rest) := fun ⟨heq, _⟩ => hc heq.symm
      rw [List.cons_append, templateSource, if_neg hopen, ih hbefore, literal_cons c before, List.append_assoc]

/-- Templates have literal texts. -/
theorem Splits.ne_nil (h : Splits template literals) : literals ≠ [] := by
  cases h <;> exact List.cons_ne_nil _ _

/-- The pattern of a template with a hole. -/
theorem source_cons (h : literals ≠ []) :
    source (before :: literals) = literal before ++ ("[^/]+".toList ++ source literals) := by
  cases literals with
  | nil => exact absurd rfl h
  | cons => rfl

/-- The parts of that pattern. -/
theorem parts_cons (h : literals ≠ []) :
    parts (before :: literals) = (before.map fun c => (.chars (.of c), 0)) ++
      ((.rep 1 none (.chars (.compl (.of '/'))), 2) :: parts literals) := by
  cases literals with
  | nil => exact absurd rfl h
  | cons => rfl

/-- **The pattern of a template** comes from its literal texts. -/
theorem templateSource_eq (h : Splits template literals) : templateSource false template = source literals := by
  induction h with
  | literal hclosed => exact templateSource_literal hclosed
  | hole hbefore hname h ih =>
      rw [source_cons h.ne_nil, templateSource_append hbefore, templateSource, if_pos ⟨rfl, by simp⟩,
        templateSource_inside hname, ih]

/-- **The pattern of a template** is read as its parts. -/
theorem readsAs_source (literals : List (List Char)) : ∃ steps, ReadsAs (source literals) steps (parts literals) := by
  induction literals with
  | nil => exact ⟨0, Regex.readsAs_nil⟩
  | cons before literals ih =>
      by_cases hliterals : literals = []
      · subst hliterals
        exact ⟨before.length, Regex.readsAs_literal before⟩
      · obtain ⟨steps, hreads⟩ := ih
        rw [source_cons hliterals, parts_cons hliterals]
        exact ⟨_, (Regex.readsAs_literal before).append (Regex.readsAs_exceptSlash.append hreads)⟩

/-- The parts of a pattern are not high. -/
theorem height_le_of_mem_parts (literals : List (List Char)) : ∀ part ∈ parts literals, part.2 ≤ 2 := by
  have hliteral : ∀ text : List Char, ∀ part ∈ text.map fun c => ((.chars (.of c), 0) : Part), part.2 ≤ 2 := by
    simp
  induction literals with
  | nil => exact List.forall_mem_nil _
  | cons before literals ih =>
      by_cases hliterals : literals = []
      · exact hliterals ▸ hliteral before
      · rw [parts_cons hliterals]
        exact List.forall_mem_append.mpr ⟨hliteral before, List.forall_mem_cons.mpr ⟨Nat.le_refl 2, ih⟩⟩

/-! ### The paths of a template -/

/-- One or more characters other than a slash. -/
theorem denotes_hole :
    (Expr.rep 1 none (.chars (.compl (.of '/')))).Denotes fun s => s ≠ [] ∧ '/' ∉ s := by
  refine (Expr.denotes_rep_compl 1 '/').congr fun s => ?_
  rw [Nat.one_le_iff_ne_zero, ne_eq, List.length_eq_zero_iff]

/-- **The expression of a template** denotes the paths that fill it. -/
theorem denotes_expr (h : literals ≠ []) : (expr literals).Denotes (Fills literals) := by
  induction literals with
  | nil => exact absurd rfl h
  | cons before literals ih =>
      by_cases hliterals : literals = []
      · subst hliterals
        have hexpr : expr [before] = .seqAll ((before.map fun c => .chars (.of c)) ++ []) := by
          simp [expr, parts, Function.comp_def]
        have hempty : (Expr.seqAll []).Denotes (· = []) := Expr.denotes_empty
        rw [hexpr]
        refine (Expr.denotes_literal_append hempty before).congr fun s => ⟨?_, fun hs => ?_⟩
        · rintro ⟨_, rfl, rfl⟩
          rw [List.append_nil]
          exact .literal before
        · cases hs with
          | literal => exact ⟨[], rfl, (List.append_nil _).symm⟩
          | hole _ _ hrest => cases hrest
      · have hexpr : expr (before :: literals) = .seqAll ((before.map fun c => .chars (.of c)) ++
            .rep 1 none (.chars (.compl (.of '/'))) :: (parts literals).map (·.1)) := by
          simp [expr, parts_cons hliterals, Function.comp_def]
        rw [hexpr]
        have hseq := Expr.denotes_literal_append (denotes_hole.seqAll_cons (ih hliterals)) before
        refine hseq.congr fun s => ⟨?_, fun hs => ?_⟩
        · rintro ⟨_, ⟨part, rest, ⟨hpart, hslash⟩, hrest, rfl⟩, rfl⟩
          exact .hole hpart hslash hrest
        · cases hs with
          | literal => exact absurd rfl hliterals
          | hole hpart hslash hrest => exact ⟨_, ⟨_, _, ⟨hpart, hslash⟩, hrest, rfl⟩, rfl⟩

/-- **What a template is compiled to** is its expression between the two ends of the path. -/
theorem compile?_source [SizeLimit] (h : Splits template literals)
    (hfits : FitsAnchored (.ofList (templateSource false template)) (expr literals)) :
    ∃ regex, compile? (anchored (.ofList (templateSource false template))) = some regex ∧
      regex.expr = (expr literals).whole := by
  obtain ⟨steps, hreads⟩ := readsAs_source literals
  rw [templateSource_eq h] at hfits ⊢
  exact ⟨_, Regex.compile?_anchored hreads (height_le_of_mem_parts literals) (by decide) hfits, rfl⟩

end Template

/-- **Which paths a template accepts.** A template has its literal texts, and it accepts the paths that are these
texts in their order, with something between each two of them that is not empty and has no slash in it. The
pattern of a template is a regular expression unless that takes too much room. -/
theorem UrlMatcher.accepts_template_iff [SizeLimit] :
    (∀ template : List Char, ∃! literals, Template.Splits template literals) ∧
    ∀ (limit : Option Nat) (uses : List Regex.Cache.Use) (template path : String) (literals : List (List Char)),
      Template.Splits template.toList literals →
      FitsAnchored (.ofList (templateSource false template.toList)) (Template.expr literals) →
      ((UrlMatcher.compile .pathTemplate template (.after limit uses)).1.accepts path = true ↔
        Template.Fills literals path.toList) := by
  refine ⟨Template.splits_existsUnique, fun limit uses template path literals hsplits hfits => ?_⟩
  obtain ⟨regex, hregex, hexpr⟩ := Template.compile?_source hsplits hfits
  have hget := (Regex.Cache.sound_after limit uses).get_eq (anchored (.ofList (templateSource false template.toList)))
  have hcompile : (UrlMatcher.compile .pathTemplate template (.after limit uses)).1 = .pattern regex := by
    rw [hregex] at hget
    simp only [UrlMatcher.compile, source?, Regex.Cache.getFull]
    split <;> simp_all
  rw [hcompile, UrlMatcher.accepts, Regex.isMatch, hexpr]
  exact (Template.denotes_expr hsplits.ne_nil).isMatch_whole_iff path.toList

/-- The literal text after a hole may begin where a longer part could still go on. -/
theorem accepts_template_iff_repository :
    Template.Splits "/orgs/{org}/{repo}.git".toList ["/orgs/".toList, "/".toList, ".git".toList] ∧
    FitsAnchored (.ofList (UrlMatcher.templateSource false "/orgs/{org}/{repo}.git".toList))
      (Template.expr ["/orgs/".toList, "/".toList, ".git".toList]) ∧
    (UrlMatcher.compile .pathTemplate "/orgs/{org}/{repo}.git" (.after none [])).1.accepts "/orgs/acme/a.git.git" =
      true := by
  have hsplits : Template.Splits "/orgs/{org}/{repo}.git".toList ["/orgs/".toList, "/".toList, ".git".toList] :=
    @Template.Splits.hole "/orgs/".toList "org".toList _ _ (by decide) (by decide)
      (@Template.Splits.hole "/".toList "repo".toList _ _ (by decide) (by decide) (.of_notMem (by decide)))
  have hfits : FitsAnchored (.ofList (UrlMatcher.templateSource false "/orgs/{org}/{repo}.git".toList))
      (Template.expr ["/orgs/".toList, "/".toList, ".git".toList]) := by
    decide
  have hfills : Template.Fills ["/orgs/".toList, "/".toList, ".git".toList] "/orgs/acme/a.git.git".toList :=
    @Template.Fills.hole "/orgs/".toList "acme".toList _ _ (by decide) (by decide)
      (@Template.Fills.hole "/".toList "a.git".toList _ _ (by decide) (by decide) (.literal ".git".toList))
  exact ⟨hsplits, hfits, (UrlMatcher.accepts_template_iff.2 none [] _ _ _ hsplits hfits).mpr hfills⟩

end StubServer
