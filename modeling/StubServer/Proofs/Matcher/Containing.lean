import StubServer.Proofs.Matcher.Compile
import StubServer.Proofs.Regex.Anchoring
import StubServer.Proofs.Regex.Language

/-!
# Paths that contain a text

A pattern of this kind is a text itself. It is written literally between two stars of dots, so that whatever it holds,
its regular expression denotes the texts in which it stands between parts without line feeds
(`UrlMatcher.denotes_containsExpr`). On paths without line feeds this says that the pattern is a part of the path:
`UrlMatcher.accepts_contains_iff`.
-/

namespace StubServer

open Regex (Expr FitsAnchored Part SizeLimit ReadsAs anchored literal compile?)

namespace UrlMatcher

/-- Any number of characters other than a line feed. -/
def anything : Expr :=
  .rep 0 none (.chars (.compl (.of '\n')))

/-- The pattern of a text between any other characters. -/
def containsSource (text : List Char) : List Char :=
  ".*".toList ++ (literal text ++ ".*".toList)

/-- The parts of the pattern of a text between any other characters. -/
def containsParts (text : List Char) : List Part :=
  (anything, 1) :: ((text.map fun c => (.chars (.of c), 0)) ++ [(anything, 1)])

/-- The expression of a text between any other characters. -/
def containsExpr (text : List Char) : Expr :=
  .seqAll ((containsParts text).map (·.1))

/-- Any number of characters other than a line feed. -/
theorem denotes_anything : anything.Denotes fun s => '\n' ∉ s :=
  (Expr.denotes_rep_compl 0 '\n').congr fun _ => and_iff_right (Nat.zero_le _)

/-- **The expression of a text between any other characters** denotes the texts that hold it between parts without
line feeds. -/
theorem denotes_containsExpr (text : List Char) :
    (containsExpr text).Denotes fun s =>
      ∃ before after, '\n' ∉ before ∧ '\n' ∉ after ∧ s = before ++ text ++ after := by
  have hlast : (Expr.seqAll [anything]).Denotes fun s => '\n' ∉ s := denotes_anything
  have hexpr : containsExpr text = .seqAll (anything :: ((text.map fun c => .chars (.of c)) ++ [anything])) := by
    simp [containsExpr, containsParts, Function.comp_def]
  rw [hexpr]
  refine (denotes_anything.seqAll_cons (Expr.denotes_literal_append hlast text)).congr fun s => ⟨?_, ?_⟩
  · rintro ⟨before, _, hbefore, ⟨after, hafter, rfl⟩, rfl⟩
    exact ⟨before, after, hbefore, hafter, (List.append_assoc ..).symm⟩
  · rintro ⟨before, after, hbefore, hafter, rfl⟩
    exact ⟨before, _, hbefore, ⟨after, hafter, rfl⟩, List.append_assoc ..⟩

/-- **What such a pattern compiles to** matches the whole path with that expression. -/
theorem exists_compile_contains [SizeLimit] {cache : Regex.Cache} (hcache : cache.Sound) {pattern : String}
    (hfits : FitsAnchored (.ofList (containsSource pattern.toList)) (containsExpr pattern.toList)) :
    ∃ regex, (compile .contains pattern cache).1 = .pattern regex ∧
      regex.expr = (containsExpr pattern.toList).whole := by
  have hsource : source? .contains pattern = some (.ofList (containsSource pattern.toList)) := by
    rw [source?, containsSource, String.ofList_append, String.ofList_append, String.ofList_toList, String.append_assoc]
  have hreads : ReadsAs (containsSource pattern.toList) _ (containsParts pattern.toList) :=
    Regex.readsAs_anything.append ((Regex.readsAs_literal pattern.toList).append Regex.readsAs_anything)
  have hheight : ∀ part ∈ containsParts pattern.toList, part.2 ≤ 1 := by
    intro part hpart
    simp only [containsParts, List.mem_cons, List.mem_append, List.mem_map, List.not_mem_nil, or_false] at hpart
    rcases hpart with rfl | ⟨c, -, rfl⟩ | rfl
    · exact Nat.le_refl 1
    · exact Nat.zero_le 1
    · exact Nat.le_refl 1
  rw [(computes_compile _ _ _ hcache).1, hsource]
  dsimp only
  rw [Regex.compile?_anchored hreads hheight (by decide) hfits]
  exact ⟨_, rfl, rfl⟩

/-- **A pattern that has to be contained** accepts the paths that hold it between parts without line feeds, whatever
characters it is made of. On a path without line feeds this means that the pattern is a part of it. -/
theorem accepts_contains_iff [SizeLimit] (limit : Option Nat) (uses : List Regex.Cache.Use) (pattern path : String)
    (hfits : FitsAnchored (.ofList (containsSource pattern.toList)) (containsExpr pattern.toList)) :
    ((compile .contains pattern (.after limit uses)).1.accepts path = true ↔
      ∃ before after, '\n' ∉ before ∧ '\n' ∉ after ∧ path.toList = before ++ pattern.toList ++ after) ∧
    ('\n' ∉ path.toList →
      ((compile .contains pattern (.after limit uses)).1.accepts path = true ↔ pattern.toList <:+: path.toList)) := by
  obtain ⟨regex, hregex, hexpr⟩ := exists_compile_contains (Regex.Cache.sound_after limit uses) hfits
  have haccepts : (compile .contains pattern (.after limit uses)).1.accepts path = true ↔
      ∃ before after, '\n' ∉ before ∧ '\n' ∉ after ∧ path.toList = before ++ pattern.toList ++ after := by
    rw [hregex, accepts, Regex.isMatch, hexpr]
    exact (denotes_containsExpr pattern.toList).isMatch_whole_iff path.toList
  refine ⟨haccepts, fun hpath => haccepts.trans ⟨?_, ?_⟩⟩
  · rintro ⟨before, after, -, -, heq⟩
    exact ⟨before, after, heq.symm⟩
  · rintro ⟨before, after, heq⟩
    rw [← heq, List.mem_append, List.mem_append, not_or, not_or] at hpath
    exact ⟨before, after, hpath.1.1, hpath.2, heq.symm⟩

/-- Characters that mean something in patterns mean nothing here. -/
theorem accepts_contains_iff_brackets :
    FitsAnchored (.ofList (containsSource "/a[.*".toList)) (containsExpr "/a[.*".toList) ∧
    '\n' ∉ "/x/a[.*].txt".toList ∧
    (compile .contains "/a[.*" (.after none [])).1.accepts "/x/a[.*].txt" = true := by
  have hfits : FitsAnchored (.ofList (containsSource "/a[.*".toList)) (containsExpr "/a[.*".toList) := by decide
  have hpath : '\n' ∉ "/x/a[.*].txt".toList := by decide
  have hpart : "/a[.*".toList <:+: "/x/a[.*].txt".toList := ⟨"/x".toList, "].txt".toList, by decide⟩
  exact ⟨hfits, hpath, ((accepts_contains_iff none [] "/a[.*" "/x/a[.*].txt" hfits).2 hpath).mpr hpart⟩

end UrlMatcher

end StubServer
