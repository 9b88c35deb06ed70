import StubServer.Proofs.Json.Spelling
import StubServer.Proofs.Matcher.Body

/-!
# Backslashes that were typed once

A condition is often typed by hand with its text pasted between quotes, where each backslash should have been
doubled. With the backslashes doubled it is a text of the condition that was meant (`spelled_doubled`), and
without a backslash it is one as it stands. So a pasted condition that is no JSON has a backslash, and demands
exactly the text that was pasted.

## Main statements

* `spellsString_doubled`: doubling the backslashes is a way to write a text.
* `compile_pasted`: a pasted text is recovered.
-/

namespace StubServer.BodyMatcher

open Json (SpellsString Spelled WrittenMember WrittenItem Gap)
open Regex (Cache compile? anchored)

variable {name text : String} {cs : List Char}

/-! ### Doubling -/

/-- A text that may stand between quotes but for its backslashes. -/
def Pasteable (cs : List Char) : Prop :=
  ∀ c ∈ cs, c ≠ '"' ∧ ¬ c.toNat < 0x20

/-- Doubling goes character by character. -/
theorem doubled_append (cs ds : List Char) : doubled (cs ++ ds) = doubled cs ++ doubled ds :=
  List.flatMap_append

/-- Without backslashes nothing is doubled. -/
theorem doubled_eq_self (h : '\\' ∉ cs) : doubled cs = cs := by
  induction cs with
  | nil => rfl
  | cons c cs ih =>
      rw [List.mem_cons, not_or] at h
      rw [doubled, List.flatMap_cons, if_neg (Ne.symm h.1)]
      exact congrArg (c :: ·) (ih h.2)

/-- **Doubling its backslashes is a way to write a text.** -/
theorem spellsString_doubled (h : Pasteable cs) : SpellsString cs (doubled cs) := by
  induction cs with
  | nil => exact .nil
  | cons c cs ih =>
      obtain ⟨⟨hquote, hcontrol⟩, hrest⟩ := List.forall_mem_cons.mp h
      rw [doubled, List.flatMap_cons]
      split
      · rename_i hslash
        subst hslash
        exact .simple (by decide) (ih hrest)
      · rename_i hslash
        exact .plain hquote hslash hcontrol (ih hrest)

/-! ### Pasted texts -/

/-- A condition with its text pasted between the quotes. -/
def pasted (name text : String) : String :=
  "\x7b\"" ++ name ++ "\": \"" ++ text ++ "\"\x7d"

/-- The condition that was meant. -/
def meant (name text : String) : Json :=
  .object [(name, .string text)]

/-- Doubling changes the name and the text of a pasted condition only. -/
theorem doubled_pasted (name text : String) :
    doubled (pasted name text).toList =
      '\x7b' :: '"' :: (doubled name.toList ++ '"' :: ':' :: ' ' :: '"' ::
        (doubled text.toList ++ ['"', '\x7d'])) := by
  simp only [pasted, String.toList_append, doubled_append, List.append_assoc]
  rfl

/-- With its backslashes doubled, a pasted condition is a text of what was meant. -/
theorem spelled_doubled (hname : Pasteable name.toList) (htext : Pasteable text.toList) :
    Spelled (meant name text) (doubled (pasted name text).toList) := by
  have hnameText := spellsString_doubled hname
  let item : WrittenItem :=
    { before := .one, value := .string text, core := '"' :: (doubled text.toList ++ ['"']) }
  let member : WrittenMember := { name := name, nameText := doubled name.toList, item := item }
  have hstring : Json.Spells 126 item.value item.core := .string 126 (spellsString_doubled htext)
  have hobject := Json.Spells.object [member] .none (by simpa [member] using hnameText)
    (show ∀ other ∈ [member], Json.Spells 126 other.item.value other.item.core by simpa [member] using hstring)
  refine ⟨{ value := meant name text, core := _ }, rfl, ?_, hobject⟩
  simp [WrittenItem.text, Json.listed, member, item, WrittenMember.text, doubled_pasted]

/-- A pasted condition that is no JSON has a backslash. -/
theorem mem_of_parse_error (hname : Pasteable name.toList) (htext : Pasteable text.toList) {e : Json.Error}
    (h : Json.parse (pasted name text) = .error e) : '\\' ∈ (pasted name text).toList := by
  by_contra hnone
  have hread := (spelled_doubled hname htext).document_eq
  rw [doubled_eq_self hnone] at hread
  rw [Json.parse, hread] at h
  cases h

/-- A pasted condition that is no JSON gives what was meant. -/
theorem gives_pasted (hname : name ∈ doubledNames) (htext : Pasteable text.toList) {e : Json.Error}
    (h : Json.parse (pasted name text) = .error e) : Gives (pasted name text) name (.string text) := by
  have hpasteable : ∀ name ∈ doubledNames, Pasteable name.toList := by
    simp [Pasteable, doubledNames]
  have hfirst : (meant name text).firstMember? doubledNames = some (name, .string text) := by
    simp only [doubledNames, List.mem_cons, List.not_mem_nil, or_false] at hname
    rcases hname with rfl | rfl <;> simp [meant, Json.firstMember?, Json.member?, doubledNames]
  exact .doubled h (mem_of_parse_error (hpasteable name hname) htext h)
    (spelled_doubled (hpasteable name hname) htext).document_eq hfirst

/-- **A text that was pasted is recovered**, whatever its backslashes stand before: the regular expression for whole
bodies is that of exactly this text, and it is exactly this text that has to occur. -/
theorem compile_pasted [Regex.SizeLimit] (limit : Option Nat) (uses : List Cache.Use) (text : String)
    (htext : ∀ c ∈ text.toList, c ≠ '"' ∧ ¬ c.toNat < 0x20) :
    (∀ e, Json.parse (pasted "matches" text) = .error e →
      (compile (some (pasted "matches" text)) (.after limit uses)).1 =
        some (.matches (compile? (anchored text)))) ∧
    ∀ e, Json.parse (pasted "contains" text) = .error e →
      (compile (some (pasted "contains" text)) (.after limit uses)).1 = some (.contains text) :=
  ⟨fun _ h => (gives_pasted (by decide) htext h).compile_eq (Cache.sound_after limit uses),
    fun _ h => (gives_pasted (by decide) htext h).compile_eq (Cache.sound_after limit uses)⟩

/-- A run of backslashes before the closing quote is recovered, and so is a backslash that is an escape as it stands
beside one that escapes the quote. -/
theorem compile_pasted_trailing :
    Json.parse (pasted "matches" "\\d+\\\\\\") = .error .invalidEscape ∧
    (compile (some (pasted "matches" "\\d+\\\\\\")) (.after none [])).1 =
      some (.matches (compile? (anchored "\\d+\\\\\\"))) ∧
    Json.parse (pasted "contains" "C:\\new\\") = .error .endOfString ∧
    (compile (some (pasted "contains" "C:\\new\\")) (.after none [])).1 = some (.contains "C:\\new\\") := by
  have hmatches : Json.parse (pasted "matches" "\\d+\\\\\\") = .error .invalidEscape := by cbv
  have hcontains : Json.parse (pasted "contains" "C:\\new\\") = .error .endOfString := by cbv
  exact ⟨hmatches, (compile_pasted none [] _ (by simp)).1 _ hmatches,
    hcontains, (compile_pasted none [] _ (by simp)).2 _ hcontains⟩

end StubServer.BodyMatcher
