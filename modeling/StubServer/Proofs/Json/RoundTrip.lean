import StubServer.Proofs.Json.Members
import StubServer.Proofs.Json.Spelling

/-!
# Written values are read back

The compact text of a value is one of its texts, and so is read back, if the members of its objects are in
order, its numbers are integers and not too many containers are inside each other: `Plain`. Floating point
numbers are left out, whose digits are read back in another way.

## Main statements

* `Plain.spells_compact`, `Plain.spelled`: the compact text is a text of the value.
* `Plain.parse_render`: the compact text is read back.
-/

namespace StubServer.Json

variable {room : Nat} {v : Json}

/-- The members of every object ascend, every number is an integer, and at most `room` containers are inside
each other. -/
inductive Plain : (room : Nat) → Json → Prop
  | null (room : Nat) : Plain room .null
  | bool (room : Nat) (b : Bool) : Plain room (.bool b)
  | integer (room : Nat) (i : Int) (inRange : InRange i) : Plain room (.number (.integer i inRange))
  | string (room : Nat) (s : String) : Plain room (.string s)
  | array {room : Nat} {items : List Json} (h : ∀ v ∈ items, Plain room v) : Plain (room + 1) (.array items)
  | object {room : Nat} {members : List (String × Json)} (ascending : Ascending members)
      (h : ∀ member ∈ members, Plain room member.2) : Plain (room + 1) (.object members)

/-- There may always be more room. -/
theorem Plain.succ (h : Plain room v) : Plain (room + 1) v := by
  induction h with
  | null => exact .null _
  | bool => exact .bool _ _
  | integer => exact .integer _ _ _
  | string => exact .string _ _
  | array _ ih => exact .array ih
  | object ascending _ ih => exact .object ascending ih

/-- The only member of an object may be inside as much as the object leaves room for. -/
theorem plain_member_iff {name : String} : Plain (room + 1) (.object [(name, v)]) ↔ Plain room v := by
  constructor
  · intro h
    obtain _ | _ | _ | _ | _ | ⟨-, hmembers⟩ := h
    exact hmembers (name, v) List.mem_cons_self
  · intro h
    exact .object (List.pairwise_singleton _ _) (List.forall_mem_singleton.mpr h)

/-! ### The compact text -/

/-- An integer is one of its texts. -/
theorem spells_intText (room : Nat) (i : Int) (inRange : InRange i) :
    Spells room (.number (.integer i inRange)) (intText i) := by
  have hmax : i.natAbs ≤ significandMax := natAbs_le_significandMax inRange
  have hread (negative : Bool) := readNumber_decimalDigits hmax negative endsInteger_nil
  simp only [List.append_nil] at hread
  unfold intText
  split
  · rename_i hneg
    rw [← integer_of_neg inRange hneg]
    exact .number room (hread true)
  · rename_i hnonneg
    rw [← integer_of_nonneg inRange hnonneg]
    exact .number room (hread false)

/-- An item in its compact text. -/
def compactItem (v : Json) : WrittenItem :=
  { value := v, core := compact v }

/-- There are no blanks around it. -/
theorem text_compactItem (v : Json) : (compactItem v).text = compact v := by
  simp [compactItem, WrittenItem.text]

/-- A member in its compact text. -/
def compactMember (member : String × Json) : WrittenMember :=
  { name := member.1, nameText := escape member.1.toList, item := compactItem member.2 }

/-- There are no blanks around its parts. -/
theorem text_compactMember (member : String × Json) :
    (compactMember member).text = memberText [] compact member := by
  simp [compactMember, compactItem, WrittenMember.text, WrittenItem.text, memberText, stringText]

/-- **The compact text of a value is one of its texts.** -/
theorem Plain.spells_compact (h : Plain room v) : Spells room v (compact v) := by
  induction h with
  | null room => exact .null room
  | bool room b => exact .bool room b
  | integer room i inRange => exact spells_intText room i inRange
  | string room s => exact .string room (spellsString_escape s.toList)
  | @array room items h ih =>
      have hitems : ∀ item ∈ items.map compactItem, Spells room item.value item.core :=
        List.forall_mem_map.mpr ih
      have hvalues : (items.map compactItem).map WrittenItem.value = items := by
        simp [compactItem, Function.comp_def]
      have htext : compact (.array items) =
          '[' :: listed [] Gap.none.text ']' WrittenItem.text true (items.map compactItem) := by
        simp only [compact_array, listed_map, text_compactItem, Gap.text_none]
      have hspells := Spells.array (items.map compactItem) .none hitems
      rwa [hvalues, ← htext] at hspells
  | @object room members ascending h ih =>
      have hnames : ∀ member ∈ members.map compactMember,
          SpellsString member.name.toList member.nameText :=
        List.forall_mem_map.mpr fun member _ => spellsString_escape member.1.toList
      have hitems : ∀ member ∈ members.map compactMember, Spells room member.item.value member.item.core :=
        List.forall_mem_map.mpr ih
      have hmembers : (members.map compactMember).map WrittenMember.member = members := by
        simp [compactMember, compactItem, WrittenMember.member, Function.comp_def]
      have htext : compact (.object members) =
          '\x7b' :: listed [] Gap.none.text '\x7d' WrittenMember.text true (members.map compactMember) := by
        simp only [compact_object, listed_map, text_compactMember, Gap.text_none]
      have hspells := Spells.object (members.map compactMember) .none hnames hitems
      rwa [hmembers, ofMembers, ascending.sortMembers_eq, ← htext] at hspells

/-- The compact text is one of the whole texts. -/
theorem Plain.spelled (h : Plain (depthLimit - 1) v) {s : String} (hs : v.render = s) : Spelled v s.toList := by
  subst hs
  exact ⟨compactItem v, rfl, by rw [render, String.toList_ofList, text_compactItem], h.spells_compact⟩

/-- **The compact text is read back.** -/
theorem Plain.parse_render (h : Plain (depthLimit - 1) v) : parse v.render = .ok v :=
  (h.spelled rfl).document_eq

end StubServer.Json
