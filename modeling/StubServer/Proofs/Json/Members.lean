import StubServer.Json.Read
import StubServer.Proofs.Except

/-!
# The members of objects

`WellFormed` says that the members of every object inside a value are in the order of their names, which all
differ. Putting a member in its place keeps that, so that every value that is read from a text is well formed.

## Main statements

* `member?_insertMember`: what is found after a member was put in its place.
* `Ascending.insertMember`: the order is kept.
* `Ascending.sortMembers_eq`: members that are in order stay where they are.
* `wellFormed_of_parse_eq_ok`: values that are read are well formed.
-/

namespace StubServer.Json

variable {members others : List (String × Json)} {member : String × Json} {name other : String}
  {v value : Json}

/-! ### Looking for members -/

/-- The first member is looked at first. -/
theorem member?_cons (member : String × Json) (members : List (String × Json)) (name : String) :
    (Json.object (member :: members)).member? name =
      if name = member.1 then some member.2 else (Json.object members).member? name := by
  unfold member?
  by_cases h : name = member.1
  · simp [h]
  · simp [h, Ne.symm h]

/-- What is found is a member. -/
theorem mem_of_member?_eq_some (h : (Json.object members).member? name = some v) :
    (name, v) ∈ members := by
  obtain ⟨member, hfind, rfl⟩ := Option.map_eq_some_iff.mp h
  have hname : member.1 = name := by simpa using List.find?_some hfind
  exact hname ▸ List.mem_of_find?_eq_some hfind

/-! ### Order -/

/-- The names of members ascend. -/
def Ascending (members : List (String × Json)) : Prop :=
  members.Pairwise fun a b => a.1 < b.1

instance (members : List (String × Json)) : Decidable (Ascending members) :=
  inferInstanceAs (Decidable (members.Pairwise _))

/-- Each member is found by its name. -/
theorem Ascending.member?_eq (h : Ascending members) (hmem : member ∈ members) :
    (Json.object members).member? member.1 = some member.2 := by
  induction members with
  | nil => cases hmem
  | cons first members ih =>
      obtain ⟨hfirst, hrest⟩ := List.pairwise_cons.mp h
      rw [member?_cons]
      rcases List.mem_cons.mp hmem with rfl | hmem
      · rw [if_pos rfl]
      · rw [if_neg (String.ne_of_lt (hfirst member hmem)).symm, ih hrest hmem]

/-- After a member was put in its place, it is found and so are all others. -/
theorem member?_insertMember (name other : String) (value : Json) (members : List (String × Json)) :
    (Json.object (insertMember name value members)).member? other =
      if other = name then some value else (Json.object members).member? other := by
  induction members with
  | nil => exact member?_cons (name, value) [] other
  | cons first members ih =>
      rw [insertMember]
      split
      · exact member?_cons (name, value) (first :: members) other
      · split
        · rename_i hname
          subst hname
          rw [member?_cons, member?_cons]
          by_cases hother : other = first.1
          · rw [if_pos hother, if_pos hother]
          · rw [if_neg hother, if_neg hother, if_neg hother]
        · rename_i hname
          rw [member?_cons, ih, member?_cons]
          by_cases hother : other = first.1
          · rw [if_pos hother, if_neg (fun h => hname (h.symm.trans hother)), if_pos hother]
          · rw [if_neg hother, if_neg hother]

/-- A member that is there after another was put in its place was there before, or is the other. -/
theorem mem_or_eq_of_mem_insertMember (h : member ∈ insertMember name value members) :
    member = (name, value) ∨ member ∈ members := by
  induction members with
  | nil => exact .inl (List.mem_singleton.mp h)
  | cons first members ih =>
      rw [insertMember] at h
      split at h
      · exact List.mem_cons.mp h
      · split at h
        · exact (List.mem_cons.mp h).imp_right (List.mem_cons_of_mem _)
        · rcases List.mem_cons.mp h with rfl | h
          · exact .inr List.mem_cons_self
          · exact (ih h).imp_right (List.mem_cons_of_mem _)

/-- **Putting a member in its place keeps the order.** -/
theorem Ascending.insertMember (h : Ascending members) (name : String) (value : Json) :
    Ascending (insertMember name value members) := by
  induction members with
  | nil => exact List.pairwise_singleton _ _
  | cons first members ih =>
      obtain ⟨hfirst, hrest⟩ := List.pairwise_cons.mp h
      rw [Json.insertMember]
      split
      · rename_i hlt
        refine List.pairwise_cons.mpr ⟨fun other hother => ?_, h⟩
        rcases List.mem_cons.mp hother with rfl | hother
        · exact hlt
        · exact String.lt_trans hlt (hfirst other hother)
      · rename_i hge
        split
        · rename_i heq
          subst heq
          exact List.pairwise_cons.mpr ⟨hfirst, hrest⟩
        · rename_i hne
          refine List.pairwise_cons.mpr ⟨fun other hother => ?_, ih hrest⟩
          rcases mem_or_eq_of_mem_insertMember hother with rfl | hother
          · exact String.not_le.mp fun hle => hne (String.le_antisymm hle (String.not_lt.mp hge))
          · exact hfirst other hother

/-- A member whose name is beyond all others comes last. -/
theorem insertMember_eq_append (h : ∀ member ∈ members, member.1 < name) (value : Json) :
    insertMember name value members = members ++ [(name, value)] := by
  induction members with
  | nil => rfl
  | cons first members ih =>
      have hlt := h first List.mem_cons_self
      rw [insertMember, if_neg (String.lt_asymm hlt), if_neg (String.ne_of_lt hlt).symm,
        ih fun other hother => h other (List.mem_cons_of_mem _ hother)]
      rfl

/-- Sorting keeps the order of what it was given to begin with. -/
theorem ascending_foldl_insertMember (members : List (String × Json)) {sorted : List (String × Json)}
    (h : Ascending sorted) :
    Ascending (members.foldl (fun sorted member => insertMember member.1 member.2 sorted) sorted) := by
  induction members generalizing sorted with
  | nil => exact h
  | cons member members ih => exact ih (h.insertMember _ _)

/-- **Sorted members are in order.** -/
theorem ascending_sortMembers (members : List (String × Json)) : Ascending (sortMembers members) :=
  ascending_foldl_insertMember members List.Pairwise.nil

/-- Members that come after the sorted ones stay where they are. -/
theorem foldl_insertMember_eq_append {sorted : List (String × Json)} (h : Ascending (sorted ++ members)) :
    members.foldl (fun sorted member => insertMember member.1 member.2 sorted) sorted = sorted ++ members := by
  induction members generalizing sorted with
  | nil => simp
  | cons member members ih =>
      have hlast : ∀ other ∈ sorted, other.1 < member.1 := fun other hother =>
        (List.pairwise_append.mp h).2.2 other hother member List.mem_cons_self
      rw [List.foldl_cons, insertMember_eq_append hlast, ih (by simpa using h)]
      simp

/-- **Members that are in order stay where they are.** -/
theorem Ascending.sortMembers_eq (h : Ascending members) : sortMembers members = members :=
  foldl_insertMember_eq_append h

/-- Sorted members were given. -/
theorem mem_of_mem_foldl_insertMember {sorted : List (String × Json)}
    (h : member ∈ members.foldl (fun sorted member => insertMember member.1 member.2 sorted) sorted) :
    member ∈ sorted ∨ member ∈ members := by
  induction members generalizing sorted with
  | nil => exact .inl h
  | cons first members ih =>
      rcases ih h with h | h
      · rcases mem_or_eq_of_mem_insertMember h with rfl | h
        · exact .inr List.mem_cons_self
        · exact .inl h
      · exact .inr (List.mem_cons_of_mem _ h)

/-- Sorted members were given. -/
theorem mem_of_mem_sortMembers (h : member ∈ sortMembers members) : member ∈ members :=
  (mem_of_mem_foldl_insertMember h).resolve_left List.not_mem_nil

/-! ### Well-formed values -/

/-- The members of every object inside a value ascend. -/
inductive WellFormed : Json → Prop
  | null : WellFormed .null
  | bool (b : Bool) : WellFormed (.bool b)
  | number (n : Number) : WellFormed (.number n)
  | string (s : String) : WellFormed (.string s)
  | array {items : List Json} (h : ∀ v ∈ items, WellFormed v) : WellFormed (.array items)
  | object {members : List (String × Json)} (ascending : Ascending members)
      (h : ∀ member ∈ members, WellFormed member.2) : WellFormed (.object members)

/-- An array is well formed if its items are. -/
theorem wellFormed_array {items : List Json} : WellFormed (.array items) ↔ ∀ v ∈ items, WellFormed v := by
  constructor
  · rintro (_ | _ | _ | _ | h)
    exact h
  · exact .array

/-- An object is well formed if its members ascend and are. -/
theorem wellFormed_object :
    WellFormed (.object members) ↔ Ascending members ∧ ∀ member ∈ members, WellFormed member.2 := by
  constructor
  · rintro (_ | _ | _ | _ | _ | ⟨ascending, h⟩)
    exact ⟨ascending, h⟩
  · rintro ⟨ascending, h⟩
    exact .object ascending h

/-- The object of some well-formed members is well formed. -/
theorem wellFormed_ofMembers (h : ∀ member ∈ members, WellFormed member.2) :
    WellFormed (.ofMembers members) :=
  .object (ascending_sortMembers members) fun member hmember => h member (mem_of_mem_sortMembers hmember)

/-- What is read, if something is, has a property. -/
def Yields {α : Type} (p : α → Prop) (r : Reading α) : Prop :=
  ∀ v rest, r = .ok (v, rest) → p v

/-- Where nothing is read, any property is kept. -/
theorem yields_error {α : Type} {p : α → Prop} (e : Error) : Yields p (.error e) :=
  nofun

/-- What is made of something that was read. -/
theorem yields_map {α β : Type} {p : α → Prop} {first : Except Error β} {change : β → α × Text}
    (h : ∀ b, first = .ok b → p (change b).1) : Yields p (first.map change) := by
  intro v rest hread
  obtain ⟨b, hb, hchange⟩ := exists_of_map_eq_ok hread
  have hv := h b hb
  rwa [hchange] at hv

/-- Whichever of two things is read. -/
theorem yields_ite {α : Type} {p : α → Prop} {c : Prop} [Decidable c] {first second : Reading α}
    (hfirst : Yields p first) (hsecond : Yields p second) : Yields p (if c then first else second) := by
  split
  · exact hfirst
  · exact hsecond

/-- A value is well formed if the items and the members that are read inside it are. -/
theorem yields_readValue_succ {fuel : Nat}
    (hitems : ∀ depth first text, Yields (∀ v ∈ ·, WellFormed v) (readItems [] fuel depth first text))
    (hmembers : ∀ depth first text,
      Yields (∀ member ∈ ·, WellFormed member.2) (readMembers [] fuel depth first text))
    (depth : Nat) (text : Text) : Yields WellFormed (readValue [] (fuel + 1) depth text) := by
  rw [readValue]
  cases skipSpace text with
  | nil => exact yields_error _
  | cons c rest =>
      refine yields_ite (yields_map fun _ _ => .null) ?_
      refine yields_ite (yields_map fun _ _ => .bool true) ?_
      refine yields_ite (yields_map fun _ _ => .bool false) ?_
      refine yields_ite (yields_map fun _ _ => .number _) ?_
      refine yields_ite (yields_map fun _ _ => .number _) ?_
      refine yields_ite (yields_map fun _ _ => .string _) ?_
      refine yields_ite (yields_ite (yields_error _) (yields_map fun r hr => ?_)) ?_
      · exact .array (hitems _ _ _ r.1 r.2 hr)
      refine yields_ite (yields_ite (yields_error _) (yields_map fun r hr => ?_)) (yields_error _)
      exact wellFormed_ofMembers (hmembers _ _ _ r.1 r.2 hr)

/-- What is read with some fuel is well formed: a value, the items of an array and the members of an object. -/
theorem yields_read (fuel : Nat) :
    (∀ depth text, Yields WellFormed (readValue [] fuel depth text)) ∧
    (∀ depth first text, Yields (∀ v ∈ ·, WellFormed v) (readItems [] fuel depth first text)) ∧
    ∀ depth first text, Yields (∀ member ∈ ·, WellFormed member.2) (readMembers [] fuel depth first text) := by
  induction fuel with
  | zero => exact ⟨fun _ _ => yields_error _, fun _ _ _ => yields_error _, fun _ _ _ => yields_error _⟩
  | succ fuel ih =>
      obtain ⟨hvalue, hitems, hmembers⟩ := ih
      refine ⟨yields_readValue_succ hitems hmembers, fun depth first text => ?_, fun depth first text => ?_⟩
      · rw [readItems]
        split
        · exact yields_error _
        · rintro _ _ ⟨⟩
          simp
        split
        · exact yields_error _
        rename_i hread
        exact yields_map fun r hr => List.forall_mem_cons.mpr ⟨hvalue _ _ _ _ hread, hitems _ _ _ r.1 r.2 hr⟩
      · rw [readMembers]
        split
        · exact yields_error _
        · rintro _ _ ⟨⟩
          simp
        split
        · exact yields_error _
        split
        · exact yields_error _
        rename_i hread
        exact yields_map fun r hr => List.forall_mem_cons.mpr ⟨hvalue _ _ _ _ hread, hmembers _ _ _ r.1 r.2 hr⟩

/-- **Values that are read are well formed.** -/
theorem wellFormed_of_parse_eq_ok {s : String} (h : parse s = .ok v) : WellFormed v := by
  obtain ⟨⟨read, rest⟩, hread, hfinish⟩ := exists_of_bind_eq_ok h
  have hwellFormed := (yields_read _).1 _ _ _ _ hread
  simp only [finish] at hfinish
  split at hfinish
  · cases hfinish
    exact hwellFormed
  · cases hfinish

end StubServer.Json
