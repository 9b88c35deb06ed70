import Mathlib.Logic.Relation
import StubServer.Json.Containment
import StubServer.Proofs.Json.Members

/-!
# Containment is a preorder

What is contained in a value is told by its kind: the members of an object have to be found, the items of an
array to be in some item, a number has to be the same number when it is rounded, and any other value has to be
the same. Containment is reflexive for well-formed values and transitive for all, so that a value that is
contained in another stays so however the other grows.

## Main statements

* `containedIn_object`, `containedIn_array`, `containedIn_number`: containment by kinds.
* `WellFormed.containedIn_self`, `containedIn_trans`: containment is a preorder.
* `Grows`: a value is changed somewhere inside to one that says more, or says it in another order.
* `containedIn_of_grows`: what is contained in a value stays so, however often the value grows.
-/

namespace StubServer.Json

variable {a b c v w value : Json} {items others : List Json} {members : List (String × Json)} {name : String}

/-- To hold of every value, a property has to hold of arrays and objects if it holds of what is inside. -/
@[elab_as_elim]
theorem inductionOn {motive : Json → Prop} (null : motive .null) (bool : ∀ b, motive (.bool b))
    (number : ∀ n, motive (.number n)) (string : ∀ s, motive (.string s))
    (array : ∀ items, (∀ v ∈ items, motive v) → motive (.array items))
    (object : ∀ members, (∀ member ∈ members, motive member.2) → motive (.object members)) (v : Json) :
    motive v :=
  @Json.rec motive (fun items => ∀ v ∈ items, motive v) (fun members => ∀ member ∈ members, motive member.2)
    (fun member => motive member.2) null bool number string array object
    (fun _ h => absurd h List.not_mem_nil) (fun _ _ hv hitems => List.forall_mem_cons.mpr ⟨hv, hitems⟩)
    (fun _ h => absurd h List.not_mem_nil) (fun _ _ hv hmembers => List.forall_mem_cons.mpr ⟨hv, hmembers⟩)
    (fun _ _ hv => hv) v

/-! ### Containment by kinds -/

/-- Numbers that are the same are so when they are rounded. -/
theorem Number.toReal_same_of_same {m n : Number} (h : m.same n = true) : m.toReal.same n.toReal = true := by
  cases m <;> cases n <;> simp_all [Number.same, Number.toReal, Binary64.same]

/-- A number is contained in those that are the same when they are rounded. -/
theorem containedIn_number {n : Number} :
    (Json.number n).containedIn w = true ↔ ∃ m, w = .number m ∧ n.toReal.same m.toReal = true := by
  cases w with
  | number m =>
      simp only [containedIn, Bool.or_eq_true, Json.number.injEq, exists_eq_left']
      exact ⟨fun h => h.elim Number.toReal_same_of_same id, .inr⟩
  | _ => simp [containedIn, same]

/-- Each of some items is contained in an item of an array. -/
theorem itemsIn_iff : itemsIn items others = true ↔ ∀ v ∈ items, ∃ w ∈ others, v.containedIn w = true := by
  induction items with
  | nil => simp [itemsIn]
  | cons v items ih => simp [itemsIn, ih]

/-- An array is contained in those that have an item for each of its items. -/
theorem containedIn_array :
    (Json.array items).containedIn w = true ↔
      ∃ others, w = .array others ∧ ∀ v ∈ items, ∃ w ∈ others, v.containedIn w = true := by
  cases w with
  | array others => simp [containedIn, itemsIn_iff]
  | _ => simp [containedIn, same]

/-- Each of some members is contained in the member of an object that has its name. -/
theorem membersIn_iff {whole : List (String × Json)} :
    membersIn members whole = true ↔ ∀ member ∈ members,
      ∃ w, (Json.object whole).member? member.1 = some w ∧ member.2.containedIn w = true := by
  induction members with
  | nil => simp [membersIn]
  | cons member members ih =>
      simp only [membersIn, Bool.and_eq_true, ih, List.forall_mem_cons, member?]
      cases whole.find? fun other => other.1 == member.1 <;> simp

/-- An object is contained in those that have a member for each of its members. -/
theorem containedIn_object :
    (Json.object members).containedIn w = true ↔
      ∃ whole, w = .object whole ∧ ∀ member ∈ members,
        ∃ w, (Json.object whole).member? member.1 = some w ∧ member.2.containedIn w = true := by
  cases w with
  | object whole => simp [containedIn, membersIn_iff]
  | _ => simp [containedIn, same]

/-- Null is contained in null. -/
theorem containedIn_null : Json.null.containedIn w = true ↔ w = .null := by
  cases w <;> simp [containedIn, same]

/-- A truth value is contained in itself. -/
theorem containedIn_bool {b : Bool} : (Json.bool b).containedIn w = true ↔ w = .bool b := by
  cases w with
  | bool d => simp [containedIn, same, eq_comm (a := d)]
  | _ => simp [containedIn, same]

/-- A string is contained in itself. -/
theorem containedIn_string {s : String} : (Json.string s).containedIn w = true ↔ w = .string s := by
  cases w with
  | string t => simp [containedIn, same, eq_comm (a := t)]
  | _ => simp [containedIn, same]

/-! ### The preorder -/

/-- Numbers that are the same as a third one are the same. -/
theorem binary64_same_trans {x y z : Binary64} (h : x.same y = true) (h' : y.same z = true) :
    x.same z = true := by
  simp only [Binary64.same, beq_iff_eq] at h h' ⊢
  exact h.trans h'

/-- **Containment is reflexive** for well-formed values. -/
theorem WellFormed.containedIn_self (h : WellFormed v) : v.containedIn v = true := by
  induction h with
  | null => exact containedIn_null.mpr rfl
  | bool b => exact containedIn_bool.mpr rfl
  | number n => exact containedIn_number.mpr ⟨n, rfl, by simp [Binary64.same]⟩
  | string s => exact containedIn_string.mpr rfl
  | array h ih => exact containedIn_array.mpr ⟨_, rfl, fun v hv => ⟨v, hv, ih v hv⟩⟩
  | object ascending h ih =>
      exact containedIn_object.mpr
        ⟨_, rfl, fun member hmember => ⟨_, ascending.member?_eq hmember, ih member hmember⟩⟩

/-- **Containment is transitive.** -/
theorem containedIn_trans (hab : a.containedIn b = true) (hbc : b.containedIn c = true) :
    a.containedIn c = true := by
  induction a using inductionOn generalizing b c with
  | null =>
      obtain rfl := containedIn_null.mp hab
      exact hbc
  | bool d =>
      obtain rfl := containedIn_bool.mp hab
      exact hbc
  | string s =>
      obtain rfl := containedIn_string.mp hab
      exact hbc
  | number n =>
      obtain ⟨m, rfl, hnm⟩ := containedIn_number.mp hab
      obtain ⟨k, rfl, hmk⟩ := containedIn_number.mp hbc
      exact containedIn_number.mpr ⟨k, rfl, binary64_same_trans hnm hmk⟩
  | array items ih =>
      obtain ⟨whole, rfl, hitems⟩ := containedIn_array.mp hab
      obtain ⟨whole', rfl, hwhole⟩ := containedIn_array.mp hbc
      refine containedIn_array.mpr ⟨whole', rfl, fun v hv => ?_⟩
      obtain ⟨w, hw, hvw⟩ := hitems v hv
      obtain ⟨u, hu, hwu⟩ := hwhole w hw
      exact ⟨u, hu, ih v hv hvw hwu⟩
  | object members ih =>
      obtain ⟨whole, rfl, hmembers⟩ := containedIn_object.mp hab
      obtain ⟨whole', rfl, hwhole⟩ := containedIn_object.mp hbc
      refine containedIn_object.mpr ⟨whole', rfl, fun member hmember => ?_⟩
      obtain ⟨w, hw, hvw⟩ := hmembers member hmember
      obtain ⟨u, hu, hwu⟩ := hwhole _ (mem_of_member?_eq_some hw)
      exact ⟨u, hu, ih member hmember hvw hwu⟩

/-- An object is contained in one that differs in a single member if that member is. -/
theorem containedIn_replace_iff {before after : List (String × Json)} {name : String}
    (h : WellFormed (.object (before ++ (name, w) :: after))) :
    (Json.object (before ++ (name, v) :: after)).containedIn (.object (before ++ (name, w) :: after)) = true ↔
      v.containedIn w = true := by
  obtain ⟨ascending, hmembers⟩ := wellFormed_object.mp h
  have hfound : ∀ member ∈ before ++ (name, w) :: after,
      (Json.object (before ++ (name, w) :: after)).member? member.1 = some member.2 :=
    fun _ hmember => ascending.member?_eq hmember
  rw [containedIn_object]
  simp only [Json.object.injEq, exists_eq_left', List.forall_mem_append, List.forall_mem_cons] at hmembers hfound ⊢
  constructor
  · rintro ⟨-, ⟨u, hu, hvu⟩, -⟩
    rw [hfound.2.1, Option.some.injEq] at hu
    rwa [hu]
  · intro hvw
    exact ⟨fun member hmember => ⟨_, hfound.1 member hmember, (hmembers.1 member hmember).containedIn_self⟩,
      ⟨w, hfound.2.1, hvw⟩,
      fun member hmember => ⟨_, hfound.2.2 member hmember, (hmembers.2.2 member hmember).containedIn_self⟩⟩

/-! ### Growing values -/

/-- A value is changed, somewhere inside, to one that says more, or says it in another order. -/
inductive Grows : Json → Json → Prop
  /-- A member is added. -/
  | member {members : List (String × Json)} {name : String} {v : Json}
      (hnew : ∀ member ∈ members, member.1 ≠ name) (hv : WellFormed v) :
      Grows (.object members) (.object (insertMember name v members))
  /-- An item is added. -/
  | item (before after : List Json) {v : Json} (hv : WellFormed v) :
      Grows (.array (before ++ after)) (.array (before ++ v :: after))
  /-- The items of an array are put in another order. -/
  | reorder {items others : List Json} (h : items.Perm others) : Grows (.array items) (.array others)
  /-- A member grows. -/
  | inMember (before after : List (String × Json)) (name : String) {v w : Json} (h : Grows v w) :
      Grows (.object (before ++ (name, v) :: after)) (.object (before ++ (name, w) :: after))
  /-- An item grows. -/
  | inItem (before after : List Json) {v w : Json} (h : Grows v w) :
      Grows (.array (before ++ v :: after)) (.array (before ++ w :: after))

/-- The order of members does not depend on their values. -/
theorem Ascending.replace {before after : List (String × Json)}
    (h : Ascending (before ++ (name, v) :: after)) (w : Json) :
    Ascending (before ++ (name, w) :: after) := by
  simp only [Ascending, List.pairwise_append, List.pairwise_cons, List.mem_cons, forall_eq_or_imp] at h ⊢
  exact h

/-- **Well-formed values stay so when they grow.** -/
theorem Grows.wellFormed (hgrows : Grows v w) (h : WellFormed v) : WellFormed w := by
  induction hgrows with
  | @member members name v hnew hv =>
      obtain ⟨ascending, hmembers⟩ := wellFormed_object.mp h
      refine .object (ascending.insertMember name v) fun member hmember => ?_
      rcases mem_or_eq_of_mem_insertMember hmember with rfl | hmember
      · exact hv
      · exact hmembers member hmember
  | item before after hv =>
      have hitems := wellFormed_array.mp h
      simp only [List.forall_mem_append] at hitems
      exact .array (List.forall_mem_append.mpr ⟨hitems.1, List.forall_mem_cons.mpr ⟨hv, hitems.2⟩⟩)
  | reorder hperm =>
      have hitems := wellFormed_array.mp h
      exact .array fun v hv => hitems v (hperm.mem_iff.mpr hv)
  | inMember before after name hgrows ih =>
      obtain ⟨ascending, hmembers⟩ := wellFormed_object.mp h
      simp only [List.forall_mem_append, List.forall_mem_cons] at hmembers
      obtain ⟨hbefore, hv, hafter⟩ := hmembers
      exact .object (ascending.replace _)
        (List.forall_mem_append.mpr ⟨hbefore, List.forall_mem_cons.mpr ⟨ih hv, hafter⟩⟩)
  | inItem before after hgrows ih =>
      have hitems := wellFormed_array.mp h
      simp only [List.forall_mem_append, List.forall_mem_cons] at hitems
      obtain ⟨hbefore, hv, hafter⟩ := hitems
      exact .array (List.forall_mem_append.mpr ⟨hbefore, List.forall_mem_cons.mpr ⟨ih hv, hafter⟩⟩)

/-- **A value is contained in what it grows to.** -/
theorem Grows.containedIn (hgrows : Grows v w) (h : WellFormed v) : v.containedIn w = true := by
  induction hgrows with
  | @member members name v hnew hv =>
      obtain ⟨ascending, hmembers⟩ := wellFormed_object.mp h
      refine containedIn_object.mpr ⟨_, rfl, fun member hmember => ⟨member.2, ?_, ?_⟩⟩
      · rw [member?_insertMember, if_neg (hnew member hmember), ascending.member?_eq hmember]
      · exact (hmembers member hmember).containedIn_self
  | item before after hv =>
      have hitems := wellFormed_array.mp h
      refine containedIn_array.mpr ⟨_, rfl, fun v hv => ⟨v, ?_, (hitems v hv).containedIn_self⟩⟩
      exact List.mem_append.mpr ((List.mem_append.mp hv).imp_right (List.mem_cons_of_mem _))
  | reorder hperm =>
      have hitems := wellFormed_array.mp h
      exact containedIn_array.mpr
        ⟨_, rfl, fun v hv => ⟨v, hperm.mem_iff.mp hv, (hitems v hv).containedIn_self⟩⟩
  | inMember before after name hgrows ih =>
      have hgrown := (Grows.inMember before after name hgrows).wellFormed h
      obtain ⟨-, hmembers⟩ := wellFormed_object.mp h
      simp only [List.forall_mem_append, List.forall_mem_cons] at hmembers
      exact (containedIn_replace_iff hgrown).mpr (ih hmembers.2.1)
  | @inItem before after v w hgrows ih =>
      have hitems := wellFormed_array.mp h
      simp only [List.forall_mem_append, List.forall_mem_cons] at hitems
      refine containedIn_array.mpr ⟨_, rfl, ?_⟩
      simp only [List.forall_mem_append, List.forall_mem_cons]
      refine ⟨fun u hu => ⟨u, by simp [hu], (hitems.1 u hu).containedIn_self⟩, ⟨w, by simp, ih hitems.2.1⟩,
        fun u hu => ⟨u, by simp [hu], (hitems.2.2 u hu).containedIn_self⟩⟩

/-- **What is contained stays contained**, however often a value grows. -/
theorem containedIn_of_grows (hgrows : Relation.ReflTransGen Grows v w) (hv : WellFormed v)
    (h : a.containedIn v = true) : a.containedIn w = true ∧ WellFormed w := by
  induction hgrows with
  | refl => exact ⟨h, hv⟩
  | tail hgrows hstep ih => exact ⟨containedIn_trans ih.1 (hstep.containedIn ih.2), hstep.wellFormed ih.2⟩

end StubServer.Json
