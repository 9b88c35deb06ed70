import StubServer.Proofs.Engine.Call

/-!
# Keys and numbers of stored rules

The index tells rules apart by their keys, and the store by their numbers. Here is what the calls do to
both: the keys of stored rules stay distinct, and what is created is stored beside everything that was
there, unless the numbers run full circle and a new rule takes the place of an old one.

## Main statements

* `Engine.Effect.keyed`: rules with distinct keys of their own stay so.
* `Engine.Effect.nodup_keys`: so do distinct keys of any kind, as long as nothing is created.
* `Plan.Creates.mem_of_mem`, `Plan.Creates.created_subset`: what is stored after creating.
-/

namespace StubServer

variable {table after : Table} {known brought created : List Rule} {rule existing : Rule} {id : Int}
  {replacement : Option Rule}

/-! ### Numbers -/

namespace Table

/-- The `k`-th number after another. -/
def numberAfter (id : Int) (k : Nat) : Int :=
  (id + k).bmod 18446744073709551616

/-- The numbers after the following one are those after this one. -/
theorem numberAfter_following (id : Int) (k : Nat) :
    numberAfter (following id) k = numberAfter id (k + 1) := by
  unfold numberAfter following
  rw [Int.bmod_add_bmod]
  congr 1
  omega

/-- A number comes back only after all others. -/
theorem numberAfter_following_ne (id : Int) {k : Nat} (hpos : 0 < k) (hlt : k < 18446744073709551616) :
    numberAfter (following id) k ≠ following id := by
  rw [numberAfter_following]
  unfold numberAfter following
  intro heq
  have hmod := congrArg (fun n : Int => n % ((18446744073709551616 : Nat) : Int)) heq
  simp only [Int.bmod_emod] at hmod
  omega

/-- As long as the numbers do not run out, they ascend. -/
theorem numberAfter_eq {id : Int} {k : Nat} (hnonneg : 0 ≤ id) (hlt : id + k < 9223372036854775808) :
    numberAfter id k = id + k :=
  Int.bmod_eq_of_le (by omega) (by omega)

/-! ### Replacing one rule -/

/-- A replaced rule and the rules apart from it are all rules there were. -/
theorem Replaces.perm_before (h : table.Replaces id existing replacement after)
    (hwf : table.WellFormed) : table.all.Perm (existing :: table.apart id) :=
  hwf.perm_of_find? h.found

/-- Replacing a rule leaves no new values of what identifies rules. -/
theorem Replaces.nodup_map {α : Type} {f : Rule → α} (h : table.Replaces id existing replacement after)
    (hwf : table.WellFormed) (hsame : ∀ saved ∈ replacement, f saved = f existing)
    (hnodup : (table.all.map f).Nodup) : (after.all.map f).Nodup := by
  have hbefore := ((h.perm_before hwf).map f).nodup_iff.mp hnodup
  refine ((h.rules.map f).nodup_iff).mpr ?_
  cases replacement with
  | none => exact (List.nodup_cons.mp hbefore).2
  | some saved =>
      rw [List.map_cons] at hbefore
      rw [Option.toList_some, List.singleton_append, List.map_cons, hsame saved rfl]
      exact hbefore

/-- The rules after a replacement are the replacement and the other rules that were there. -/
theorem Replaces.mem_after_iff (h : table.Replaces id existing replacement after) :
    rule ∈ after.all ↔ rule ∈ replacement ∨ (rule ∈ table.all ∧ rule.id ≠ some id) := by
  rw [h.rules.mem_iff, List.mem_append, Option.mem_toList, apart, List.mem_filter, bne_iff_ne]
  exact .rfl

/-- A rule that is there after a replacement is the replacement, or was there. -/
theorem Replaces.mem_after (h : table.Replaces id existing replacement after)
    (hmem : rule ∈ after.all) : rule ∈ replacement ∨ (rule ∈ table.all ∧ rule.id ≠ some id) :=
  h.mem_after_iff.mp hmem

/-- Under other numbers the same is found as before. -/
theorem Replaces.find?_of_ne (h : table.Replaces id existing replacement after) (hwf : table.WellFormed)
    {other : Int} (hne : other ≠ id) : after.find? other = table.find? other := by
  refine Option.ext fun found => ?_
  rw [h.wellFormed.find?_eq_some_iff, hwf.find?_eq_some_iff, h.mem_after_iff]
  refine ⟨fun ⟨hmem, hid⟩ => ?_, fun ⟨hmem, hid⟩ => ⟨.inr ⟨hmem, fun heq => ?_⟩, hid⟩⟩
  · rcases hmem with hsaved | ⟨hmem, -⟩
    · have heq := hid.symm.trans ((h.sameId found hsaved).trans (h.id_eq hwf))
      exact absurd (Option.some.inj heq) hne
    · exact ⟨hmem, hid⟩
  · exact hne (Option.some.inj (hid.symm.trans heq))

end Table

/-! ### Keys -/

/-- A rule with a key of its own has that key. -/
theorem Rule.externalKey_eq (h : rule.externalKey ≠ none) : rule.externalKey = some rule.key := by
  obtain ⟨key, hkey⟩ := Option.ne_none_iff_exists'.mp h
  rw [hkey]
  simp [Rule.key, hkey]

/-- All rules have keys of their own, which are distinct. -/
structure Keyed (rules : List Rule) : Prop where
  keyed : ∀ rule ∈ rules, rule.externalKey ≠ none
  distinct : (rules.map Rule.externalKey).Nodup

/-- No rules are keyed. -/
theorem keyed_nil : Keyed [] where
  keyed := by simp
  distinct := List.nodup_nil

/-- The keys of keyed rules are distinct. -/
theorem Keyed.nodup_keys (h : Keyed known) : (known.map Rule.key).Nodup := by
  have hkeys : known.map Rule.externalKey = (known.map Rule.key).map some := by
    rw [List.map_map]
    exact List.map_congr_left fun rule hmem => Rule.externalKey_eq (h.keyed rule hmem)
  have hdistinct := h.distinct
  rw [hkeys] at hdistinct
  exact hdistinct.of_map

/-- Some of several keyed rules are keyed. -/
theorem Keyed.of_subset (h : Keyed known) {rules : List Rule} (hsubset : rules ⊆ known)
    (hnodup : rules.Nodup) : Keyed rules where
  keyed := fun rule hmem => h.keyed rule (hsubset hmem)
  distinct := hnodup.map_on fun _ ha _ hb heq =>
    List.inj_on_of_nodup_map h.distinct (hsubset ha) (hsubset hb) heq

/-- Another rule under a new key leaves rules keyed. -/
theorem Keyed.append_singleton (h : Keyed known) {key : String} (hkey : rule.externalKey = some key)
    (hnew : Plan.isTaken known key = false) : Keyed (known ++ [rule]) where
  keyed := by
    intro other hother
    rcases List.mem_append.mp hother with hother | hother
    · exact h.keyed other hother
    · rw [List.mem_singleton.mp hother, hkey]
      exact Option.some_ne_none key
  distinct := by
    rw [List.map_append, List.nodup_append_comm]
    refine List.nodup_cons.mpr ⟨fun hmem => ?_, h.distinct⟩
    obtain ⟨other, hother, heq⟩ := List.mem_map.mp hmem
    have htaken : Plan.isTaken known key = true :=
      List.any_eq_true.mpr ⟨other, hother, beq_iff_eq.mpr (heq.trans hkey)⟩
    rw [hnew] at htaken
    exact Bool.false_ne_true htaken

/-- Replacing a rule leaves rules keyed. -/
theorem Table.Replaces.keyed (h : table.Replaces id existing replacement after)
    (hwf : table.WellFormed) (hkeyed : Keyed table.all) : Keyed after.all where
  keyed := by
    intro rule hmem
    rcases h.mem_after hmem with hsaved | ⟨hother, -⟩
    · rw [h.sameKey rule hsaved]
      exact hkeyed.keyed existing (hwf.find?_eq_some_iff.mp h.found).1
    · exact hkeyed.keyed rule hother
  distinct := h.nodup_map hwf h.sameKey hkeyed.distinct

/-! ### Creating -/

namespace Plan

/-- What is created gets keys that no other rule has. -/
theorem Creates.keyed (h : Creates known brought table created after) (hknown : Keyed known) :
    Keyed (known ++ created) := by
  induction h with
  | stop => simpa using hknown
  | skip _ ih => exact ih hknown
  | create hvalid hnew hsave _ ih =>
      obtain ⟨id, rfl, -⟩ := Table.rows_of_save hsave
      simpa using ih (hknown.append_singleton rfl hnew)

/-- What is created is valid. -/
theorem Creates.valid (h : Creates known brought table created after) :
    ∀ rule ∈ created, rule.validate = .ok () := by
  induction h with
  | stop => simp
  | skip _ ih => exact ih
  | create hvalid hnew hsave _ ih =>
      obtain ⟨id, rfl, -⟩ := Table.rows_of_save hsave
      exact List.forall_mem_cons.mpr ⟨hvalid, ih⟩

/-- All that is stored after creating was known or is created. -/
theorem Creates.subset (h : Creates known brought table created after) (hwf : table.WellFormed)
    (hknown : table.all ⊆ known) : after.all ⊆ known ++ created := by
  induction h with
  | stop => simpa using hknown
  | skip _ ih => exact ih hwf hknown
  | create hvalid hnew hsave _ ih =>
      obtain ⟨id, -, hperm⟩ := hwf.all_save_perm hsave
      have hnext := ih (hwf.save hsave) fun rule hmem => by
        rcases List.mem_cons.mp (hperm.mem_iff.mp hmem) with rfl | hmem
        · simp
        · exact List.mem_append_left _ (hknown (List.mem_filter.mp hmem).1)
      simpa using hnext

/-- **A stored rule stays** while others are created, unless its number is given anew. -/
theorem Creates.mem_of_mem (h : Creates known brought table created after) (hwf : table.WellFormed)
    (hmem : rule ∈ table.all)
    (hkept : ∀ k, 0 < k → k ≤ brought.length → rule.id ≠ some (Table.numberAfter table.lastId k)) :
    rule ∈ after.all := by
  induction h with
  | stop => exact hmem
  | skip _ ih => exact ih hwf hmem fun k hpos hle => hkept k hpos (Nat.le_succ_of_le hle)
  | @create known rest created brought saved freshKey now table next after hvalid hnew hsave _ ih =>
      have hnext := hwf.save hsave
      rw [Table.save_draft rfl] at hsave
      obtain ⟨rfl, rfl⟩ := Prod.mk.inj (Except.ok.inj hsave)
      refine ih hnext ?_ fun k hpos hle => ?_
      · refine (hwf.all_insertRow_perm _ _ _).mem_iff.mpr (List.mem_cons_of_mem _ ?_)
        have hother := hkept 1 Nat.one_pos (by simp)
        exact List.mem_filter.mpr ⟨hmem, bne_iff_ne.mpr hother⟩
      · rw [Table.numberAfter_following]
        exact hkept (k + 1) (Nat.succ_pos k) (by simpa using hle)

/-- **All that is created is stored**, unless there are not enough numbers for it. -/
theorem Creates.created_subset (h : Creates known brought table created after)
    (hwf : table.WellFormed) (hlength : brought.length ≤ 18446744073709551616) :
    created ⊆ after.all := by
  induction h with
  | stop => simp
  | skip _ ih => exact ih hwf (Nat.le_of_succ_le hlength)
  | @create known rest created brought saved freshKey now table next after hvalid hnew hsave hrest ih =>
      have hnext := hwf.save hsave
      rw [Table.save_draft rfl] at hsave
      obtain ⟨rfl, rfl⟩ := Prod.mk.inj (Except.ok.inj hsave)
      rw [List.length_cons] at hlength
      refine List.cons_subset.mpr ⟨?_, ih hnext (by omega)⟩
      refine hrest.mem_of_mem hnext ?_ fun k hpos hle heq => ?_
      · exact (hwf.all_insertRow_perm _ _ _).mem_iff.mpr List.mem_cons_self
      · exact Table.numberAfter_following_ne table.lastId hpos (by omega) (Option.some.inj heq).symm

end Plan

/-! ### Every call -/

namespace Engine

variable {call : Call} {succeeded : Bool} {edits : List Index.Edit}

/-- Every call leaves rules keyed. -/
theorem Effect.keyed (h : Effect table call succeeded after edits) (hwf : table.WellFormed)
    (hkeyed : Keyed table.all) : Keyed after.all := by
  have hnodup : after.all.Nodup := .of_map _ (h.wellFormed hwf).nodup_ids
  cases h with
  | kept h => exact hkeyed
  | filled hfills => exact hkeyed
  | created hcreates h => exact (h.keyed hkeyed).of_subset (h.subset hwf (List.Subset.refl _)) hnodup
  | replaced htarget hdelete h hserving hkey => exact h.keyed hwf hkeyed

/-- Every call that creates nothing leaves the keys distinct, also those made of numbers. -/
theorem Effect.nodup_keys (h : Effect table call succeeded after edits) (hwf : table.WellFormed)
    (hcreates : call.creates = false) (hdistinct : (table.all.map Rule.key).Nodup) :
    (after.all.map Rule.key).Nodup := by
  cases h with
  | kept h => exact hdistinct
  | filled hfills => exact hdistinct
  | created hcreates' h => exact absurd (hcreates.symm.trans hcreates') Bool.false_ne_true
  | replaced htarget hdelete h hserving hkey => exact h.nodup_map hwf (h.key_eq hwf) hdistinct

/-- A stored rule stays while others are created, unless its number is given anew. -/
theorem Effect.mem_of_mem (h : Effect table call succeeded after edits) (hwf : table.WellFormed)
    (hcreates : call.creates = true) (hmem : rule ∈ table.all)
    (hkept : ∀ k, 0 < k → k ≤ call.brought.length →
      rule.id ≠ some (Table.numberAfter table.lastId k)) : rule ∈ after.all := by
  cases h with
  | kept h => exact hmem
  | filled hfills => exact hmem
  | created _ h => exact h.mem_of_mem hwf hmem hkept
  | replaced htarget hdelete h hserving hkey =>
      cases call <;> simp [Call.target?, Call.creates] at htarget hcreates

end Engine

end StubServer
