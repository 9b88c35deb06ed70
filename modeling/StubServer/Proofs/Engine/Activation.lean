import StubServer.Proofs.Engine.Sync

/-!
# Which rule was activated last

A rule is activated when it is created enabled, updated to an enabled version or toggled on, and every
successful start or reload activates all enabled rules in the order of their numbers. `Engine.log` lists
the numbers of the rules that a run activates, and of two rules `LaterIn` says whether the one was
activated after the last activation of the other.

The index serves rules in this order: after a call, what it activates comes last, behind the served rules
that it leaves (`Effect.serves_activated`).

The numbers of created rules ascend as long as they do not run out (`Table.Numbered`).
-/

namespace StubServer

/-! ### The order of activations -/

/-- In a log of numbers, a rule occurs after the last occurrence of another. -/
def LaterIn (log : List (Option Int)) (a b : Rule) : Prop :=
  ∃ recent, recent <:+ log ∧ b.id ∈ recent ∧ a.id ∉ recent

section Order

variable {log : List (Option Int)} {a b : Rule} {kept activated : List Rule}

/-- What is logged after that of other rules changes nothing. -/
theorem LaterIn.append (h : LaterIn log a b) {more : List (Option Int)} (hnot : a.id ∉ more) :
    LaterIn (log ++ more) a b := by
  obtain ⟨recent, ⟨earlier, rfl⟩, hb, ha⟩ := h
  refine ⟨recent ++ more, ⟨earlier, (List.append_assoc _ _ _).symm⟩, ?_, ?_⟩
  · exact List.mem_append_left _ hb
  · exact fun hmem => (List.mem_append.mp hmem).elim ha hnot

/-- Rules in the order of their activations, and after them others that are activated now, are in the
order of their activations. -/
theorem pairwise_laterIn_append (hkept : kept.Pairwise (LaterIn log))
    (hnodup : ((kept ++ activated).map Rule.id).Nodup) :
    (kept ++ activated).Pairwise (LaterIn (log ++ activated.map Rule.id)) := by
  induction activated generalizing kept log with
  | nil => simpa using hkept
  | cons rule rest ih =>
      have hnew : ∀ other ∈ kept, other.id ≠ rule.id := by
        rw [List.map_append, List.map_cons] at hnodup
        intro other hother
        exact (List.nodup_append.mp hnodup).2.2 _ (List.mem_map_of_mem hother) _ List.mem_cons_self
      have hnext : (kept ++ [rule]).Pairwise (LaterIn (log ++ [rule.id])) := by
        refine List.pairwise_append.mpr ⟨?_, List.pairwise_singleton _ _, ?_⟩
        · exact hkept.imp_of_mem fun ha _ hlater => hlater.append (by simpa using hnew _ ha)
        · intro other hother last hlast
          obtain rfl := List.mem_singleton.mp hlast
          exact ⟨[last.id], List.suffix_append _ _, List.mem_singleton_self _,
            by simpa using hnew other hother⟩
      simpa using ih hnext (by simpa using hnodup)

end Order

/-! ### What a call activates -/

namespace Engine

/-- The rules that a call activates, from whether it succeeds and the table before and after it. -/
def Call.activated (call : Call) (succeeded : Bool) (before after : Table) : List Rule :=
  match call with
  | .start | .reload => if succeeded then after.all.filter Rule.enabled else []
  | .create _ | .createBatch _ =>
    (after.all.filter fun rule => !before.all.any fun other => other.id == rule.id).filter Rule.enabled
  | .update id _ | .toggle id => if succeeded then (after.find? id).toList.filter Rule.enabled else []
  | .stop | .delete _ => []

/-- The numbers of the rules that a run activates, one after the other. -/
def log : Engine → List Step → List (Option Int)
  | _, [] => []
  | engine, step :: rest =>
    let done := engine.call step.env step.call
    (step.call.activated done.1 engine.store.table done.2.store.table).map Rule.id ++ log done.2 rest

end Engine

/-! ### Numbers that do not run out -/

namespace Table

/-- No number is greater than the last one given, and there are some left. -/
structure Numbered (table : Table) (left : Nat) : Prop where
  nonneg : 0 ≤ table.lastId
  upTo : ∀ rule ∈ table.all, ∀ id, rule.id = some id → id ≤ table.lastId
  bounded : table.lastId + left < 9223372036854775808

variable {table after : Table} {known brought created : List Rule} {id : Int} {existing rule saved : Rule}
  {replacement : Option Rule} {left fewer : Nat}

/-- Fewer numbers are left as well. -/
theorem Numbered.mono (h : table.Numbered left) (hle : fewer ≤ left) : table.Numbered fewer where
  nonneg := h.nonneg
  upTo := h.upTo
  bounded := by
    have hbounded := h.bounded
    omega

/-- Replacing a rule gives no number. -/
theorem Replaces.numbered (h : table.Replaces id existing replacement after) (hwf : table.WellFormed)
    (hnumbered : table.Numbered left) : after.Numbered left where
  nonneg := h.lastId ▸ hnumbered.nonneg
  upTo := by
    intro rule hmem i hi
    rw [h.lastId]
    rcases h.mem_after hmem with hsaved | ⟨hother, -⟩
    · rw [h.sameId rule hsaved] at hi
      exact hnumbered.upTo existing (hwf.find?_eq_some_iff.mp h.found).1 i hi
    · exact hnumbered.upTo rule hother i hi
  bounded := h.lastId ▸ hnumbered.bounded

/-- A rule that is saved without a number comes last. -/
theorem Numbered.save_draft (h : table.Numbered (left + 1)) (hwf : table.WellFormed)
    (hid : rule.id = none) (hsave : table.save rule = .ok (saved, after)) :
    after.all = table.all ++ [saved] ∧ after.Numbered left := by
  have hbounded := h.bounded
  have hlt : table.lastId + (1 : Nat) < 9223372036854775808 := by omega
  have hfollowing : following table.lastId = table.lastId + 1 := numberAfter_eq h.nonneg hlt
  rw [Table.save_draft hid, hfollowing] at hsave
  obtain ⟨rfl, rfl⟩ := Prod.mk.inj (Except.ok.inj hsave)
  have hgreatest : ∀ other ∈ table.all, ∀ i, other.id = some i → i < table.lastId + 1 :=
    fun other hother i hi => Int.lt_add_one_of_le (h.upTo other hother i hi)
  have hall := hwf.all_insertRow_greatest hgreatest { rule with id := some (table.lastId + 1) }
    (table.lastId + 1)
  refine ⟨hall, ?_, ?_, ?_⟩
  · exact Int.le_trans h.nonneg (Int.le_of_lt (Int.lt_succ _))
  · intro other hother i hi
    rw [hall] at hother
    rcases List.mem_append.mp hother with hother | hother
    · exact Int.le_trans (h.upTo other hother i hi) (Int.le_of_lt (Int.lt_succ _))
    · rw [List.mem_singleton.mp hother] at hi
      exact Int.le_of_eq (Option.some.inj hi).symm
  · dsimp only
    omega

/-- After a replacement, the replacement is found under the number. -/
theorem Replaces.find?_eq (h : table.Replaces id existing replacement after) (hwf : table.WellFormed) :
    after.find? id = replacement := by
  cases hreplacement : replacement with
  | some saved =>
      have hid := (h.sameId saved hreplacement).trans (h.id_eq hwf)
      refine h.wellFormed.find?_eq_some_iff.mpr ⟨h.rules.mem_iff.mpr ?_, hid⟩
      simp [hreplacement]
  | none =>
      refine Option.eq_none_iff_forall_ne_some.mpr fun rule hfind => ?_
      obtain ⟨hmem, hid⟩ := h.wellFormed.find?_eq_some_iff.mp hfind
      rcases h.mem_after hmem with hsaved | ⟨-, hne⟩
      · simp [hreplacement] at hsaved
      · exact hne hid

end Table

namespace Engine

open Index (Edit serving)

section Effects

variable {table after : Table} {known brought created served : List Rule} {id : Int}
  {replacement : Option Rule} {left : Nat} {call : Call} {succeeded : Bool} {edits : List Edit}

/-- **What is created comes last**, as long as there are numbers left. -/
theorem all_eq_of_creates (h : Plan.Creates known brought table created after) (hwf : table.WellFormed)
    (hnumbered : table.Numbered (brought.length + left)) :
    after.all = table.all ++ created ∧ after.Numbered left := by
  induction h with
  | stop => exact ⟨by simp, hnumbered.mono (Nat.le_add_left _ _)⟩
  | skip _ ih =>
      refine ih hwf (hnumbered.mono ?_)
      rw [List.length_cons]
      omega
  | @create known rest created rule saved freshKey now table next after hvalid hnew hsave _ ih =>
      have hleft : (rule :: rest).length + left = rest.length + left + 1 := by
        rw [List.length_cons]
        omega
      rw [hleft] at hnumbered
      obtain ⟨hall, hnext⟩ := hnumbered.save_draft hwf rfl hsave
      obtain ⟨hafter, hnumbered⟩ := ih (hwf.save hsave) hnext
      exact ⟨by rw [hafter, hall, List.append_assoc, List.singleton_append], hnumbered⟩

/-- Every call leaves numbers, as many as before but for the rules that it brings. -/
theorem Effect.numbered (h : Effect table call succeeded after edits) (hwf : table.WellFormed)
    (hnumbered : table.Numbered (call.brought.length + left)) : after.Numbered left := by
  have hfewer := hnumbered.mono (Nat.le_add_left left _)
  cases h with
  | kept h => exact hfewer
  | filled hfills => exact hfewer
  | created hcreates h => exact (all_eq_of_creates h hwf hnumbered).2
  | replaced htarget hdelete h hserving hkey => exact h.numbered hwf hfewer

/-- As long as there are numbers left, creating rules loses none. -/
theorem Effect.subset (h : Effect table call succeeded after edits) (hwf : table.WellFormed)
    (hnumbered : table.Numbered (call.brought.length + left)) (hcreates : call.creates = true) :
    table.all ⊆ after.all := by
  intro rule hmem
  refine h.mem_of_mem hwf hcreates hmem fun k hpos hle hid => ?_
  have hbounded := hnumbered.bounded
  have hupTo := hnumbered.upTo rule hmem _ hid
  rw [Table.numberAfter_eq hnumbered.nonneg (by omega)] at hupTo
  omega

/-! ### The activated rules are served last -/

/-- What does nothing activates nothing. -/
theorem Call.activated_of_kept (h : succeeded = true → call = .stop) :
    call.activated succeeded table table = [] := by
  have hnone : (table.all.filter fun rule => !table.all.any fun other => other.id == rule.id) = [] := by
    refine List.filter_eq_nil_iff.mpr fun rule hmem => ?_
    have hany : (table.all.any fun other => other.id == rule.id) = true :=
      List.any_eq_true.mpr ⟨rule, hmem, beq_self_eq_true _⟩
    simp [hany]
  cases call <;> cases succeeded <;> simp [Call.activated, hnone] at h ⊢

/-- Filling the index activates all enabled rules. -/
theorem Call.activated_of_fills (hfills : call.fills = true) :
    call.activated true table after = after.all.filter Rule.enabled := by
  cases call <;> first | rfl | simp [Call.fills] at hfills

/-- Creating rules activates the enabled ones of them. -/
theorem Call.activated_of_creates (hcreates : call.creates = true)
    (hall : after.all = table.all ++ created) (hnodup : (after.all.map Rule.id).Nodup) :
    call.activated succeeded table after = created.filter Rule.enabled := by
  have hnew : (after.all.filter fun rule => !table.all.any fun other => other.id == rule.id) =
      created := by
    rw [hall, List.map_append] at hnodup
    rw [hall, List.filter_append, List.filter_eq_nil_iff.mpr, List.filter_eq_self.mpr, List.nil_append]
    · intro rule hmem
      refine Bool.not_eq_true' _ |>.mpr (List.any_eq_false.mpr fun other hother => ?_)
      have hne := (List.nodup_append.mp hnodup).2.2 _ (List.mem_map_of_mem hother) _
        (List.mem_map_of_mem hmem)
      simpa using hne
    · intro rule hmem
      have hany : (table.all.any fun other => other.id == rule.id) = true :=
        List.any_eq_true.mpr ⟨rule, hmem, beq_self_eq_true _⟩
      simp [hany]
  cases call with
  | create rule => exact congrArg (List.filter Rule.enabled) hnew
  | createBatch rules => exact congrArg (List.filter Rule.enabled) hnew
  | _ => simp [Call.creates] at hcreates

/-- Replacing a rule activates the replacement if it is enabled. -/
theorem Call.activated_of_target (htarget : call.target? = some id)
    (hdelete : call = .delete id → replacement = none) (hfind : after.find? id = replacement) :
    call.activated true table after = replacement.toList.filter Rule.enabled := by
  cases call with
  | update | toggle =>
      obtain rfl := Option.some.inj htarget
      rw [← hfind]
      rfl
  | delete =>
      obtain rfl := Option.some.inj htarget
      rw [hdelete rfl]
      rfl
  | _ => simp [Call.target?] at htarget

/-- **What a call activates is served last**, behind served rules that it leaves. -/
theorem Effect.serves_activated (h : Effect table call succeeded after edits) (hwf : table.WellFormed)
    (hkeyed : Keyed table.all) (hnumbered : table.Numbered (call.brought.length + left))
    (hagrees : table.Agrees served) :
    ∃ kept : List Rule, kept.Sublist served ∧
      edits.foldl serving served = kept ++ call.activated succeeded table after := by
  have hafter := h.wellFormed hwf
  cases h with
  | kept h =>
      rw [Call.activated_of_kept h]
      exact ⟨served, List.Sublist.refl _, (List.append_nil _).symm⟩
  | filled hfills =>
      rw [Call.activated_of_fills hfills]
      refine ⟨[], List.nil_sublist _, Index.foldl_enlist ?_⟩
      exact hkeyed.nodup_keys.sublist (List.filter_sublist.map _)
  | created hcreates h =>
      obtain ⟨hall, -⟩ := all_eq_of_creates h hwf hnumbered
      rw [Call.activated_of_creates hcreates hall hafter.nodup_ids]
      exact ⟨served, List.Sublist.refl _, serving_created h hkeyed hagrees⟩
  | replaced htarget hdelete h hserving hkey =>
      rw [Call.activated_of_target htarget hdelete (h.find?_eq hwf)]
      exact ⟨_, List.filter_sublist, hserving served⟩

end Effects

end Engine

end StubServer
