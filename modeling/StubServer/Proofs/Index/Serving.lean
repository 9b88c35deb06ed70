import StubServer.Proofs.Index.Lookup

/-!
# The rules that an index serves

What an index holds, told by rules alone: `Index.Serves` says that the index holds just the compiled
rules of a list, inserted in its order. A change of the index is a change of that list (`serving`).

## Main statements

* `Serves.foldl_apply`: what is done to the index is done to the list.
* `foldl_enlist`: rules under new keys, inserted one after the other, are appended.
* `Serves.matchers_perm`: the entries are the compiled rules under their keys.
* `find?_byKey_apply`: a change under one key leaves the entries under the others.
* `nodup_keys_apply`: and it keeps the keys distinct.
-/

namespace StubServer.Index

/-! ### The list of served rules -/

/-- Inserts a rule if it is enabled, in place of any other under its key. -/
def enlist (served : List Rule) (rule : Rule) : List Rule :=
  if rule.enabled then served.filter (fun other => other.key != rule.key) ++ [rule] else served

/-- The served rules after a change. -/
def serving (served : List Rule) : Edit → List Rule
  | .add rule => enlist served rule
  | .remove key => served.filter fun rule => rule.key != key
  | .reload rules => rules.foldl enlist []

/-- The index holds the compiled rules of a list, inserted in its order. -/
def Serves (index : Index) (served : List Rule) : Prop :=
  ∃ register : Register, index.Tracks register ∧ register.Ordered ∧
    register.records.map Record.rule = served

variable {index : Index} {register : Register} {served rules : List Rule} {rule : Rule} {key : String}
  {matcher : Matcher} {request : Request}

/-! ### Changes -/

/-- The rules of the records that are left. -/
theorem map_rule_without (key : String) (records : List Record) :
    (without key records).map Record.rule =
      (records.map Record.rule).filter fun rule => rule.key != key := by
  rw [List.filter_map]
  rfl

/-- Entering a rule into the register enlists it. -/
theorem Register.map_rule_enter (register : Register) (rule : Rule) :
    (register.enter rule).records.map Record.rule =
      enlist (register.records.map Record.rule) rule := by
  unfold Register.enter enlist
  split
  · rw [List.map_append, map_rule_without]
    rfl
  · rfl

/-- Entering several rules into the register enlists them. -/
theorem Register.map_rule_foldl_enter (register : Register) (rules : List Rule) :
    (rules.foldl Register.enter register).records.map Record.rule =
      rules.foldl enlist (register.records.map Record.rule) := by
  induction rules generalizing register with
  | nil => rfl
  | cons rule rest ih => exact (ih (register.enter rule)).trans (by rw [map_rule_enter]; rfl)

/-- A change of the register is a change of the list. -/
theorem Register.map_rule_apply (register : Register) (edit : Edit) :
    (register.apply edit).records.map Record.rule =
      serving (register.records.map Record.rule) edit := by
  cases edit with
  | add rule => exact register.map_rule_enter rule
  | remove key => exact map_rule_without key register.records
  | reload rules => exact Register.map_rule_foldl_enter _ rules

/-- A fresh index serves nothing. -/
theorem serves_fresh (limit : Option Nat) (uses : List Regex.Cache.Use) :
    (fresh limit uses).Serves [] :=
  ⟨{}, tracks_fresh limit uses, Register.ordered_empty 0, rfl⟩

/-- What was compiled for an index that serves rules is what compiling gives. -/
theorem Serves.sound (h : index.Serves served) : index.cache.Sound := by
  obtain ⟨register, htracks, -⟩ := h
  exact htracks.sound

/-- A change of the index is a change of the list. -/
theorem Serves.apply (h : index.Serves served) (edit : Edit) :
    (index.apply edit).Serves (serving served edit) := by
  obtain ⟨register, htracks, hordered, rfl⟩ := h
  exact ⟨register.apply edit, htracks.apply hordered edit, hordered.apply edit,
    register.map_rule_apply edit⟩

/-- **What is done to the index** is done to the list. -/
theorem Serves.foldl_apply (h : index.Serves served) (edits : List Edit) :
    (edits.foldl Index.apply index).Serves (edits.foldl serving served) := by
  induction edits generalizing index served with
  | nil => exact h
  | cons edit rest ih => exact ih (h.apply edit)

/-- **Rules under new keys** are appended one after the other. -/
theorem foldl_enlist (h : ((served ++ rules.filter Rule.enabled).map Rule.key).Nodup) :
    rules.foldl enlist served = served ++ rules.filter Rule.enabled := by
  induction rules generalizing served with
  | nil => simp
  | cons rule rest ih =>
      rw [List.foldl_cons]
      cases henabled : rule.enabled with
      | false =>
          have hrest : (rule :: rest).filter Rule.enabled = rest.filter Rule.enabled := by
            simp [henabled]
          rw [hrest] at h ⊢
          have henlist : enlist served rule = served := by simp [enlist, henabled]
          rw [henlist, ih h]
      | true =>
          have hrest : (rule :: rest).filter Rule.enabled = rule :: rest.filter Rule.enabled := by
            simp [henabled]
          rw [hrest] at h ⊢
          have hnew : ∀ other ∈ served, other.key ≠ rule.key := by
            rw [List.map_append, List.map_cons] at h
            intro other hother
            exact (List.nodup_append.mp h).2.2 _ (List.mem_map_of_mem hother) _ List.mem_cons_self
          have henlist : enlist served rule = served ++ [rule] := by
            have hkeep : served.filter (fun other => other.key != rule.key) = served :=
              List.filter_eq_self.mpr fun other hother => bne_iff_ne.mpr (hnew other hother)
            simp [enlist, henabled, hkeep]
          rw [henlist, ih (by simpa using h), List.append_assoc]
          rfl

/-- Adding rules one after the other enlists them. -/
theorem foldl_serving_add (rules served : List Rule) :
    (rules.map Edit.add).foldl serving served = rules.foldl enlist served := by
  rw [List.foldl_map]
  rfl

/-! ### Entries -/

/-- Served rules have distinct keys. -/
theorem Serves.nodup_keys (h : index.Serves served) : (served.map Rule.key).Nodup := by
  obtain ⟨register, -, hordered, rfl⟩ := h
  rw [List.map_map]
  exact hordered.distinct

/-- **The entries** are the compiled rules under their keys. -/
theorem Serves.matchers_perm (h : index.Serves served) :
    (index.snapshot.byKey.map fun entry => (entry.1, entry.2.matcher)).Perm
      (served.map fun rule => (rule.key, Matcher.ofRule rule)) := by
  obtain ⟨register, htracks, -, rfl⟩ := h
  have hentries := htracks.holds.byKey.map fun entry => (entry.1, entry.2.matcher)
  rw [List.map_map] at hentries ⊢
  exact hentries

/-- The number of entries is the number of served rules. -/
theorem Serves.size_eq (h : index.Serves served) : index.size = served.length := by
  have hlength := h.matchers_perm.length_eq
  rwa [List.length_map, List.length_map] at hlength

/-- The keys of the entries are those of the served rules. -/
theorem Serves.keys_perm (h : index.Serves served) : index.keys.Perm (served.map Rule.key) := by
  have hkeys := h.matchers_perm.map Prod.fst
  rw [List.map_map, List.map_map] at hkeys
  exact hkeys

/-- What stands under a key is the compiled served rule with that key. -/
theorem Serves.get?_eq_some_iff (h : index.Serves served) :
    index.get? key = some matcher ↔ ∃ rule ∈ served, rule.key = key ∧ Matcher.ofRule rule = matcher := by
  obtain ⟨register, htracks, hordered, rfl⟩ := h
  rw [Index.get?, Option.map_eq_some_iff]
  constructor
  · rintro ⟨entry, hfind, rfl⟩
    obtain ⟨record, hrecord, hkey, rfl⟩ :=
      (htracks.holds.find?_eq_some_iff hordered.distinct).mp hfind
    exact ⟨record.rule, List.mem_map_of_mem hrecord, hkey, rfl⟩
  · rintro ⟨rule, hrule, hkey, rfl⟩
    obtain ⟨record, hrecord, rfl⟩ := List.mem_map.mp hrule
    exact ⟨record.entry,
      (htracks.holds.find?_eq_some_iff hordered.distinct).mpr ⟨record, hrecord, hkey, rfl⟩, rfl⟩

/-! ### Looking up -/

/-- Nothing is found exactly if no served rule accepts the request. -/
theorem Serves.lookup?_eq_none_iff (h : index.Serves served)
    (hmethod : asciiUpper request.method = request.method) :
    index.lookup? request = none ↔
      ∀ rule ∈ served, (Matcher.ofRule rule).accepts request = false := by
  obtain ⟨register, htracks, -, rfl⟩ := h
  rw [htracks.lookup?_eq_none_iff hmethod, List.forall_mem_map]
  rfl

/-! ### Entries under other keys -/

/-- The only key under which an added or removed entry changes something. -/
def Edit.key? : Edit → Option String
  | .add rule => some rule.key
  | .remove key => some key
  | .reload _ => none

/-- Removing the entry of a key leaves the others. -/
theorem Snapshot.find?_byKey_remove (snapshot : Snapshot) {removed : String} (hne : key ≠ removed) :
    (snapshot.remove removed).byKey.find? key = snapshot.byKey.find? key := by
  unfold Snapshot.remove
  split
  · rfl
  · exact (Dictionary.find?_erase _ _ _).trans (if_neg hne)

/-- **A change under one key** leaves the entries under the others. -/
theorem find?_byKey_apply (index : Index) {edit : Edit} {changed : String}
    (hedit : edit.key? = some changed) (hne : key ≠ changed) :
    (index.apply edit).snapshot.byKey.find? key = index.snapshot.byKey.find? key := by
  cases edit with
  | add rule =>
      obtain rfl := Option.some.inj hedit
      change (index.add rule).snapshot.byKey.find? key = _
      unfold Index.add adding
      split
      · rfl
      · refine (Dictionary.find?_insert _ _ _ _).trans ((if_neg hne).trans ?_)
        exact Snapshot.find?_byKey_remove _ hne
  | remove removed =>
      obtain rfl := Option.some.inj hedit
      change (index.remove _).snapshot.byKey.find? key = _
      unfold Index.remove removing
      split
      · exact Snapshot.find?_byKey_remove _ hne
      · rfl
  | reload rules => simp [Edit.key?] at hedit

/-- Changes under one key leave the entries under the others. -/
theorem find?_byKey_foldl_apply (index : Index) {edits : List Edit} {changed : String}
    (hedits : ∀ edit ∈ edits, edit.key? = some changed) (hne : key ≠ changed) :
    (edits.foldl Index.apply index).snapshot.byKey.find? key = index.snapshot.byKey.find? key := by
  induction edits generalizing index with
  | nil => rfl
  | cons edit rest ih =>
      obtain ⟨hedit, hrest⟩ := List.forall_mem_cons.mp hedits
      exact (ih (index.apply edit) hrest).trans (find?_byKey_apply index hedit hne)

/-- No entry is left under a key that was removed. -/
theorem find?_byKey_remove (index : Index) (key : String) :
    (index.apply (.remove key)).snapshot.byKey.find? key = none := by
  change (index.remove key).snapshot.byKey.find? key = none
  unfold Index.remove removing
  split
  · change (index.snapshot.remove key).byKey.find? key = none
    unfold Snapshot.remove
    split
    · assumption
    · exact (Dictionary.find?_erase _ _ _).trans (if_pos rfl)
  · exact Option.not_isSome_iff_eq_none.mp ‹_›

/-- An entry under a new key comes last in the bucket of its method, and nothing else changes in the buckets. -/
theorem Snapshot.bucket_insert_of_new {snapshot : Snapshot} {entry : Entry}
    (hnew : snapshot.byKey.find? entry.matcher.key = none) (method : String) :
    (snapshot.insert entry).bucket method =
      if method = entry.matcher.method then snapshot.bucket entry.matcher.method ++ [entry]
      else snapshot.bucket method := by
  have hremove : snapshot.remove entry.matcher.key = snapshot := by
    unfold Snapshot.remove
    rw [hnew]
  unfold Snapshot.insert
  rw [hremove]
  exact bucket_insert _ snapshot _ _ _

/-- Adding a rule under a new key takes no entry out of its bucket. -/
theorem mem_bucket_add (index : Index) (hnew : index.snapshot.byKey.find? rule.key = none) {method : String}
    {entry : Entry} (hmem : entry ∈ index.snapshot.bucket method) :
    entry ∈ (index.apply (.add rule)).snapshot.bucket method := by
  change entry ∈ (index.add rule).snapshot.bucket method
  unfold Index.add adding
  split
  · exact hmem
  · set added : Entry := ⟨(Matcher.compile rule index.cache).1, index.sequence + 1⟩
    change entry ∈ (index.snapshot.insert added).bucket method
    have hkey : added.matcher.key = rule.key := rfl
    rw [Snapshot.bucket_insert_of_new (hkey ▸ hnew)]
    split
    · rename_i hmethod
      exact List.mem_append_left _ (hmethod ▸ hmem)
    · exact hmem

/-! ### Keys -/

/-- A key is one of the keys if there is an entry under it. -/
theorem mem_keys_iff (h : index.keys.Nodup) :
    key ∈ index.keys ↔ ∃ entry, index.snapshot.byKey.find? key = some entry := by
  refine List.mem_map.trans ⟨?_, ?_⟩
  · rintro ⟨entry, hmem, rfl⟩
    exact ⟨entry.2, (Dictionary.find?_eq_some_iff_mem h).mpr hmem⟩
  · rintro ⟨entry, hfind⟩
    exact ⟨(key, entry), (Dictionary.find?_eq_some_iff_mem h).mp hfind, rfl⟩

/-- Two indexes with entries under the same keys have the same keys. -/
theorem keys_perm {other : Index} (h : index.keys.Nodup) (hother : other.keys.Nodup)
    (hfind : ∀ key, index.snapshot.byKey.find? key = other.snapshot.byKey.find? key) :
    index.keys.Perm other.keys := by
  refine (List.perm_ext_iff_of_nodup h hother).mpr fun key => ?_
  rw [mem_keys_iff h, mem_keys_iff hother, hfind]

/-- Removing the entry of a key keeps keys distinct. -/
theorem Snapshot.nodup_names_remove {snapshot : Snapshot} (h : (Dictionary.names snapshot.byKey).Nodup)
    (key : String) : (Dictionary.names (snapshot.remove key).byKey).Nodup := by
  unfold Snapshot.remove
  split
  · exact h
  · exact Dictionary.nodup_names_erase h key

/-- A change under one key keeps keys distinct. -/
theorem nodup_keys_apply (h : index.keys.Nodup) {edit : Edit} {changed : String}
    (hedit : edit.key? = some changed) : (index.apply edit).keys.Nodup := by
  cases edit with
  | add rule =>
      change (index.add rule).keys.Nodup
      unfold Index.add adding
      split
      · exact h
      · exact Dictionary.nodup_names_insert (Snapshot.nodup_names_remove h _) _ _
  | remove key =>
      change (index.remove key).keys.Nodup
      unfold Index.remove removing
      split
      · exact Snapshot.nodup_names_remove h key
      · exact h
  | reload rules => simp [Edit.key?] at hedit

end StubServer.Index
