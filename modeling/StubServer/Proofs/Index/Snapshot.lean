import StubServer.Proofs.Dictionary
import StubServer.Proofs.Index.Register

/-!
# Snapshots hold registers

A snapshot keeps its entries twice, under their keys and in buckets by method. `Snapshot.Holds` ties
both to one list of records: the keys hold the entries of the records, and the bucket of a method holds
those with that method, in the order of the records.

## Main statements

* `Snapshot.Holds.remove`: taking a key away takes its record away.
* `Snapshot.Holds.insert`: inserting an entry puts its record last, in place of any other under its key.
-/

namespace StubServer.Index

namespace Snapshot

/-! ### Buckets -/

/-- A bucket that was erased is empty, and the others stay. -/
theorem bucket_erase (byKey : Dictionary Entry) (snapshot : Snapshot) (method other : String) :
    Snapshot.bucket { snapshot with byKey, byMethod := snapshot.byMethod.erase method } other =
      if other = method then [] else snapshot.bucket other := by
  unfold Snapshot.bucket
  rw [Dictionary.find?_erase]
  split <;> rfl

/-- A bucket that was set holds what it was set to, and the others stay. -/
theorem bucket_insert (byKey : Dictionary Entry) (snapshot : Snapshot) (method other : String)
    (entries : List Entry) :
    Snapshot.bucket { snapshot with byKey, byMethod := snapshot.byMethod.insert method entries }
      other = if other = method then entries else snapshot.bucket other := by
  unfold Snapshot.bucket
  rw [Dictionary.find?_insert]
  split <;> rfl

/-! ### Records behind a snapshot -/

/-- What a snapshot keeps under keys and in buckets are the entries of the records. -/
structure Holds (snapshot : Snapshot) (records : List Record) : Prop where
  byKey : snapshot.byKey.Perm (records.map fun record => (record.key, record.entry))
  bucket : ∀ method, snapshot.bucket method =
    (records.filter fun record => record.rule.normalizedMethod == method).map Record.entry
  methods : (Dictionary.names snapshot.byMethod).Nodup
  occupied : ∀ bucket ∈ snapshot.byMethod, bucket.2 ≠ []

variable {snapshot : Snapshot} {records : List Record} {record : Record} {key : String} {entry : Entry}

/-- A snapshot without entries holds no records. -/
theorem holds_nil (generation : Nat) : Holds { generation } [] where
  byKey := .nil
  bucket := fun _ => rfl
  methods := List.nodup_nil
  occupied := by simp

/-- How often snapshots were published makes no difference. -/
theorem Holds.withGeneration (h : snapshot.Holds records) (generation : Nat) :
    Holds { snapshot with generation } records :=
  ⟨h.byKey, h.bucket, h.methods, h.occupied⟩

/-- The names of a snapshot are the keys of the records. -/
theorem Holds.names_perm (h : snapshot.Holds records) :
    (Dictionary.names snapshot.byKey).Perm (records.map Record.key) := by
  have hnames := h.byKey.map Prod.fst
  rwa [List.map_map] at hnames

/-- An entry stands under a key exactly if it is the entry of a record with that key. -/
theorem Holds.find?_eq_some_iff (h : snapshot.Holds records)
    (hdistinct : (records.map Record.key).Nodup) :
    snapshot.byKey.find? key = some entry ↔
      ∃ record ∈ records, record.key = key ∧ record.entry = entry := by
  have hnodup : (Dictionary.names snapshot.byKey).Nodup := h.names_perm.nodup_iff.mpr hdistinct
  rw [Dictionary.find?_eq_some_iff_mem hnodup, h.byKey.mem_iff]
  simp

/-- No entry stands under a key exactly if no record has it. -/
theorem Holds.find?_eq_none_iff (h : snapshot.Holds records)
    (hdistinct : (records.map Record.key).Nodup) :
    snapshot.byKey.find? key = none ↔ key ∉ records.map Record.key := by
  rw [Option.eq_none_iff_forall_ne_some]
  constructor
  · intro hnone hmem
    obtain ⟨record, hrecord, rfl⟩ := List.mem_map.mp hmem
    exact hnone record.entry ((h.find?_eq_some_iff hdistinct).mpr ⟨record, hrecord, rfl, rfl⟩)
  · intro hnot entry hentry
    obtain ⟨record, hmem, rfl, -⟩ := (h.find?_eq_some_iff hdistinct).mp hentry
    exact hnot (List.mem_map_of_mem hmem)

/-! ### Changes -/

/-- Buckets of other methods lose nothing when a record is taken away. -/
theorem filter_method_without (hdistinct : (records.map Record.key).Nodup) (hmem : record ∈ records)
    {method : String} (hmethod : record.rule.normalizedMethod ≠ method) :
    (without record.key records).filter (fun r => r.rule.normalizedMethod == method) =
      records.filter fun r => r.rule.normalizedMethod == method := by
  rw [without, List.filter_filter]
  refine List.filter_congr fun other hother => ?_
  by_cases hkey : other.key = record.key
  · have heq : other = record := eq_of_key_eq hdistinct hother hmem hkey
    simp [heq, hmethod]
  · simp [hkey]

/-- **Taking a key away** takes its record away. -/
theorem Holds.remove (h : snapshot.Holds records) (hdistinct : (records.map Record.key).Nodup)
    (key : String) : (snapshot.remove key).Holds (without key records) := by
  cases hfind : snapshot.byKey.find? key with
  | none =>
      have hnot := (h.find?_eq_none_iff hdistinct).mp hfind
      rw [without_eq_self hnot]
      simpa [Snapshot.remove, hfind] using h
  | some old =>
      obtain ⟨record, hmem, rfl, rfl⟩ := (h.find?_eq_some_iff hdistinct).mp hfind
      set method := record.rule.normalizedMethod with hmethod
      set others := (snapshot.bucket method).filter fun entry => entry.matcher.key != record.key
        with hothers
      have hbucket : others = ((without record.key records).filter fun r =>
          r.rule.normalizedMethod == method).map Record.entry := by
        rw [hothers, h.bucket, List.filter_map, without, List.filter_filter, List.filter_filter]
        refine congrArg (List.map _) (List.filter_congr fun r _ => ?_)
        exact Bool.and_comm _ _
      have hremove : snapshot.remove record.key = { snapshot with
          byKey := snapshot.byKey.erase record.key
          byMethod :=
            if others.isEmpty then snapshot.byMethod.erase method
            else snapshot.byMethod.insert method others } := by
        simp only [Snapshot.remove, hfind]
        rfl
      rw [hremove]
      refine ⟨?_, ?_, ?_, ?_⟩
      · have herase := h.byKey.filter fun entry => entry.1 != record.key
        rwa [List.filter_map] at herase
      · intro other
        by_cases heq : other = method
        · subst heq
          rw [← hbucket]
          cases hempty : others.isEmpty with
          | true => simpa [List.isEmpty_iff.mp hempty] using bucket_erase _ snapshot method method
          | false => simpa using bucket_insert _ snapshot method method others
        · rw [filter_method_without hdistinct hmem (Ne.symm heq), ← h.bucket]
          cases hempty : others.isEmpty with
          | true => simpa [heq] using bucket_erase _ snapshot method other
          | false => simpa [heq] using bucket_insert _ snapshot method other others
      · split
        · exact Dictionary.nodup_names_erase h.methods _
        · exact Dictionary.nodup_names_insert h.methods _ _
      · intro entry hentry
        split at hentry
        · exact h.occupied entry (List.mem_filter.mp hentry).1
        · rename_i hempty
          rcases List.mem_cons.mp hentry with rfl | hentry
          · simpa using hempty
          · exact h.occupied entry (List.mem_filter.mp hentry).1

/-- **Inserting an entry** puts its record in place of any other under its key. -/
theorem Holds.insert (h : snapshot.Holds records) (hdistinct : (records.map Record.key).Nodup)
    (record : Record) :
    (snapshot.insert record.entry).Holds (without record.key records ++ [record]) := by
  have hrest := h.remove hdistinct record.key
  set rest := snapshot.remove record.key
  have hinsert : snapshot.insert record.entry = { rest with
      byKey := rest.byKey.insert record.key record.entry
      byMethod := rest.byMethod.insert record.rule.normalizedMethod
        (rest.bucket record.rule.normalizedMethod ++ [record.entry]) } := rfl
  rw [hinsert]
  refine ⟨?_, ?_, ?_, ?_⟩
  · have hnames : record.key ∉ Dictionary.names rest.byKey := fun hmem =>
      key_notMem_without record.key records (hrest.names_perm.mem_iff.mp hmem)
    have herase : rest.byKey.erase record.key = rest.byKey := by
      refine List.filter_eq_self.mpr fun entry hentry => ?_
      have hne : entry.1 ≠ record.key := fun heq => hnames (heq ▸ List.mem_map_of_mem hentry)
      simpa using hne
    rw [Dictionary.insert, herase, List.map_append]
    exact (hrest.byKey.cons _).trans (List.perm_append_singleton _ _).symm
  · intro method
    rw [List.filter_append, List.map_append, ← hrest.bucket, bucket_insert]
    by_cases heq : record.rule.normalizedMethod = method
    · simp [heq]
    · simp [heq, Ne.symm heq]
  · exact Dictionary.nodup_names_insert hrest.methods _ _
  · intro entry hentry
    rcases List.mem_cons.mp hentry with rfl | hentry
    · simp
    · exact hrest.occupied entry (List.mem_filter.mp hentry).1

end Snapshot

end StubServer.Index
