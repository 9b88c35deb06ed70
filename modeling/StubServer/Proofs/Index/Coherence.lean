import Mathlib.Algebra.GroupWithZero.Nat
import Mathlib.Data.Finset.Card
import Mathlib.Data.List.Nodup
import StubServer.Proofs.Index.Publication
import StubServer.Proofs.Index.Tracking

/-!
# Keys and buckets agree

A snapshot keeps its entries twice. It is *coherent* if both tell the same: each entry stands under its own key and
once in the bucket of its method, the buckets hold nothing else and are not empty, and the numbers of the insertions
tell the entries apart and ascend along each bucket. The figures of an index are then those of its entries.

Whatever is done to an index, its snapshot holds the records of a register (`Index.Tracks`), and what holds the records
of a register in order is coherent.

## Main statements

* `Snapshot.Holds.coherent`: what holds records in order is coherent.
* `Snapshot.Coherent.entries_perm`, `Snapshot.Coherent.bucket_perm`: all buckets together hold the entries, and each
  those of its method.
* `coherent_foldl_apply`: snapshots stay coherent, and what the figures of an index are.
-/

namespace StubServer.Index

namespace Snapshot

/-! ### Coherent snapshots -/

/-- The entries under the keys. -/
def entries (snapshot : Snapshot) : List Entry :=
  snapshot.byKey.map (·.2)

/-- The entries under keys and those in buckets agree, and were inserted by some of so many insertions. -/
structure Coherent (snapshot : Snapshot) (inserted : Nat) : Prop where
  /-- No key has two entries. -/
  keys : (Dictionary.names snapshot.byKey).Nodup
  /-- No method has two buckets. -/
  methods : (Dictionary.names snapshot.byMethod).Nodup
  /-- An entry stands under its own key. -/
  filed : ∀ key entry, (key, entry) ∈ snapshot.byKey → entry.matcher.key = key
  /-- It is in the bucket of its method and in no other. -/
  placed : ∀ entry ∈ snapshot.entries, ∀ method, entry ∈ snapshot.bucket method ↔ entry.matcher.method = method
  /-- No bucket holds an entry twice. -/
  once : ∀ method, (snapshot.bucket method).Nodup
  /-- The buckets hold no other entries. -/
  known : ∀ method, ∀ entry ∈ snapshot.bucket method, (entry.matcher.key, entry) ∈ snapshot.byKey
  /-- No bucket is empty. -/
  occupied : ∀ bucket ∈ snapshot.byMethod, bucket.2 ≠ []
  /-- No insertion made two entries. -/
  distinct : (snapshot.entries.map Entry.sequence).Nodup
  bounded : ∀ entry ∈ snapshot.entries, entry.sequence ≤ inserted
  /-- Entries come later in a bucket if they were inserted later. -/
  ascending : ∀ method, (snapshot.bucket method).Pairwise fun a b => a.sequence < b.sequence

variable {snapshot : Snapshot} {records : List Record} {register : Register} {entry : Entry} {method : String}
  {inserted : Nat}

/-- The entries are those of the records. -/
theorem Holds.entries_perm (h : snapshot.Holds records) : snapshot.entries.Perm (records.map Record.entry) := by
  have hentries := h.byKey.map Prod.snd
  rwa [List.map_map] at hentries

/-- The entries in a bucket are those of the records with its method. -/
theorem Holds.mem_bucket_iff (h : snapshot.Holds records) :
    entry ∈ snapshot.bucket method ↔
      ∃ record ∈ records, record.rule.normalizedMethod = method ∧ record.entry = entry := by
  rw [h.bucket]
  simp [and_assoc]

/-- The entries of a bucket ascend as the records do. -/
theorem Holds.ascending (h : snapshot.Holds records)
    (hrecords : records.Pairwise fun a b => a.position < b.position) (method : String) :
    (snapshot.bucket method).Pairwise fun a b => a.sequence < b.sequence := by
  rw [h.bucket, List.pairwise_map]
  exact hrecords.sublist List.filter_sublist

/-- **What holds records in order** is coherent. -/
theorem Holds.coherent (h : snapshot.Holds register.records) (hordered : register.Ordered) :
    snapshot.Coherent register.inserted where
  keys := h.names_perm.nodup_iff.mpr hordered.distinct
  methods := h.methods
  filed := by
    intro key entry hmem
    obtain ⟨record, -, heq⟩ := List.mem_map.mp (h.byKey.mem_iff.mp hmem)
    cases heq
    rfl
  placed := by
    intro entry hmem method
    obtain ⟨record, hrecord, rfl⟩ := List.mem_map.mp (h.entries_perm.mem_iff.mp hmem)
    rw [h.mem_bucket_iff]
    constructor
    · rintro ⟨other, -, rfl, heq⟩
      exact congrArg (fun entry => entry.matcher.method) heq.symm
    · rintro rfl
      exact ⟨record, hrecord, rfl, rfl⟩
  once := by
    intro method
    refine (h.ascending hordered.ascending method).imp ?_
    rintro entry _ hlt rfl
    exact Nat.lt_irrefl _ hlt
  known := by
    intro method entry hmem
    obtain ⟨record, hrecord, -, rfl⟩ := h.mem_bucket_iff.mp hmem
    exact h.byKey.mem_iff.mpr (List.mem_map_of_mem hrecord)
  occupied := h.occupied
  distinct := by
    have hpositions := h.entries_perm.map Entry.sequence
    rw [List.map_map] at hpositions
    exact hpositions.nodup_iff.mpr (List.pairwise_map.mpr (hordered.ascending.imp Nat.ne_of_lt))
  bounded := by
    intro entry hmem
    obtain ⟨record, hrecord, rfl⟩ := List.mem_map.mp (h.entries_perm.mem_iff.mp hmem)
    exact hordered.bounded record hrecord
  ascending := h.ascending hordered.ascending

/-! ### Figures of coherent snapshots -/

/-- No two entries are the same. -/
theorem Coherent.nodup_entries (h : snapshot.Coherent inserted) : snapshot.entries.Nodup :=
  h.distinct.of_map

/-- What stands in a bucket is an entry with its method. -/
theorem Coherent.mem_bucket_iff (h : snapshot.Coherent inserted) :
    entry ∈ snapshot.bucket method ↔ entry ∈ snapshot.entries ∧ entry.matcher.method = method := by
  refine ⟨fun hmem => ?_, fun ⟨hentry, hmethod⟩ => (h.placed entry hentry method).mpr hmethod⟩
  have hentry : entry ∈ snapshot.entries := List.mem_map_of_mem (f := (·.2)) (h.known method entry hmem)
  exact ⟨hentry, (h.placed entry hentry method).mp hmem⟩

/-- A bucket is what stands under its method. -/
theorem Coherent.bucket_eq (h : snapshot.Coherent inserted) {bucket : String × List Entry}
    (hmem : bucket ∈ snapshot.byMethod) : snapshot.bucket bucket.1 = bucket.2 := by
  rw [Snapshot.bucket, (Dictionary.find?_eq_some_iff_mem h.methods).mpr hmem, Option.getD_some]

/-- **The bucket of a method** holds the entries with this method. -/
theorem Coherent.bucket_perm (h : snapshot.Coherent inserted) (method : String) :
    (snapshot.bucket method).Perm (snapshot.entries.filter fun entry => entry.matcher.method == method) := by
  refine (List.perm_ext_iff_of_nodup (h.once method) (h.nodup_entries.filter _)).mpr fun entry => ?_
  rw [h.mem_bucket_iff, List.mem_filter, beq_iff_eq]

/-- There is a bucket for each method that entries have. -/
theorem Coherent.mem_names_iff (h : snapshot.Coherent inserted) :
    method ∈ Dictionary.names snapshot.byMethod ↔ ∃ entry ∈ snapshot.entries, entry.matcher.method = method := by
  rw [Dictionary.names, List.mem_map]
  constructor
  · rintro ⟨bucket, hbucket, rfl⟩
    obtain ⟨entry, hentry⟩ := List.exists_mem_of_ne_nil _ (h.occupied bucket hbucket)
    rw [← h.bucket_eq hbucket] at hentry
    exact ⟨entry, h.mem_bucket_iff.mp hentry⟩
  · rintro ⟨entry, hentry⟩
    have hmem := h.mem_bucket_iff.mpr hentry
    rw [Snapshot.bucket] at hmem
    cases hfind : snapshot.byMethod.find? method with
    | none => simp [hfind] at hmem
    | some bucket => exact ⟨(method, bucket), Dictionary.mem_of_find? hfind, rfl⟩

/-- **All buckets together** hold the entries. -/
theorem Coherent.entries_perm (h : snapshot.Coherent inserted) :
    (snapshot.byMethod.flatMap (·.2)).Perm snapshot.entries := by
  have hdisjoint : snapshot.byMethod.Pairwise fun a b => List.Disjoint a.2 b.2 := by
    refine (List.pairwise_map.mp h.methods).imp_of_mem fun {a b} ha hb hne entry hentry hother => hne ?_
    rw [← h.bucket_eq ha] at hentry
    rw [← h.bucket_eq hb] at hother
    exact (h.mem_bucket_iff.mp hentry).2.symm.trans (h.mem_bucket_iff.mp hother).2
  have hnodup : (snapshot.byMethod.flatMap (·.2)).Nodup :=
    List.nodup_flatMap.mpr ⟨fun bucket hbucket => h.bucket_eq hbucket ▸ h.once bucket.1, hdisjoint⟩
  refine (List.perm_ext_iff_of_nodup hnodup h.nodup_entries).mpr fun entry => ?_
  rw [List.mem_flatMap]
  constructor
  · rintro ⟨bucket, hbucket, hentry⟩
    rw [← h.bucket_eq hbucket] at hentry
    exact (h.mem_bucket_iff.mp hentry).1
  · intro hentry
    obtain ⟨bucket, hbucket, hmethod⟩ := List.mem_map.mp (h.mem_names_iff.mpr ⟨entry, hentry, rfl⟩)
    refine ⟨bucket, hbucket, ?_⟩
    rw [← h.bucket_eq hbucket]
    exact h.mem_bucket_iff.mpr ⟨hentry, hmethod.symm⟩

/-- The sizes of the buckets add up to the number of keys. -/
theorem Coherent.length_byKey (h : snapshot.Coherent inserted) :
    snapshot.byKey.length = (snapshot.byMethod.map fun bucket => bucket.2.length).sum := by
  have hlength := h.entries_perm.length_eq
  rw [List.length_flatMap, entries, List.length_map] at hlength
  exact hlength.symm

/-- There are as many buckets for methods of their own as there are such methods. -/
theorem Coherent.length_methods (h : snapshot.Coherent inserted) :
    (snapshot.byMethod.filter fun bucket => bucket.1 != anyMethod).length =
      ((snapshot.entries.map fun entry => entry.matcher.method).toFinset.erase anyMethod).card := by
  have hnames : (snapshot.entries.map fun entry => entry.matcher.method).toFinset =
      (Dictionary.names snapshot.byMethod).toFinset := by
    ext method
    rw [List.mem_toFinset, List.mem_toFinset, h.mem_names_iff, List.mem_map]
  have hfilter : (snapshot.byMethod.filter fun bucket => bucket.1 != anyMethod).length =
      ((Dictionary.names snapshot.byMethod).filter (· != anyMethod)).length := by
    rw [Dictionary.names, List.filter_map, List.length_map]
    rfl
  rw [hnames, hfilter, ← List.toFinset_card_of_nodup (h.methods.filter _), List.toFinset_filter, ← Finset.filter_ne']
  simp

end Snapshot

/-! ### The figures of an index -/

/-- A change is counted if it publishes a snapshot, and not otherwise. -/
theorem generation_apply (index : Index) (edit : Edit) :
    (index.apply edit).snapshot.generation =
      index.snapshot.generation + if index.publishes edit then 1 else 0 := by
  cases hpublishes : index.publishes edit with
  | true => exact generation_apply_of_publishes hpublishes
  | false => rw [apply_of_not_publishes hpublishes]; rfl

/-- **Snapshots stay coherent**, whatever is done to an index. Its figures are then the number of entries in all
buckets, the number of different methods among the entries, but for the one that stands for all, the number of entries
with this one, and a count that grows by one with each change that publishes a snapshot and by nothing with any
other. -/
theorem coherent_foldl_apply (limit : Option Nat) (uses : List Regex.Cache.Use) (edits : List Edit) :
    let index := edits.foldl Index.apply (fresh limit uses)
    index.snapshot.Coherent index.sequence ∧
    index.stats.entries = (index.snapshot.byMethod.map fun bucket => bucket.2.length).sum ∧
    index.stats.methods =
      ((index.snapshot.entries.map fun entry => entry.matcher.method).toFinset.erase anyMethod).card ∧
    index.stats.wildcards =
      (index.snapshot.entries.filter fun entry => entry.matcher.method == anyMethod).length ∧
    ∀ edit, (index.apply edit).stats.generation =
      index.stats.generation + if index.publishes edit then 1 else 0 := by
  intro index
  obtain ⟨htracks, hordered⟩ := (tracks_fresh limit uses).foldl_apply (Register.ordered_empty 0) edits
  have hcoherent : index.snapshot.Coherent index.sequence := htracks.sequence ▸ htracks.holds.coherent hordered
  exact ⟨hcoherent, hcoherent.length_byKey, hcoherent.length_methods, (hcoherent.bucket_perm anyMethod).length_eq,
    generation_apply index⟩

/-- A rule in the place of another with its key leaves no bucket for the method of the other. -/
example :
    ([.add (.new "k" "GET" "/old"), .add (.new "k" "POST" "/new"), .remove "other"].foldl Index.apply
      (fresh none [])).stats = { entries := 1, methods := 1, wildcards := 0, generation := 2 } := by
  decide +kernel

end StubServer.Index
