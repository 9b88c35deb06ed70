import Mathlib.Data.List.Nodup
import StubServer.Index
import StubServer.Proofs.Matcher.Method

/-!
# The register: the index as one list

What the index holds, without buckets, compiled patterns and snapshots: a list of rules, each with the
number of its insertion, in the order of insertion, with at most one rule under a key. A request is
compared with all of them, and `Register.Answers` says which record answers it: the one with the least
priority, and of those with that priority the one inserted last.

## Main statements

* `Register.Ordered.apply`: every change keeps keys distinct and positions ascending.
* `Register.Answers.unique`: a request has at most one answer.
-/

namespace StubServer.Index

/-- A rule that was inserted, and which insertion it was. -/
structure Record where
  rule : Rule
  /-- Counts the insertions, from one on. -/
  position : Nat
  deriving DecidableEq

namespace Record

/-- The key under which the rule stands. -/
def key (record : Record) : String := record.rule.key

/-- The entry that the index has for a record. -/
def entry (record : Record) : Entry :=
  { matcher := .ofRule record.rule, sequence := record.position }

/-- Whether the rule, freshly compiled, accepts a request in full. -/
def accepts (record : Record) (request : Request) : Bool :=
  (Matcher.ofRule record.rule).accepts request

end Record

/-- The records without the one under a key. -/
def without (key : String) (records : List Record) : List Record :=
  records.filter fun record => record.key != key

/-- Rules in the order of their insertion. -/
structure Register where
  records : List Record := []
  /-- How many insertions there were. -/
  inserted : Nat := 0

namespace Register

/-- Inserts a rule if it is enabled, in place of any other under its key. -/
def enter (register : Register) (rule : Rule) : Register :=
  if rule.enabled then
    { records := without rule.key register.records ++ [{ rule, position := register.inserted + 1 }]
      inserted := register.inserted + 1 }
  else register

/-- The register after a change. -/
def apply (register : Register) : Edit → Register
  | .add rule => register.enter rule
  | .remove key => { register with records := without key register.records }
  | .reload rules => rules.foldl enter { inserted := register.inserted }

/-- Whether a record answers a request: no other record that accepts it has a lesser priority, or the
same and was inserted later. -/
structure Answers (register : Register) (request : Request) (record : Record) : Prop where
  mem : record ∈ register.records
  accepts : record.accepts request = true
  best : ∀ other ∈ register.records, other.accepts request = true →
    record.rule.priority < other.rule.priority ∨
      (record.rule.priority = other.rule.priority ∧ other.position ≤ record.position)

/-- Keys are distinct, and positions ascend. -/
structure Ordered (register : Register) : Prop where
  distinct : (register.records.map Record.key).Nodup
  ascending : register.records.Pairwise fun a b => a.position < b.position
  bounded : ∀ record ∈ register.records, record.position ≤ register.inserted

end Register

/-! ### Records under keys -/

section Records

variable {records : List Record} {record : Record} {key : String}

/-- What is left are the records under other keys. -/
@[simp] theorem mem_without : record ∈ without key records ↔ record ∈ records ∧ record.key ≠ key := by
  simp [without]

/-- Taking a key away leaves no record under it. -/
theorem key_notMem_without (key : String) (records : List Record) :
    key ∉ (without key records).map Record.key := by
  simp

/-- A key that no record has takes nothing away. -/
theorem without_eq_self (h : key ∉ records.map Record.key) : without key records = records := by
  refine List.filter_eq_self.mpr fun record hmem => ?_
  have hne : record.key ≠ key := fun heq => h (heq ▸ List.mem_map_of_mem hmem)
  simpa using hne

/-- Records with distinct keys are told apart by them. -/
theorem eq_of_key_eq (h : (records.map Record.key).Nodup) {a b : Record} (ha : a ∈ records)
    (hb : b ∈ records) (hkey : a.key = b.key) : a = b :=
  List.inj_on_of_nodup_map h ha hb hkey

end Records

namespace Register

variable {register : Register} {request : Request} {a b : Record}

/-! ### The order of the records -/

/-- The empty register is in order. -/
theorem ordered_empty (inserted : Nat) : Ordered { inserted } where
  distinct := List.nodup_nil
  ascending := List.Pairwise.nil
  bounded := by simp

/-- Taking a key away keeps the order. -/
theorem Ordered.without (h : register.Ordered) (key : String) :
    Ordered { register with records := Index.without key register.records } where
  distinct := h.distinct.sublist (List.filter_sublist.map _)
  ascending := h.ascending.sublist List.filter_sublist
  bounded := fun _ hmem => h.bounded _ (mem_without.mp hmem).1

/-- Inserting a rule keeps the order. -/
theorem Ordered.enter (h : register.Ordered) (rule : Rule) : (register.enter rule).Ordered := by
  unfold Register.enter
  split
  · have hrest := h.without rule.key
    refine ⟨?_, ?_, ?_⟩
    · rw [List.map_append, List.nodup_append_comm]
      exact List.nodup_cons.mpr ⟨key_notMem_without _ _, hrest.distinct⟩
    · refine List.pairwise_append.mpr ⟨hrest.ascending, List.pairwise_singleton _ _, ?_⟩
      intro record hmem last hlast
      rw [List.mem_singleton.mp hlast]
      exact Nat.lt_succ_of_le (hrest.bounded record hmem)
    · intro record hmem
      rcases List.mem_append.mp hmem with hmem | hmem
      · exact Nat.le_succ_of_le (hrest.bounded record hmem)
      · exact Nat.le_of_eq (congrArg Record.position (List.mem_singleton.mp hmem))
  · exact h

/-- Inserting several rules keeps the order. -/
theorem Ordered.foldl_enter (h : register.Ordered) (rules : List Rule) :
    (rules.foldl Register.enter register).Ordered := by
  induction rules generalizing register with
  | nil => exact h
  | cons rule rest ih => exact ih (h.enter rule)

/-- **Every change keeps the order.** -/
theorem Ordered.apply (h : register.Ordered) (edit : Edit) : (register.apply edit).Ordered := by
  cases edit with
  | add rule => exact h.enter rule
  | remove key => exact h.without key
  | reload rules => exact (ordered_empty _).foldl_enter rules

/-! ### Answers -/

/-- A request has at most one answer. -/
theorem Answers.unique (h : register.Ordered) (ha : register.Answers request a)
    (hb : register.Answers request b) : a = b := by
  have hab := ha.best b hb.mem hb.accepts
  have hba := hb.best a ha.mem ha.accepts
  have hposition : a.position = b.position := by omega
  have hnodup : (register.records.map Record.position).Nodup :=
    List.pairwise_map.mpr (h.ascending.imp Nat.ne_of_lt)
  exact List.inj_on_of_nodup_map hnodup ha.mem hb.mem hposition

end Register

end StubServer.Index
