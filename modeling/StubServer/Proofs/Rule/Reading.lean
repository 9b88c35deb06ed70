import StubServer.Proofs.Rule.Member
import StubServer.Proofs.Timestamp.Reading

/-!
# What is read as a rule

Whatever text is read as a rule or a list of rules, the rules are expressible: the reader refuses numbers that
are too large, and timestamps that it accepts have texts that stand for them. It is the same with bytes, even where
those that are read over are no characters.

## Main statements

* `Expressible.readField`: reading one field keeps a rule expressible.
* `expressible_of_listOfText`, `expressible_of_ofBytes`, `expressible_of_listOfBytes`: what is read is expressible.
-/

namespace StubServer.Rule

open Json (Breaks Text Source)

variable {σ : Type} {source : Source σ} {field : Field} {rule other : Rule} {place rest : σ}

/-- A rule that nothing was read into is expressible. -/
theorem expressible_empty : ({} : Rule).Expressible where
  id := by rintro _ ⟨⟩
  priority := by decide
  createdAt := by rintro _ ⟨⟩
  updatedAt := by rintro _ ⟨⟩

/-- An integer that was read lies within its bounds. -/
theorem bounds_of_int {low high i : Int} {expected : String}
    (h : source.int low high expected place = .ok (i, rest)) : low ≤ i ∧ i ≤ high := by
  obtain ⟨⟨n, _⟩, -, h⟩ := exists_of_bind_eq_ok h
  obtain ⟨j, hj, h⟩ := exists_of_bind_eq_ok h
  rw [← fst_eq_of_ok_eq h]
  unfold Json.boundedInt at hj
  split at hj
  · split at hj
    · rename_i hbounds
      exact Except.ok.inj hj ▸ hbounds
    · cases hj
  · cases hj

/-- A timestamp that was read is read back. -/
theorem readsBack_of_readTimestamp {t : Timestamp} (h : readTimestamp source place = .ok (t, rest)) :
    t.ReadsBack := by
  obtain ⟨⟨s, _⟩, -, h⟩ := exists_of_bind_eq_ok h
  dsimp only at h
  split at h
  · rename_i hparse
    exact fst_eq_of_ok_eq h ▸ Timestamp.readsBack_of_parse hparse
  · cases h

/-- What was read as null or a value is null, or was read as a value. -/
theorem exists_of_optional {α : Type} {read : σ → Except Json.Error (α × σ)} {v : Option α}
    (h : source.optional read place = .ok (v, rest)) {a : α} (ha : a ∈ v) :
    ∃ place rest, read place = .ok (a, rest) := by
  obtain ⟨next, -, h⟩ := exists_of_bind_eq_ok h
  cases next with
  | some after =>
      rw [← fst_eq_of_ok_eq h] at ha
      cases ha
  | none =>
      obtain ⟨⟨b, _⟩, hread, h⟩ := exists_of_bind_eq_ok h
      rw [← fst_eq_of_ok_eq h] at ha
      exact ⟨_, _, Option.some.inj ha ▸ hread⟩

/-- **Reading one field** keeps a rule expressible. -/
theorem Expressible.readField (h : rule.Expressible)
    (hread : readField source field rule place = .ok (other, rest)) : other.Expressible := by
  obtain ⟨hid, hpriority, hcreatedAt, hupdatedAt⟩ := h
  cases field with
  | id =>
      obtain ⟨⟨v, _⟩, hv, hread⟩ := exists_of_bind_eq_ok hread
      rw [← fst_eq_of_ok_eq hread]
      refine ⟨fun i hi => ?_, hpriority, hcreatedAt, hupdatedAt⟩
      obtain ⟨_, _, hint⟩ := exists_of_optional hv hi
      exact bounds_of_int hint
  | priority =>
      obtain ⟨⟨v, _⟩, hv, hread⟩ := exists_of_bind_eq_ok hread
      rw [← fst_eq_of_ok_eq hread]
      exact ⟨hid, bounds_of_int hv, hcreatedAt, hupdatedAt⟩
  | createdAt =>
      obtain ⟨⟨v, _⟩, hv, hread⟩ := exists_of_bind_eq_ok hread
      rw [← fst_eq_of_ok_eq hread]
      refine ⟨hid, hpriority, fun t ht => ?_, hupdatedAt⟩
      obtain ⟨_, _, htime⟩ := exists_of_optional hv ht
      exact readsBack_of_readTimestamp htime
  | updatedAt =>
      obtain ⟨⟨v, _⟩, hv, hread⟩ := exists_of_bind_eq_ok hread
      rw [← fst_eq_of_ok_eq hread]
      refine ⟨hid, hpriority, hcreatedAt, fun t ht => ?_⟩
      obtain ⟨_, _, htime⟩ := exists_of_optional hv ht
      exact readsBack_of_readTimestamp htime
  | name | description | externalKey | enabled | method | url | urlMatch | headerPattern | queryPattern
  | bodyPattern | response =>
      obtain ⟨⟨v, _⟩, -, hread⟩ := exists_of_bind_eq_ok hread
      rw [← fst_eq_of_ok_eq hread]
      exact ⟨hid, hpriority, hcreatedAt, hupdatedAt⟩

/-! ### From a text -/

variable {breaks : Breaks} {text more : Text} {rules : List Rule}

/-- A member keeps a rule expressible. -/
theorem Expressible.readMember {depth : Nat} {label : String} {seen : List Field} {state : List Field × Rule}
    (h : rule.Expressible) (hread : readMember breaks depth label seen rule text = .ok (state, more)) :
    state.2.Expressible := by
  obtain ⟨-, -, rfl⟩ | ⟨field, next, -, -, hfield, rfl⟩ := readMember_eq_ok_iff.mp hread
  · exact h
  · exact h.readField hfield

/-- The members of an object keep a rule expressible. -/
theorem Expressible.membersOfText {depth fuel : Nat} {first : Bool} {seen : List Field}
    (h : rule.Expressible) (hread : membersOfText breaks depth fuel first seen rule text = .ok (other, more)) :
    other.Expressible := by
  induction fuel generalizing first seen rule text with
  | zero => cases hread
  | succ fuel ih =>
      obtain ⟨-, rfl⟩ | ⟨label, _, _, state, _, -, -, hmember, hothers⟩ := membersOfText_succ_eq_ok_iff.mp hread
      · exact h
      · exact ih (h.readMember hmember) hothers

/-- The items of a list keep a rule expressible. -/
theorem Expressible.fieldsOfText {depth : Nat} {first : Bool} {fields : List Field} (h : rule.Expressible)
    (hread : fieldsOfText breaks depth first fields rule text = .ok (other, more)) : other.Expressible := by
  induction fields generalizing first rule text with
  | nil =>
      obtain ⟨_, -, hread⟩ := exists_of_bind_eq_ok hread
      exact fst_eq_of_ok_eq hread ▸ h
  | cons field fields ih =>
      obtain ⟨-, rfl⟩ | ⟨_, next, _, -, hfield, hothers⟩ := fieldsOfText_cons_eq_ok_iff.mp hread
      · exact h
      · exact ih (h.readField hfield) hothers

/-- **A rule that was read** is expressible. -/
theorem expressible_of_readText {depth : Nat} (hread : readText breaks depth text = .ok (rule, more)) :
    rule.Expressible := by
  unfold readText Json.atNext at hread
  split at hread
  · cases hread
  dsimp only at hread
  split at hread
  · split at hread
    · cases hread
    · exact expressible_empty.fieldsOfText hread
  split at hread
  · split at hread
    · cases hread
    · exact expressible_empty.membersOfText hread
  · cases hread

/-- The rules of a list that was read are expressible. -/
theorem expressible_of_itemsOfText {depth fuel : Nat} {first : Bool}
    (hread : itemsOfText breaks depth fuel first text = .ok (rules, more)) :
    ∀ rule ∈ rules, rule.Expressible := by
  induction fuel generalizing first text rules more with
  | zero => cases hread
  | succ fuel ih =>
      obtain ⟨⟨next, _⟩, -, hread⟩ := exists_of_bind_eq_ok hread
      cases next with
      | false =>
          rw [← fst_eq_of_ok_eq hread]
          simp
      | true =>
          obtain ⟨⟨first, _⟩, hfirst, hread⟩ := exists_of_bind_eq_ok hread
          obtain ⟨⟨others, _⟩, hothers, hread⟩ := exists_of_bind_eq_ok hread
          rw [← fst_eq_of_ok_eq hread]
          exact List.forall_mem_cons.mpr ⟨expressible_of_readText hfirst, ih hothers⟩

/-- The rules of a text that is a list are expressible. -/
theorem expressible_of_readList (hread : readList breaks text = .ok (rules, more)) :
    ∀ rule ∈ rules, rule.Expressible := by
  unfold readList Json.atNext at hread
  split at hread
  · cases hread
  dsimp only at hread
  split at hread
  · exact expressible_of_itemsOfText hread
  · cases hread

/-- **The rules of a text** are expressible. -/
theorem expressible_of_listOfText {s : String} (hread : listOfText s = .ok rules) :
    ∀ rule ∈ rules, rule.Expressible := by
  obtain ⟨⟨read, rest⟩, hitems, hfinish⟩ := exists_of_bind_eq_ok hread
  exact (Json.exists_gap_of_finish hfinish).1 ▸ expressible_of_readList hitems

/-- **The rule of some bytes** is expressible, whatever the bytes are that are read over. -/
theorem expressible_of_ofBytes {bytes : List UInt8} (hread : ofBytes bytes = .ok rule) : rule.Expressible := by
  obtain ⟨⟨read, rest⟩, hread, hfinish⟩ := exists_of_bind_eq_ok hread
  exact (Json.exists_gap_of_finish hfinish).1 ▸ expressible_of_readText hread

/-- **The rules of some bytes** are expressible. -/
theorem expressible_of_listOfBytes {bytes : List UInt8} (hread : listOfBytes bytes = .ok rules) :
    ∀ rule ∈ rules, rule.Expressible := by
  obtain ⟨⟨read, rest⟩, hitems, hfinish⟩ := exists_of_bind_eq_ok hread
  exact (Json.exists_gap_of_finish hfinish).1 ▸ expressible_of_readList hitems

end StubServer.Rule
