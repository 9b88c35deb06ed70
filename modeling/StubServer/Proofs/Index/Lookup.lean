import StubServer.Proofs.Index.Tracking

/-!
# Looking up in buckets is looking up in all

A request is compared only with the entries in the bucket of its method and in that of the rules for
every method. Nothing is missed that way, and nothing else is found: the index gives the very rule that
answers the request in the register it tracks (`Tracks.lookup?_eq_some_iff`), and none exactly if no
record accepts the request (`Tracks.lookup?_eq_none_iff`).

`lookup?_foldl_apply` puts this together for an index that was fresh and went through any changes.
-/

namespace StubServer.Index

/-! ### The best of several entries -/

section Best

variable {entries : List Entry} {a b winner : Entry}

/-- An entry that does not win against another has a greater priority, or the same and is not later. -/
theorem Entry.precedes_eq_false_iff : b.precedes a = false ↔
    a.matcher.priority < b.matcher.priority ∨
      (a.matcher.priority = b.matcher.priority ∧ b.sequence ≤ a.sequence) := by
  simp only [Entry.precedes, Bool.or_eq_false_iff, decide_eq_false_iff_not, Bool.and_eq_false_iff,
    beq_eq_false_iff_ne, ne_eq]
  omega

/-- There is a best entry as soon as there is any. -/
theorem best?_eq_none_iff : best? entries = none ↔ entries = [] := by
  cases entries with
  | nil => simp [best?]
  | cons entry rest =>
      simp only [best?, reduceCtorEq, iff_false]
      cases best? rest with
      | none => simp
      | some other =>
          dsimp only
          split <;> simp

/-- The best entry is one of the entries. -/
theorem mem_of_best? (h : best? entries = some winner) : winner ∈ entries := by
  induction entries with
  | nil => simp [best?] at h
  | cons entry rest ih =>
      rw [best?] at h
      split at h
      · exact Option.some.inj h ▸ List.mem_cons_self
      · rename_i other hrest
        split at h
        · exact List.mem_cons_of_mem _ (ih (h ▸ hrest))
        · exact Option.some.inj h ▸ List.mem_cons_self

/-- No entry wins against the best. -/
theorem not_precedes_best? (h : best? entries = some winner) :
    ∀ entry ∈ entries, entry.precedes winner = false := by
  induction entries generalizing winner with
  | nil => simp
  | cons entry rest ih =>
      rw [best?] at h
      split at h
      · rename_i hrest
        obtain rfl : entry = winner := Option.some.inj h
        rw [best?_eq_none_iff.mp hrest]
        simp [Entry.precedes]
      · rename_i other hrest
        have hothers := ih hrest
        intro x hx
        split at h
        · rename_i hprecedes
          obtain rfl : other = winner := Option.some.inj h
          rcases List.mem_cons.mp hx with rfl | hx
          · by_contra hx
            have hle := Entry.precedes_eq_false_iff.not.mp hx
            have hlt := Entry.precedes_eq_false_iff.not.mp (ne_false_of_eq_true hprecedes)
            omega
          · exact hothers x hx
        · rename_i hprecedes
          obtain rfl : entry = winner := Option.some.inj h
          have hentry := Entry.precedes_eq_false_iff.mp (eq_false_of_ne_true hprecedes)
          rcases List.mem_cons.mp hx with rfl | hx
          · simp [Entry.precedes]
          · have hother := Entry.precedes_eq_false_iff.mp (hothers x hx)
            exact Entry.precedes_eq_false_iff.mpr (by omega)

end Best

/-! ### Candidates -/

variable {index : Index} {register : Register} {request : Request}

/-- The candidates for a request that accept it are the records that accept it in full. -/
theorem Tracks.mem_candidates_iff (h : index.Tracks register)
    (hmethod : asciiUpper request.method = request.method) (entry : Entry) :
    entry ∈ (index.snapshot.candidates request.method).filter (fun entry =>
        entry.matcher.acceptsPath request.path && entry.matcher.acceptsDetails request) ↔
      ∃ record ∈ register.records, record.accepts request = true ∧ record.entry = entry := by
  have hbucket : ∀ method, entry ∈ index.snapshot.bucket method ↔
      ∃ record ∈ register.records, record.rule.normalizedMethod = method ∧ record.entry = entry := by
    intro method
    rw [h.holds.bucket]
    simp [and_assoc]
  have hcandidates : entry ∈ index.snapshot.candidates request.method ↔
      ∃ record ∈ register.records, (record.rule.normalizedMethod = anyMethod ∨
        record.rule.normalizedMethod = request.method) ∧ record.entry = entry := by
    unfold Snapshot.candidates
    -- A request for the method of all is compared with the rules for every method only once.
    by_cases hany : request.method = anyMethod
    · simp [hany, hbucket]
    · simp only [hany, if_false, List.mem_append, hbucket]
      grind
  rw [List.mem_filter, hcandidates]
  constructor
  · rintro ⟨⟨record, hmem, hrecord, rfl⟩, haccepts⟩
    refine ⟨record, hmem, (Matcher.accepts_iff _ _).mpr ⟨?_, haccepts⟩, rfl⟩
    exact (Matcher.ofRule_acceptsMethod_iff record.rule hmethod).mpr hrecord
  · rintro ⟨record, hmem, haccepts, rfl⟩
    obtain ⟨haccepts, hdetails⟩ := (Matcher.accepts_iff _ _).mp haccepts
    exact ⟨⟨record, hmem, (Matcher.ofRule_acceptsMethod_iff record.rule hmethod).mp haccepts, rfl⟩,
      hdetails⟩

/-! ### Looking up -/

/-- **The index answers as its register does.** -/
theorem Tracks.lookup?_eq_some_iff (h : index.Tracks register) (hordered : register.Ordered)
    (hmethod : asciiUpper request.method = request.method) {matcher : Matcher} :
    index.lookup? request = some matcher ↔
      ∃ record, register.Answers request record ∧ matcher = .ofRule record.rule := by
  have hmem := h.mem_candidates_iff hmethod
  have hbest : ∀ winner, index.snapshot.lookup? request = some winner →
      ∃ record, register.Answers request record ∧ record.entry = winner := by
    intro winner hwinner
    obtain ⟨record, hrecord, haccepts, rfl⟩ := (hmem winner).mp (mem_of_best? hwinner)
    refine ⟨record, ⟨hrecord, haccepts, fun other hother hother' => ?_⟩, rfl⟩
    have hprecedes := not_precedes_best? hwinner other.entry
      ((hmem other.entry).mpr ⟨other, hother, hother', rfl⟩)
    exact Entry.precedes_eq_false_iff.mp hprecedes
  unfold Index.lookup?
  constructor
  · intro hlookup
    obtain ⟨winner, hwinner, rfl⟩ := Option.map_eq_some_iff.mp hlookup
    obtain ⟨record, hanswers, rfl⟩ := hbest winner hwinner
    exact ⟨record, hanswers, rfl⟩
  · rintro ⟨record, hanswers, rfl⟩
    cases hlookup : index.snapshot.lookup? request with
    | none =>
        have hnil := best?_eq_none_iff.mp hlookup
        have hentry := (hmem record.entry).mpr ⟨record, hanswers.mem, hanswers.accepts, rfl⟩
        rw [hnil] at hentry
        simp at hentry
    | some winner =>
        obtain ⟨other, hother, rfl⟩ := hbest winner hlookup
        rw [hanswers.unique hordered hother]
        rfl

/-- The index has no answer exactly if no record accepts the request. -/
theorem Tracks.lookup?_eq_none_iff (h : index.Tracks register)
    (hmethod : asciiUpper request.method = request.method) :
    index.lookup? request = none ↔
      ∀ record ∈ register.records, record.accepts request = false := by
  have hmem := h.mem_candidates_iff hmethod
  rw [Index.lookup?, Option.map_eq_none_iff, Snapshot.lookup?, best?_eq_none_iff,
    List.eq_nil_iff_forall_not_mem]
  constructor
  · intro hnone record hrecord
    by_contra haccepts
    exact hnone record.entry
      ((hmem _).mpr ⟨record, hrecord, eq_true_of_ne_false haccepts, rfl⟩)
  · intro hnone entry hentry
    obtain ⟨record, hrecord, haccepts, -⟩ := (hmem entry).mp hentry
    rw [hnone record hrecord] at haccepts
    exact Bool.false_ne_true haccepts

/-- **Looking up in buckets is looking up in all.** After any changes of a fresh index, a request gets
the freshly compiled rule of the record that answers it in the register of these changes, and none
exactly if no record of the register accepts it in full. -/
theorem lookup?_foldl_apply (limit : Option Nat) (uses : List Regex.Cache.Use) (edits : List Edit)
    (method url : String) (headers : List (String × String)) (body : String) :
    let index := edits.foldl Index.apply (fresh limit uses)
    let register := edits.foldl Register.apply {}
    let request := Request.received method url headers body
    (∀ matcher, index.lookup? request = some matcher ↔
      ∃ record, register.Answers request record ∧ matcher = .ofRule record.rule) ∧
    (index.lookup? request = none ↔
      ∀ record ∈ register.records, record.accepts request = false) := by
  intro index register request
  obtain ⟨htracks, hordered⟩ :=
    (tracks_fresh limit uses).foldl_apply (Register.ordered_empty 0) edits
  have hmethod := Request.asciiUpper_received_method method url headers body
  exact ⟨fun matcher => htracks.lookup?_eq_some_iff hordered hmethod,
    htracks.lookup?_eq_none_iff hmethod⟩

end StubServer.Index
