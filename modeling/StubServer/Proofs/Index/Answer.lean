import StubServer.Proofs.Index.Serving

/-!
# The answer as a function of the served rules

`answer?` picks, of the rules in a list that accept a request, the one with the least priority, and of several
with that priority the last. An index that serves a list of rules answers every request in this way
(`Serves.lookup?_eq`), so what it answers depends on the list alone, and of that only on the rules that accept
the request.

## Main statements

* `Serves.lookup?_eq`: what the index answers.
* `Serves.of_lookup?`: which rule it is, if the order of the list means something.
* `Serves.lookup?_eq_of_edits`: changes under one key leave all answers but those of the entry of that key.
-/

namespace StubServer.Index

/-! ### The last of those with the least priority -/

section Last

variable {α β : Type} {f : α → Int} {g : β → Int} {items : List α} {winner : α}

/-- The item with the least priority, and of several with that priority the last. -/
def lastLeast? (priority : α → Int) : List α → Option α
  | [] => none
  | item :: rest =>
    match lastLeast? priority rest with
    | none => some item
    | some least => if priority item < priority least then some item else some least

/-- There is such an item if there is any. -/
theorem lastLeast?_eq_none_iff : lastLeast? f items = none ↔ items = [] := by
  cases items with
  | nil => exact iff_of_true rfl rfl
  | cons item rest =>
      refine iff_of_false ?_ (List.cons_ne_nil _ _)
      rw [lastLeast?]
      split
      · simp
      · split <;> simp

/-- Of items that stand for others, with the same priorities, the one for the least of the others is the
least. -/
theorem lastLeast?_map (change : α → β) (h : ∀ a, g (change a) = f a) (items : List α) :
    lastLeast? g (items.map change) = (lastLeast? f items).map change := by
  induction items with
  | nil => rfl
  | cons item rest ih =>
      rw [List.map_cons, lastLeast?, lastLeast?, ih]
      cases lastLeast? f rest with
      | none => rfl
      | some least =>
          simp only [Option.map_some, h]
          split <;> rfl

/-- The least item comes after all others that are as little. -/
theorem of_lastLeast? {Before : α → α → Prop} (hbefore : items.Pairwise Before)
    (hleast : lastLeast? f items = some winner) :
    winner ∈ items ∧ ∀ other ∈ items, other ≠ winner →
      f winner < f other ∨ (f winner = f other ∧ Before other winner) := by
  induction items generalizing winner with
  | nil => cases hleast
  | cons item rest ih =>
      obtain ⟨hitem, hrest⟩ := List.pairwise_cons.mp hbefore
      rw [lastLeast?] at hleast
      cases hothers : lastLeast? f rest with
      | none =>
          obtain rfl : rest = [] := lastLeast?_eq_none_iff.mp hothers
          obtain rfl : item = winner := Option.some.inj hleast
          simp
      | some least =>
          obtain ⟨hmem, hbest⟩ := ih hrest hothers
          simp only [hothers] at hleast
          split at hleast
          · rename_i hlt
            obtain rfl : item = winner := Option.some.inj hleast
            refine ⟨List.mem_cons_self, fun other hother hne => .inl ?_⟩
            have hother := (List.mem_cons.mp hother).resolve_left hne
            by_cases hsame : other = least
            · exact hsame ▸ hlt
            · rcases hbest other hother hsame with hless | ⟨heq, -⟩
              · exact Int.lt_trans hlt hless
              · exact heq ▸ hlt
          · rename_i hle
            obtain rfl : least = winner := Option.some.inj hleast
            refine ⟨List.mem_cons_of_mem _ hmem, fun other hother hne => ?_⟩
            rcases List.mem_cons.mp hother with rfl | hother
            · rcases Int.lt_or_eq_of_le (Int.not_lt.mp hle) with hlt | heq
              · exact .inl hlt
              · exact .inr ⟨heq, hitem least hmem⟩
            · exact hbest other hother hne

/-- Of the two items with priority zero, the last. -/
example : lastLeast? Prod.fst [(1, "a"), (0, "b"), (0, "c"), (2, "d")] = some (0, "c") := by decide

end Last

/-! ### Answers -/

/-- Of the rules that accept a request the one with the least priority, and of several with that priority the
last. -/
def answer? (request : Request) (served : List Rule) : Option Rule :=
  lastLeast? Rule.priority (served.filter fun rule => (Matcher.ofRule rule).accepts request)

variable {index : Index} {register : Register} {served others : List Rule} {rule winner : Rule}
  {request : Request}

/-- There is no answer exactly if no rule accepts the request. -/
theorem answer?_eq_none_iff :
    answer? request served = none ↔
      ∀ rule ∈ served, (Matcher.ofRule rule).accepts request = false := by
  rw [answer?, lastLeast?_eq_none_iff, List.filter_eq_nil_iff]
  simp

/-- The answer accepts the request, and of the others that do it has the least priority or comes after those
with the same. -/
theorem of_answer? {Before : Rule → Rule → Prop} (hbefore : served.Pairwise Before)
    (hanswer : answer? request served = some winner) :
    winner ∈ served ∧ (Matcher.ofRule winner).accepts request = true ∧
      ∀ other ∈ served, (Matcher.ofRule other).accepts request = true → other ≠ winner →
        winner.priority < other.priority ∨ (winner.priority = other.priority ∧ Before other winner) := by
  obtain ⟨hwinner, hbest⟩ := of_lastLeast? (hbefore.sublist List.filter_sublist) hanswer
  obtain ⟨hmem, haccepts⟩ := List.mem_filter.mp hwinner
  exact ⟨hmem, haccepts, fun other hother hother' => hbest other (List.mem_filter.mpr ⟨hother, hother'⟩)⟩

/-- Only the rules that accept a request matter for the answer. -/
theorem answer?_congr
    (h : (served.filter fun rule => (Matcher.ofRule rule).accepts request) =
      others.filter fun rule => (Matcher.ofRule rule).accepts request) :
    answer? request served = answer? request others := by
  rw [answer?, answer?, h]

/-- A register answers with the rule of a record that answers. -/
theorem Register.Ordered.of_answer? (h : register.Ordered)
    (hanswer : answer? request (register.records.map Record.rule) = some winner) :
    ∃ record, register.Answers request record ∧ record.rule = winner := by
  have hrecords : answer? request (register.records.map Record.rule) =
      (lastLeast? (fun record => record.rule.priority)
        (register.records.filter fun record => record.accepts request)).map Record.rule := by
    rw [answer?, List.filter_map, Function.comp_def]
    exact lastLeast?_map Record.rule (fun _ => rfl) _
  rw [hrecords] at hanswer
  obtain ⟨record, hleast, rfl⟩ := Option.map_eq_some_iff.mp hanswer
  obtain ⟨hmem, hbest⟩ := of_lastLeast? (h.ascending.sublist List.filter_sublist) hleast
  obtain ⟨hrecord, haccepts⟩ := List.mem_filter.mp hmem
  refine ⟨record, ⟨hrecord, haccepts, fun other hother hother' => ?_⟩, rfl⟩
  by_cases hsame : other = record
  · exact .inr ⟨by rw [hsame], Nat.le_of_eq (by rw [hsame])⟩
  · exact (hbest other (List.mem_filter.mpr ⟨hother, hother'⟩) hsame).imp_right
      fun ⟨heq, hlt⟩ => ⟨heq, Nat.le_of_lt hlt⟩

/-- **What the index answers** is the compiled answer of the served rules. -/
theorem Serves.lookup?_eq (h : index.Serves served)
    (hmethod : asciiUpper request.method = request.method) :
    index.lookup? request = (answer? request served).map Matcher.ofRule := by
  cases hanswer : answer? request served with
  | none => exact (h.lookup?_eq_none_iff hmethod).mpr (answer?_eq_none_iff.mp hanswer)
  | some winner =>
      obtain ⟨register, htracks, hordered, rfl⟩ := h
      obtain ⟨record, hanswers, rfl⟩ := hordered.of_answer? hanswer
      exact (htracks.lookup?_eq_some_iff hordered hmethod).mpr ⟨record, hanswers, rfl⟩

/-- **The rule that is found** accepts the request, and of the others that do it has the least priority or comes
after those with the same. -/
theorem Serves.of_lookup? {Before : Rule → Rule → Prop} {matcher : Matcher} (h : index.Serves served)
    (hbefore : served.Pairwise Before) (hmethod : asciiUpper request.method = request.method)
    (hlookup : index.lookup? request = some matcher) :
    ∃ winner ∈ served, matcher = .ofRule winner ∧ (Matcher.ofRule winner).accepts request = true ∧
      ∀ other ∈ served, (Matcher.ofRule other).accepts request = true → other ≠ winner →
        winner.priority < other.priority ∨
          (winner.priority = other.priority ∧ Before other winner) := by
  rw [h.lookup?_eq hmethod] at hlookup
  obtain ⟨winner, hanswer, rfl⟩ := Option.map_eq_some_iff.mp hlookup
  obtain ⟨hwinner, haccepts, hbest⟩ := of_answer? hbefore hanswer
  exact ⟨winner, hwinner, rfl, haccepts, hbest⟩

/-! ### Changes under one key -/

section OneKey

variable {edits : List Edit} {key : String}

/-- A change under one key leaves the served rules with other keys in their order. -/
theorem filter_serving {edit : Edit} (hedit : edit.key? = some key) (served : List Rule) :
    (serving served edit).filter (fun rule => rule.key != key) =
      served.filter fun rule => rule.key != key := by
  have hremoved : (served.filter fun rule => rule.key != key).filter (fun rule => rule.key != key) =
      served.filter fun rule => rule.key != key := by
    rw [List.filter_filter]
    exact List.filter_congr fun rule _ => Bool.and_self _
  cases edit with
  | add rule =>
      obtain rfl := Option.some.inj hedit
      rw [serving, enlist]
      split
      · rw [List.filter_append, hremoved, List.filter_cons_of_neg (by simp), List.filter_nil,
          List.append_nil]
      · rfl
  | remove removed =>
      obtain rfl := Option.some.inj hedit
      exact hremoved
  | reload rules => cases hedit

/-- Changes under one key leave the served rules with other keys in their order. -/
theorem filter_foldl_serving (hedits : ∀ edit ∈ edits, edit.key? = some key) (served : List Rule) :
    (edits.foldl serving served).filter (fun rule => rule.key != key) =
      served.filter fun rule => rule.key != key := by
  induction edits generalizing served with
  | nil => rfl
  | cons edit rest ih =>
      obtain ⟨hedit, hrest⟩ := List.forall_mem_cons.mp hedits
      exact (ih hrest _).trans (filter_serving hedit served)

/-- The entry of a key does not matter for the answer to a request that it does not accept. -/
theorem Serves.answer?_filter (h : index.Serves served)
    (hentry : ∀ matcher, index.get? key = some matcher → matcher.accepts request = false) :
    answer? request (served.filter fun rule => rule.key != key) = answer? request served := by
  refine answer?_congr ?_
  rw [List.filter_comm]
  refine List.filter_eq_self.mpr fun rule hrule => ?_
  obtain ⟨hserved, haccepts⟩ := List.mem_filter.mp hrule
  refine bne_iff_ne.mpr fun hkey => ?_
  have hnot := hentry _ (h.get?_eq_some_iff.mpr ⟨rule, hserved, hkey, rfl⟩)
  exact Bool.false_ne_true (hnot.symm.trans haccepts)

/-- **Changes under one key** leave the answers to all requests that neither the old nor the new entry of that
key accepts. -/
theorem Serves.lookup?_eq_of_edits (h : index.Serves served)
    (hedits : ∀ edit ∈ edits, edit.key? = some key)
    (hmethod : asciiUpper request.method = request.method)
    (hold : ∀ matcher, index.get? key = some matcher → matcher.accepts request = false)
    (hnew : ∀ matcher, (edits.foldl Index.apply index).get? key = some matcher →
      matcher.accepts request = false) :
    (edits.foldl Index.apply index).lookup? request = index.lookup? request := by
  have hafter := h.foldl_apply edits
  rw [h.lookup?_eq hmethod, hafter.lookup?_eq hmethod, ← h.answer?_filter hold, ← hafter.answer?_filter hnew,
    filter_foldl_serving hedits]

end OneKey

end StubServer.Index
