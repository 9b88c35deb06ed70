import StubServer.Rule.Validation

/-!
# What valid rules respond

A rule is valid only if its response is more than blanks and was read as JSON (`Rule.responds_of_valid`).
-/

namespace StubServer

/-- The text is more than blanks, and it is JSON. -/
structure IsContent (text : String) : Prop where
  written : isBlankText text = false
  parses : ∃ value, Json.parse text = .ok value

namespace Rule

variable {rule : Rule}

/-- A valid rule is one without problems. -/
theorem validate_eq_ok_iff : rule.validate = .ok () ↔ rule.problems = [] := by
  unfold validate
  split
  · rename_i hnone
    exact iff_of_true rfl hnone
  · rename_i hsome
    exact iff_of_false nofun hsome

/-- A response is no problem exactly if it is JSON. -/
theorem responseProblem_eq_nil_iff {response : String} :
    responseProblem response = [] ↔ IsContent response := by
  unfold responseProblem
  split
  · rename_i hblank
    exact iff_of_false nofun fun h => Bool.false_ne_true (h.written.symm.trans hblank)
  · rename_i hwritten
    cases hparse : Json.parse response with
    | ok value => exact iff_of_true rfl ⟨eq_false_of_ne_true hwritten, value, hparse⟩
    | error problem =>
        refine iff_of_false nofun fun h => ?_
        obtain ⟨value, hvalue⟩ := h.parses
        cases hparse.symm.trans hvalue

/-- **A valid rule** responds with JSON. -/
theorem responds_of_valid (h : rule.validate = .ok ()) : IsContent rule.response := by
  have hproblems := validate_eq_ok_iff.mp h
  rw [problems] at hproblems
  exact responseProblem_eq_nil_iff.mp (List.append_eq_nil_iff.mp hproblems).2

/-- A valid rule has a response. -/
theorem isBlankText_response (h : rule.validate = .ok ()) : isBlankText rule.response = false :=
  (responds_of_valid h).written

end Rule

end StubServer
