import StubServer.Proofs.Matcher.Compile
import StubServer.Proofs.Request

/-!
# Methods of rules and requests

Rules and requests both bring their method in capitals and without blanks around it, but by ways of
their own: rules when they are filed in the index, requests when they are received
(`Request.received`). A matcher compares the two in any letter case. The main statement,
`Matcher.ofRule_acceptsMethod_iff`, is that for methods in capitals this comes to plain equality.
-/

namespace StubServer

namespace Matcher

/-- A method in capitals is accepted by the rules for every method and by those for just this one. -/
theorem ofRule_acceptsMethod_iff (rule : Rule) {method : String} (h : asciiUpper method = method) :
    (ofRule rule).acceptsMethod method = true ↔
      rule.normalizedMethod = anyMethod ∨ rule.normalizedMethod = method := by
  have hcase : asciiLower rule.normalizedMethod = asciiLower method ↔
      rule.normalizedMethod = method := by
    rw [← h]
    exact asciiLower_asciiUpper_inj
  simp [acceptsMethod, isWildcard, hcase]

/-- What an accepted request has to satisfy, one condition beside the other. -/
theorem accepts_iff (matcher : Matcher) (request : Request) :
    matcher.accepts request = true ↔ matcher.acceptsMethod request.method = true ∧
      (matcher.acceptsPath request.path && matcher.acceptsDetails request) = true := by
  simp [accepts, and_assoc]

end Matcher

end StubServer
