/-!
# Digits of base 16

## Main definitions

* `hexDigit?`: the value of a digit, in either letter case.
-/

namespace StubServer

/-- The value of a base 16 digit. -/
def hexDigit? (c : Char) : Option Nat :=
  if '0' ≤ c ∧ c ≤ '9' then some (c.toNat - '0'.toNat)
  else if 'a' ≤ c ∧ c ≤ 'f' then some (c.toNat - 'a'.toNat + 10)
  else if 'A' ≤ c ∧ c ≤ 'F' then some (c.toNat - 'A'.toNat + 10)
  else none

end StubServer
