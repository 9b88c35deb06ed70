/-!
# Integers of 64 bits

The decimal texts of integers, with a sign or without one.

## Main definitions

* `readInteger?`: the integer that a text denotes.
-/

namespace StubServer

/-- The value of decimal digits, of which there is at least one. -/
def readDigits? (digits : List Char) : Option Nat :=
  if !digits.isEmpty && digits.all Char.isDigit then
    some (digits.foldl (fun n c => 10 * n + (c.toNat - '0'.toNat)) 0)
  else none

/-- The integer that a text denotes: digits, perhaps after a sign, for a value of 64 bits. -/
def readInteger? : List Char → Option Int
  | '-' :: digits => do
    let n ← readDigits? digits
    if n ≤ 9223372036854775808 then some (-(n : Int)) else none
  | '+' :: digits => do
    let n ← readDigits? digits
    if n ≤ 9223372036854775807 then some (n : Int) else none
  | digits => do
    let n ← readDigits? digits
    if n ≤ 9223372036854775807 then some (n : Int) else none

end StubServer
