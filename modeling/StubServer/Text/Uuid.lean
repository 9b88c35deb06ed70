/-!
# Random identifiers

The keys that rules are given when they bring none: 128 bits in base 16, in groups, with the bits set
that mark them as random.

## Main definitions

* `uuidText`: the text of an identifier.
-/

namespace StubServer

/-- The lowest digits of a number in base 16. -/
def lowDigits (width n : Nat) : List Char :=
  (List.range width).reverse.map fun i => Nat.digitChar (n / Nat.pow 16 i % 16)

/-- The text of the identifier with the lowest 128 bits of a number, of which six are replaced by
the marks of a random identifier. -/
def uuidText (n : Nat) : String :=
  let after (bits : Nat) : Nat := n / Nat.pow 2 bits
  .ofList (lowDigits 8 (after 96) ++ '-' :: lowDigits 4 (after 80) ++
    '-' :: '4' :: lowDigits 3 (after 64) ++
    '-' :: Nat.digitChar (8 + after 60 % 4) :: lowDigits 3 (after 48) ++
    '-' :: lowDigits 12 n)

end StubServer
