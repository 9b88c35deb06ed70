import StubServer.Unicode.BinaryProperty
import StubServer.Unicode.Category

/-!
# Quoted text in messages

A message shows a text that it complains about in double quotes, with the characters escaped
that a reader could not tell apart or would not see.

## Main definitions

* `quoted`: the text in quotes, as messages show it.
-/

namespace StubServer

open Unicode

/-- The characters without a visible shape of their own: controls, separators other than the
space, unassigned and private ones. -/
def unprintable : Ranges :=
  ["cc", "cf", "cn", "co", "zl", "zp", "zs"].flatMap category

/-- The characters that join the one before them. -/
def joining : Ranges := (lookup? binaryProperties "graphemeextend").getD []

/-- The digits of a number in base 16, without leading zeros. -/
def hexDigits (n : Nat) : List Char :=
  Nat.toDigits 16 n

/-- One character of a quoted text. -/
def quotedChar (c : Char) : List Char :=
  if c = '\x00' then ['\\', '0']
  else if c = '\t' then ['\\', 't']
  else if c = '\r' then ['\\', 'r']
  else if c = '\n' then ['\\', 'n']
  else if c = '"' then ['\\', '"']
  else if c = '\\' then ['\\', '\\']
  else if c.toNat < 0x7F ∧ ' ' ≤ c then [c]
  else if joining.contains c ∨ (c ≠ ' ' ∧ unprintable.contains c) then
    ['\\', 'u', '\x7b'] ++ hexDigits c.toNat ++ ['\x7d']
  else [c]

/-- A text in double quotes, as messages show it. -/
def quoted (s : String) : String :=
  String.ofList ('"' :: s.toList.flatMap quotedChar ++ ['"'])

end StubServer
