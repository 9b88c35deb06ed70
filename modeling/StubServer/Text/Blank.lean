/-!
# Blanks

The characters that count as blank around names, methods, patterns and files: the white space of
the Unicode standard.

## Main definitions

* `isBlank`: membership in the class.
* `trim`: a text without the blanks at its ends.
* `isBlankText`: whether nothing but blanks is written.
-/

namespace StubServer

/-- Whether a character has the Unicode property *White_Space*. -/
def isBlank (c : Char) : Bool :=
  let point := c.toNat
  (9 ≤ point && point ≤ 13) || point == 0x20 || point == 0x85 || point == 0xA0 ||
    point == 0x1680 || (0x2000 ≤ point && point ≤ 0x200A) || point == 0x2028 ||
    point == 0x2029 || point == 0x202F || point == 0x205F || point == 0x3000

/-- A text without its leading blanks. -/
def trimStart (text : List Char) : List Char :=
  text.dropWhile isBlank

/-- A text without the blanks at either end. -/
def trim (text : List Char) : List Char :=
  (trimStart (trimStart text).reverse).reverse

/-- A string without the blanks at either end. -/
def trimmed (s : String) : String :=
  String.ofList (trim s.toList)

/-- Whether a string holds nothing but blanks. -/
def isBlankText (s : String) : Bool :=
  s.toList.all isBlank

end StubServer
