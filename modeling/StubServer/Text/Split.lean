/-!
# Cutting texts apart

## Main definitions

* `cut`: a text before and after the first occurrence of a mark.
* `pieces`: a text cut at every occurrence of a mark.
* `occursIn`: whether a text is part of another.
-/

namespace StubServer

/-- The text before the first occurrence of a mark, and the text after it if there is one. -/
def cut (mark : Char) : List Char → List Char × Option (List Char)
  | [] => ([], none)
  | c :: rest =>
    if c = mark then ([], some rest)
    else (c :: (cut mark rest).1, (cut mark rest).2)

/-- The texts between the occurrences of a mark, one more than there are marks. -/
def pieces (mark : Char) : List Char → List (List Char)
  | [] => [[]]
  | c :: rest =>
    if c = mark then [] :: pieces mark rest
    else match pieces mark rest with
      | [] => [[c]]
      | piece :: more => (c :: piece) :: more

/-- Whether `needle` is a part of `text`. -/
def occursIn (needle : List Char) : List Char → Bool
  | [] => needle.isEmpty
  | c :: text => needle.isPrefixOf (c :: text) || occursIn needle text

end StubServer
