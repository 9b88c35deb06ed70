import StubServer.Json.Lexeme
import StubServer.Text.Utf8

/-!
# JSON given as bytes

Whether bytes are a text is not decided before they are read, but string by string while they are, so
that bytes which are no characters do no harm where they are read over. The bytes are put down as a text
nevertheless, together with the places where they are none.

## Main definitions

* `textOf`: the text that stands for bytes.
* `breaksOf`: where the bytes are no characters.
-/

namespace StubServer.Json

open Utf8 (Piece)

/-- The text that stands for the parts of some bytes. A byte that belongs to no character is put down as
DEL: it takes one byte, too, and like the byte it is neither a word of JSON nor part of one outside of
strings. -/
def textOf : List Piece → Text
  | [] => []
  | .char c :: rest => c :: textOf rest
  | .broken length :: rest => List.replicate length '\x7f' ++ textOf rest

/-- Where some parts are no characters. The last byte of each is enough: no quote comes between the
bytes of a part, so that they stand in the same string. -/
def breaksOf : List Piece → Breaks
  | [] => []
  | .char _ :: rest => breaksOf rest
  | .broken _ :: rest => ((textOf rest).length + 1) :: breaksOf rest

end StubServer.Json
