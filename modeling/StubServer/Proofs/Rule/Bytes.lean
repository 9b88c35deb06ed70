import StubServer.Proofs.Text.Utf8
import StubServer.Rule.Wire

/-!
# Rules are read from bytes

Bytes that are a text are read as the text is. Of other bytes only those matter that are kept or compared, which are
the names of members and the strings inside fields: a member that is no field may hold anything between its quotes.

## Main statements

* `ofBytes_of_decode?`: the bytes of a text are read as the text.
-/

namespace StubServer

/-! ### The text that stands for bytes -/

namespace Json

/-- Characters stand for themselves. -/
theorem textOf_map_char (text : Text) : textOf (text.map .char) = text := by
  induction text with
  | nil => rfl
  | cons c text ih => exact congrArg (c :: ·) ih

/-- Where all are characters there are no breaks. -/
theorem breaksOf_map_char (text : Text) : breaksOf (text.map .char) = [] := by
  induction text with
  | nil => rfl
  | cons c text ih => exact ih

end Json

/-! ### Rules -/

namespace Rule

/-- **The bytes of a text** are read as the text. -/
theorem ofBytes_of_decode? {bytes : List UInt8} {text : List Char} (h : Utf8.decode? bytes = some text) :
    ofBytes bytes = ofText (.ofList text) := by
  rw [ofBytes, Utf8.eq_map_char_of_text? h, Json.textOf_map_char, Json.breaksOf_map_char, ofText,
    String.toList_ofList]

/-- An object with a name and a member `note`, which is no field. -/
def annotated (name note : List UInt8) : List UInt8 :=
  Utf8.encode "\x7b\"name\":\"".toList ++ name ++ Utf8.encode "\",\"note\":\"".toList ++ note ++
    Utf8.encode "\"\x7d".toList

-- The byte FF is part of no character. Between the quotes of the member that is read over it does no harm.
example : (ofBytes (annotated [0x61] [0xFF])).toOption = some { name := "a" } ∧
    (ofBytes (annotated [0xFF] [0x61])).toOption = none := by
  decide +kernel

end Rule

end StubServer
