import StubServer.Proofs.Text.Utf8
import StubServer.Text.FormEncoding

/-!
# Encoded texts stand for what was encoded

There are many ways to encode a text: a character may be written by the numbers of its bytes, in digits of either
letter case, a blank also as a plus sign, and only some characters may be written as they are. `Encodes` is the
relation between a text and its encodings. Each encoding stands for the text, because plus signs are replaced before
percent signs are looked at, and a plus sign of the text itself is never written as it is.

## Main statements

* `bytes_cons_of_ne`, `bytes_percent`: an encoded text is read byte by byte.
* `Encodes.decode_eq`: an encoding of a text stands for the text.
* `decode_eq_self`: so does a text that holds no signs for anything else.
* `Encodes.notMem`: the marks between the parts of a query do not occur in encodings.
-/

namespace StubServer.FormEncoding

variable {c mark : Char} {text code rest : List Char} {bytes : List UInt8}

/-! ### Ways to encode a text -/

/-- The characters that may be written as they are. -/
def isUnreserved (c : Char) : Bool :=
  c.isAlphanum || c == '-' || c == '_' || c == '.' || c == '~'

/-- The digit of base 16 for a number, in either letter case. -/
def IsDigitOf (n : Nat) (c : Char) : Prop :=
  c = n.digitChar ∨ c = n.digitChar.toUpper

/-- The ways to write bytes by their numbers. -/
inductive WritesBytes : List UInt8 → List Char → Prop
  | nil : WritesBytes [] []
  | cons {byte : UInt8} {high low : Char} {bytes : List UInt8} {code : List Char}
      (hhigh : IsDigitOf (byte.toNat / 16) high) (hlow : IsDigitOf (byte.toNat % 16) low)
      (h : WritesBytes bytes code) : WritesBytes (byte :: bytes) ('%' :: high :: low :: code)

/-- The ways to encode a text. -/
inductive Encodes : List Char → List Char → Prop
  /-- No characters. -/
  | nil : Encodes [] []
  /-- A character as it is. -/
  | plain {c : Char} {text code : List Char} (hc : isUnreserved c = true) (h : Encodes text code) :
      Encodes (c :: text) (c :: code)
  /-- A blank as a plus sign. -/
  | plus {text code : List Char} (h : Encodes text code) : Encodes (' ' :: text) ('+' :: code)
  /-- A character by the numbers of its bytes. -/
  | escaped {c : Char} {text written code : List Char} (hc : WritesBytes (String.utf8EncodeChar c) written)
      (h : Encodes text code) : Encodes (c :: text) (written ++ code)

/-! ### Marks -/

/-- A digit is a digit whatever its letter case. -/
theorem hexDigit?_of_isDigitOf {n : Nat} (hn : n < 16) (h : IsDigitOf n c) : hexDigit? c = some n := by
  have hboth : ∀ n < 16, hexDigit? n.digitChar = some n ∧ hexDigit? n.digitChar.toUpper = some n := by decide
  rcases h with rfl | rfl
  · exact (hboth n hn).1
  · exact (hboth n hn).2

/-- A mark stands between the parts of a query, or between the name and the value of a field. -/
def IsMark (c : Char) : Prop :=
  c = '&' ∨ c = '='

/-- A mark is no digit. -/
theorem IsMark.hexDigit? (h : IsMark mark) : hexDigit? mark = none := by
  rcases h with rfl | rfl <;> decide

/-- Bytes are written without marks. -/
theorem WritesBytes.notMem (h : WritesBytes bytes code) (hmark : IsMark mark) : mark ∉ code := by
  induction h with
  | nil => exact List.not_mem_nil
  | @cons byte high low _ _ hhigh hlow _ ih =>
      have hbyte := byte.toNat_lt
      have hdigit : ∀ n c, n < 16 → IsDigitOf n c → mark ≠ c := by
        rintro n c hn hc rfl
        cases (hexDigit?_of_isDigitOf hn hc).symm.trans hmark.hexDigit?
      have hpercent : mark ≠ '%' := by
        rcases hmark with rfl | rfl <;> decide
      simp only [List.mem_cons, not_or]
      exact ⟨hpercent, hdigit _ _ (by omega) hhigh, hdigit _ _ (by omega) hlow, ih⟩

/-- **Texts are encoded without marks.** -/
theorem Encodes.notMem (h : Encodes text code) (hmark : IsMark mark) : mark ∉ code := by
  induction h with
  | nil => exact List.not_mem_nil
  | @plain c _ _ hc _ ih =>
      refine List.not_mem_cons_of_ne_of_not_mem ?_ ih
      rintro rfl
      rcases hmark with rfl | rfl <;> cases hc
  | plus _ ih =>
      refine List.not_mem_cons_of_ne_of_not_mem ?_ ih
      rcases hmark with rfl | rfl <;> decide
  | escaped hc _ ih => exact fun hmem => (List.mem_append.mp hmem).elim (hc.notMem hmark) ih

/-! ### Reading encodings -/

/-- Spaces are written for plus signs one by one. -/
theorem spaced_append (text rest : List Char) : spaced (text ++ rest) = spaced text ++ spaced rest :=
  List.map_append

/-- A character other than a plus sign stays. -/
theorem spaced_cons_of_ne (hc : c ≠ '+') (text : List Char) : spaced (c :: text) = c :: spaced text := by
  rw [spaced, List.map_cons, if_neg hc, spaced]

/-- A character other than a percent sign stands for its own bytes. -/
theorem bytes_cons_of_ne (hc : c ≠ '%') (text : List Char) :
    FormEncoding.bytes (c :: text) = String.utf8EncodeChar c ++ FormEncoding.bytes text := by
  match text with
  | [] => simp [FormEncoding.bytes]
  | [d] => rfl
  | high :: low :: rest => rw [FormEncoding.bytes, escaped?, if_neg hc]

/-- A percent sign with two digits stands for a byte. -/
theorem bytes_percent {byte : UInt8} {high low : Char} (hhigh : hexDigit? high = some (byte.toNat / 16))
    (hlow : hexDigit? low = some (byte.toNat % 16)) (rest : List Char) :
    FormEncoding.bytes ('%' :: high :: low :: rest) = byte :: FormEncoding.bytes rest := by
  have hvalue : byte.toNat / 16 * 16 + byte.toNat % 16 = byte.toNat := by omega
  have hescaped : escaped? '%' high low = some byte := by
    rw [escaped?, if_pos rfl, hhigh, hlow]
    dsimp only
    rw [hvalue, UInt8.ofNat_toNat]
  rw [FormEncoding.bytes, hescaped]

/-- No plus sign is a digit. -/
theorem ne_plus_of_isDigitOf {n : Nat} (hn : n < 16) (h : IsDigitOf n c) : c ≠ '+' := by
  rintro rfl
  cases (hexDigit?_of_isDigitOf hn h).symm.trans (show hexDigit? '+' = none by decide)

/-- Bytes that are written by their numbers are read, whatever stands behind them. -/
theorem WritesBytes.bytes_eq (h : WritesBytes bytes code) (rest : List Char) :
    FormEncoding.bytes (spaced code ++ rest) = bytes ++ FormEncoding.bytes rest := by
  induction h with
  | nil => rfl
  | @cons byte high low _ code hhigh hlow _ ih =>
      have hbyte := byte.toNat_lt
      have hspaced : spaced ('%' :: high :: low :: code) = '%' :: high :: low :: spaced code := by
        rw [spaced_cons_of_ne (by decide), spaced_cons_of_ne (ne_plus_of_isDigitOf (by omega) hhigh),
          spaced_cons_of_ne (ne_plus_of_isDigitOf (by omega) hlow)]
      rw [hspaced]
      exact (bytes_percent (hexDigit?_of_isDigitOf (by omega) hhigh) (hexDigit?_of_isDigitOf (by omega) hlow) _).trans
        (congrArg (byte :: ·) ih)

/-- An encoding of a text has the bytes of the text. -/
theorem Encodes.bytes_eq (h : Encodes text code) : FormEncoding.bytes (spaced code) = Utf8.encode text := by
  induction h with
  | nil => rfl
  | @plain c text code hc _ ih =>
      have hplus : c ≠ '+' := by
        rintro rfl
        cases hc
      have hpercent : c ≠ '%' := by
        rintro rfl
        cases hc
      rw [spaced_cons_of_ne hplus, bytes_cons_of_ne hpercent, ih]
      rfl
  | @plus text code _ ih =>
      have hspaced : spaced ('+' :: code) = ' ' :: spaced code := rfl
      rw [hspaced, bytes_cons_of_ne (by decide), ih]
      rfl
  | @escaped c text written code hc _ ih =>
      rw [spaced_append, hc.bytes_eq, ih]
      rfl

/-- **An encoding of a text stands for the text.** -/
theorem Encodes.decode_eq (h : Encodes text code) : decode code = text := by
  rw [decode, h.bytes_eq, Utf8.decode?_encode, Option.getD_some]

/-- A text without percent signs has the bytes of the text. -/
theorem bytes_eq_encode (hpercent : '%' ∉ text) : FormEncoding.bytes text = Utf8.encode text := by
  induction text with
  | nil => rfl
  | cons c text ih =>
      obtain ⟨hc, htext⟩ := not_or.mp (mt List.mem_cons.mpr hpercent)
      rw [bytes_cons_of_ne (Ne.symm hc), ih htext]
      rfl

/-- A text without plus signs has no spaces to be written. -/
theorem spaced_eq_self (hplus : '+' ∉ text) : spaced text = text :=
  (List.map_congr_left fun _ hc => if_neg (ne_of_mem_of_not_mem hc hplus)).trans (List.map_id text)

/-- **A text without percent and plus signs** stands for itself. -/
theorem decode_eq_self (hpercent : '%' ∉ text) (hplus : '+' ∉ text) : decode text = text := by
  rw [decode, spaced_eq_self hplus, bytes_eq_encode hpercent, Utf8.decode?_encode, Option.getD_some]

end StubServer.FormEncoding
