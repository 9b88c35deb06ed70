import StubServer.Text.Utf8

/-!
# Texts as bytes and back

The bytes of a text are read as the text. A character is read from its own bytes whatever stands behind them: its
first byte announces how many follow, and the bounds that it sets for the next one are kept because no character is
a surrogate, lies beyond the last code point or is written in more bytes than it needs.

## Main statements

* `Utf8.scan_encodeChar`: the bytes of one character are read as the character.
* `Utf8.decode?_encode`: the bytes of a text are read as the text.
-/

namespace StubServer.Utf8

variable {pending : Pending} {byte lead next : Nat} {bits owed v : Nat} {rest : List UInt8}

/-! ### Bytes of a character -/

/-- A byte is read as the number that it is. -/
theorem scan_cons_ofNat (pending : Option Pending) (hbyte : byte < 256) (rest : List UInt8) :
    scan pending (UInt8.ofNat byte :: rest) = (step pending byte).1 ++ scan (step pending byte).2 rest := by
  rw [scan, UInt8.toNat_ofNat_of_lt' hbyte]

/-- The first byte of a character of several bytes announces the bits that it brings, how many bytes follow, and
bounds for the next one. -/
def Announces (lead bits owed next : Nat) : Prop :=
  ∃ pending, announced? lead = some pending ∧ pending.bits = bits ∧ pending.owed = owed ∧
    pending.low ≤ next ∧ next ≤ pending.high

/-- The first of two bytes. -/
theorem announces_two (hlow : 127 < v) (hhigh : v ≤ 2047) :
    Announces (v / 64 % 32 + 192) (v / 64) 0 (v % 64 + 128) := by
  have hlead : 0xC2 ≤ v / 64 % 32 + 192 ∧ v / 64 % 32 + 192 ≤ 0xDF := by omega
  refine ⟨_, if_pos hlead, ?_, rfl, ?_, ?_⟩ <;> dsimp only <;> omega

/-- The first of three bytes. The bounds leave out what needs two bytes only, and the surrogates. -/
theorem announces_three (hlow : 2047 < v) (hhigh : v ≤ 65535) (hvalid : v < 55296 ∨ 57343 < v) :
    Announces (v / 4096 % 16 + 224) (v / 4096) 1 (v / 64 % 64 + 128) := by
  unfold Announces announced?
  rw [if_neg (by omega)]
  by_cases hleast : v / 4096 % 16 + 224 = 0xE0
  · rw [if_pos hleast]
    refine ⟨_, rfl, ?_, rfl, ?_, ?_⟩ <;> dsimp only <;> omega
  by_cases hsurrogate : v / 4096 % 16 + 224 = 0xED
  · rw [if_neg hleast, if_pos hsurrogate]
    refine ⟨_, rfl, ?_, rfl, ?_, ?_⟩ <;> dsimp only <;> omega
  · rw [if_neg hleast, if_neg hsurrogate, if_pos (by omega)]
    refine ⟨_, rfl, ?_, rfl, ?_, ?_⟩ <;> dsimp only <;> omega

/-- The first of four bytes. The bounds leave out what needs three bytes only, and what is no code point. -/
theorem announces_four (hlow : 65535 < v) (hvalid : v < 1114112) :
    Announces (v / 262144 % 8 + 240) (v / 262144) 2 (v / 4096 % 64 + 128) := by
  unfold Announces announced?
  rw [if_neg (by omega), if_neg (by omega), if_neg (by omega), if_neg (by omega)]
  by_cases hleast : v / 262144 % 8 + 240 = 0xF0
  · rw [if_pos hleast]
    refine ⟨_, rfl, ?_, rfl, ?_, ?_⟩ <;> dsimp only <;> omega
  by_cases hmiddle : 0xF1 ≤ v / 262144 % 8 + 240 ∧ v / 262144 % 8 + 240 ≤ 0xF3
  · rw [if_neg hleast, if_pos hmiddle]
    refine ⟨_, rfl, ?_, rfl, ?_, ?_⟩ <;> dsimp only <;> omega
  · rw [if_neg hleast, if_neg hmiddle, if_pos (by omega)]
    refine ⟨_, rfl, ?_, rfl, ?_, ?_⟩ <;> dsimp only <;> omega

/-- A byte that continues a character, of which more follow. -/
theorem step_continues (hlow : pending.low ≤ byte) (hhigh : byte ≤ pending.high) (howed : pending.owed = owed + 1) :
    step (some pending) byte =
      ([], some { bits := pending.bits * 64 + byte % 64, taken := pending.taken + 1, owed }) := by
  rw [step, if_pos ⟨hlow, hhigh⟩]
  simp only [howed]

/-- The last byte of a character. -/
theorem step_completes (hlow : pending.low ≤ byte) (hhigh : byte ≤ pending.high) (howed : pending.owed = 0) :
    step (some pending) byte = ([.char (Char.ofNat (pending.bits * 64 + byte % 64))], none) := by
  rw [step, if_pos ⟨hlow, hhigh⟩]
  simp only [howed]

/-- After the first byte come the next one, within its bounds, and those that are still owed then, which may be any
that continue a character. -/
theorem scan_announced (hlead : 0x80 ≤ lead) (hbyte : lead < 256) (h : Announces lead bits owed next)
    (rest : List UInt8) :
    ∃ pending, pending.bits = bits ∧ pending.owed = owed ∧ pending.low ≤ next ∧ next ≤ pending.high ∧
      scan none (UInt8.ofNat lead :: rest) = scan (some pending) rest := by
  obtain ⟨pending, hannounced, hbits, howed, hlow, hhigh⟩ := h
  refine ⟨pending, hbits, howed, hlow, hhigh, ?_⟩
  rw [scan_cons_ofNat none hbyte, step, start, if_neg (Nat.not_lt.mpr hlead), hannounced]
  rfl

/-- **The bytes of a character** are read as the character, whatever stands behind them. -/
theorem scan_encodeChar (c : Char) (rest : List UInt8) :
    scan none (String.utf8EncodeChar c ++ rest) = .char c :: scan none rest := by
  have hvalid : c.val.toNat < 55296 ∨ 57343 < c.val.toNat ∧ c.val.toNat < 1114112 := c.valid
  have hchar : Char.ofNat c.val.toNat = c := Char.ofNat_toNat c
  unfold String.utf8EncodeChar
  generalize c.val.toNat = v at hvalid hchar ⊢
  dsimp only
  split
  · have hascii : start v = ([.char (Char.ofNat v)], none) := if_pos (by omega)
    rw [List.singleton_append, scan_cons_ofNat none (by omega), step, hascii, hchar]
    rfl
  split
  · obtain ⟨two, hbits, howed, hlow, hhigh, hscan⟩ := scan_announced (by omega) (by omega)
      (announces_two (v := v) (by omega) (by omega)) (UInt8.ofNat (v % 64 + 128) :: rest)
    have hv : two.bits * 64 + (v % 64 + 128) % 64 = v := by omega
    rw [List.cons_append, List.singleton_append, hscan, scan_cons_ofNat _ (by omega),
      step_completes hlow hhigh howed, hv, hchar]
    rfl
  split
  · obtain ⟨three, hbits, howed, hlow, hhigh, hscan⟩ := scan_announced (by omega) (by omega)
      (announces_three (v := v) (by omega) (by omega) (by omega))
      (UInt8.ofNat (v / 64 % 64 + 128) :: UInt8.ofNat (v % 64 + 128) :: rest)
    have hv : (three.bits * 64 + (v / 64 % 64 + 128) % 64) * 64 + (v % 64 + 128) % 64 = v := by omega
    rw [List.cons_append, List.cons_append, List.singleton_append, hscan, scan_cons_ofNat _ (by omega),
      step_continues hlow hhigh howed, scan_cons_ofNat _ (by omega),
      step_completes (by dsimp only; omega) (by dsimp only; omega) rfl, hv, hchar]
    rfl
  · obtain ⟨four, hbits, howed, hlow, hhigh, hscan⟩ := scan_announced (by omega) (by omega)
      (announces_four (v := v) (by omega) (by omega))
      (UInt8.ofNat (v / 4096 % 64 + 128) :: UInt8.ofNat (v / 64 % 64 + 128) :: UInt8.ofNat (v % 64 + 128) :: rest)
    have hv : ((four.bits * 64 + (v / 4096 % 64 + 128) % 64) * 64 + (v / 64 % 64 + 128) % 64) * 64 +
        (v % 64 + 128) % 64 = v := by omega
    rw [List.cons_append, List.cons_append, List.cons_append, List.singleton_append, hscan,
      scan_cons_ofNat _ (by omega), step_continues hlow hhigh howed, scan_cons_ofNat _ (by omega),
      step_continues (by dsimp only; omega) (by dsimp only; omega) rfl, scan_cons_ofNat _ (by omega),
      step_completes (by dsimp only; omega) (by dsimp only; omega) rfl, hv, hchar]
    rfl

/-! ### Texts -/

/-- The bytes of a text are read character by character. -/
theorem scan_encode (text : List Char) : scan none (encode text) = text.map .char := by
  induction text with
  | nil => rfl
  | cons c text ih => exact (scan_encodeChar c (encode text)).trans (congrArg (.char c :: ·) ih)

/-- Characters are a text. -/
theorem text?_map_char (text : List Char) : text? (text.map .char) = some text := by
  induction text with
  | nil => rfl
  | cons c text ih => simp [text?, ih]

/-- Nothing else is a text. -/
theorem eq_map_char_of_text? {parts : List Piece} {text : List Char} (h : text? parts = some text) :
    parts = text.map .char := by
  induction parts generalizing text with
  | nil =>
      cases h
      rfl
  | cons part parts ih =>
      cases part with
      | broken length => cases h
      | char c =>
          obtain ⟨others, hothers, rfl⟩ := Option.map_eq_some_iff.mp h
          rw [List.map_cons, ih hothers]

/-- **The bytes of a text** are read as the text. -/
theorem decode?_encode (text : List Char) : decode? (encode text) = some text := by
  rw [decode?, scan_encode, text?_map_char]

end StubServer.Utf8
