import StubServer.Proofs.Timestamp.Text

/-!
# What is read as a timestamp

Whatever text is read as a timestamp, the timestamp is within reach: parts out of range are refused, a
fraction has nine digits at most, and offsets are whole minutes, so that a leap second stays at the end of a
minute. Its own text is then read as the same timestamp again.

## Main statements

* `valid_of_parse`: a timestamp that was read is within reach.
* `readsBack_of_parse`: its text is read as the same timestamp.
-/

namespace StubServer.Timestamp

variable {text rest : List Char} {n low high width : Nat} {t : Timestamp}

/-! ### Parts -/

/-- So many digits have a value of so many digits. -/
theorem foldl_digit_lt {digits : List Char} (h : ∀ c ∈ digits, isDigit c = true) (n : Nat) :
    digits.foldl (fun n c => n * 10 + digit c) n < (n + 1) * 10 ^ digits.length := by
  induction digits generalizing n with
  | nil => simp
  | cons c digits ih =>
      have hdigit : digit c ≤ 9 := by
        have hrange := toNat_of_isDigit (h c List.mem_cons_self)
        have hzero : '0'.toNat = 48 := rfl
        simp only [digit, hzero]
        omega
      have hrest := ih (fun d hd => h d (List.mem_cons_of_mem _ hd)) (n * 10 + digit c)
      calc digits.foldl (fun n c => n * 10 + digit c) (n * 10 + digit c)
          < (n * 10 + digit c + 1) * 10 ^ digits.length := hrest
        _ ≤ ((n + 1) * 10) * 10 ^ digits.length := Nat.mul_le_mul_right _ (by omega)
        _ = (n + 1) * 10 ^ (digits.length + 1) := by
            rw [Nat.pow_succ, Nat.mul_assoc, Nat.mul_comm 10]

/-- A number of at most so many digits. -/
theorem lt_of_natural (h : natural (some width) text = .ok (n, rest)) :
    n < 10 ^ min width (text.takeWhile isDigit).length := by
  have hdigits : ∀ c ∈ (text.takeWhile isDigit).take width, isDigit c = true := fun c hc =>
    List.all_eq_true.mp List.all_takeWhile c (List.mem_of_mem_take hc)
  have hlt := foldl_digit_lt hdigits 0
  rw [List.length_take, Nat.zero_add, Nat.one_mul] at hlt
  unfold natural at h
  dsimp only at h
  split at h
  · cases h
  · cases h
  · split at h
    · cases h
    · rw [← fst_eq_of_ok_eq h]
      exact hlt

/-- A part lies within its bounds. -/
theorem bounds_of_part (h : part low high text = .ok (n, rest)) : low ≤ n ∧ n ≤ high := by
  obtain ⟨⟨m, more⟩, -, h⟩ := exists_of_bind_eq_ok h
  dsimp only at h
  split at h
  · rename_i hbounds
    rw [← fst_eq_of_ok_eq h]
    exact hbounds
  · cases h

/-- A fraction is less than a second. -/
theorem lt_of_fraction (h : fraction text = .ok (n, rest)) : n < 1000000000 := by
  unfold fraction at h
  split at h
  · rename_i text
    obtain ⟨⟨m, more⟩, hnatural, h⟩ := exists_of_bind_eq_ok h
    have hlt := lt_of_natural hnatural
    rw [← fst_eq_of_ok_eq h]
    have hplaces : min 9 (text.takeWhile isDigit).length + (9 - (text.takeWhile isDigit).length) = 9 := by
      omega
    calc m * 10 ^ (9 - (text.takeWhile isDigit).length)
        < 10 ^ min 9 (text.takeWhile isDigit).length * 10 ^ (9 - (text.takeWhile isDigit).length) :=
          Nat.mul_lt_mul_of_pos_right hlt (Nat.pow_pos (by decide))
      _ = 1000000000 := by rw [← Nat.pow_add, hplaces]
  · rw [← fst_eq_of_ok_eq h]
    decide

/-- The size of an offset is a number of whole minutes. -/
theorem minutes_of_offsetSize (h : offsetSize text = .ok (n, rest)) : n % 60 = 0 := by
  obtain ⟨⟨h1, h2, more⟩, -, h⟩ := exists_of_bind_eq_ok h
  obtain ⟨⟨m1, m2, more⟩, -, h⟩ := exists_of_bind_eq_ok h
  dsimp only at h
  split at h
  · rw [← fst_eq_of_ok_eq h]
    omega
  · cases h

/-- An offset is a number of whole minutes. -/
theorem minutes_of_offset {offset : Int} (h : Timestamp.offset text = .ok (offset, rest)) :
    offset % 60 = 0 := by
  unfold Timestamp.offset at h
  split at h
  · cases h
  split at h
  · rw [← fst_eq_of_ok_eq h]
    rfl
  split at h
  · rw [← fst_eq_of_ok_eq h]
    rfl
  split at h
  · obtain ⟨⟨n, more⟩, hn, h⟩ := exists_of_map_eq_ok h
    have hminutes := minutes_of_offsetSize hn
    rw [← (Prod.mk.inj h).1]
    dsimp only
    omega
  split at h
  · obtain ⟨⟨n, more⟩, hn, h⟩ := exists_of_map_eq_ok h
    have hminutes := minutes_of_offsetSize hn
    rw [← (Prod.mk.inj h).1]
    dsimp only
    omega
  · cases h

/-! ### Timestamps -/

/-- The point in time of a date and a time of day is within reach. -/
theorem valid_of_ofLocal {date : Date} {second nanosecond : Nat} {offset : Int}
    (hnanosecond : nanosecond < 2000000000)
    (hleap : 1000000000 ≤ nanosecond → (second : Int) % 60 = 59) (hoffset : offset % 60 = 0)
    (h : ofLocal date second nanosecond offset = .ok t) : t.Valid := by
  unfold ofLocal at h
  split at h
  · cases h
  split at h
  · cases h
  dsimp only at h
  split at h
  · rename_i hin
    rw [← Except.ok.inj h]
    refine ⟨hin, by dsimp only; omega, hnanosecond, fun hlarge => ?_⟩
    have hlast := hleap hlarge
    dsimp only
    omega
  · cases h

/-- **A timestamp that was read is within reach.** -/
theorem valid_of_parse {s : String} (h : parse s = .ok t) : t.Valid := by
  obtain ⟨⟨year, _⟩, -, h⟩ := exists_of_bind_eq_ok h
  obtain ⟨⟨month, _⟩, -, h⟩ := exists_of_bind_eq_ok h
  obtain ⟨⟨day, _⟩, -, h⟩ := exists_of_bind_eq_ok h
  obtain ⟨⟨hour, _⟩, -, h⟩ := exists_of_bind_eq_ok h
  obtain ⟨⟨minute, _⟩, -, h⟩ := exists_of_bind_eq_ok h
  obtain ⟨⟨second, _⟩, hsecond, h⟩ := exists_of_bind_eq_ok h
  obtain ⟨⟨nanosecond, _⟩, hnanosecond, h⟩ := exists_of_bind_eq_ok h
  obtain ⟨⟨offset, _⟩, hoffset, h⟩ := exists_of_bind_eq_ok h
  obtain ⟨_, -, hpart⟩ := exists_of_bind_eq_ok hsecond
  have hbounds := bounds_of_part hpart
  have hfraction := lt_of_fraction hnanosecond
  dsimp only at h
  split at h
  · cases h
  · refine valid_of_ofLocal ?_ ?_ (minutes_of_offset hoffset) h
    · split <;> omega
    · split <;> omega

/-- **A timestamp that was read** has a text that is read as the same timestamp. -/
theorem readsBack_of_parse {s : String} (h : parse s = .ok t) : t.ReadsBack :=
  (valid_of_parse h).readsBack

end StubServer.Timestamp
