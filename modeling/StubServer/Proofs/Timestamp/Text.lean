import StubServer.Proofs.Except
import StubServer.Proofs.Text.Decimal
import StubServer.Proofs.Timestamp.Calendar
import StubServer.Timestamp.Parse

/-!
# Timestamps that are written are read back

The text of a timestamp is read part by part: each number with its leading zeros, then the character behind
it. The date that was written is one of the calendar and its day is the day of the timestamp again, so
nothing that is checked on reading fails.

## Main statements

* `Valid.readsBack`: the text of a timestamp is read as this timestamp.
-/

namespace StubServer.Timestamp

variable {width n low high : Nat} {digits rest : List Char} {c : Char} {t : Timestamp}

/-- The text of a timestamp is read as the same point in time. -/
def ReadsBack (t : Timestamp) : Prop :=
  parse t.text = .ok t

/-- A point in time within reach, with a leap second only at the end of a minute. -/
structure Valid (t : Timestamp) : Prop where
  inYears : inYears t.day = true
  second : t.second < 86400
  nanosecond : t.nanosecond < 2000000000
  leap : 1000000000 ≤ t.nanosecond → t.second % 60 = 59

/-! ### Numbers -/

/-- A number with leading zeros has digits only. -/
theorem isDigit_of_mem_padded (h : c ∈ padded width n) : isDigit c = true := by
  rcases List.mem_append.mp h with hzero | hdigit
  · rw [List.eq_of_mem_replicate hzero]
    decide
  · exact isDigit_of_mem_decimalDigits hdigit

/-- Leading zeros do not matter. -/
theorem foldl_padded (width n : Nat) :
    (padded width n).foldl (fun n c => n * 10 + digit c) 0 = n := by
  have hzeros : ∀ k, (List.replicate k '0').foldl (fun n c => n * 10 + digit c) 0 = 0 := by
    intro k
    induction k with
    | zero => rfl
    | succ k ih => exact ih
  rw [padded, List.foldl_append, hzeros]
  exact foldl_decimalDigits n

/-- A number that fits has exactly so many digits. -/
theorem length_padded (width : Nat) (hwidth : 0 < width) (h : n < 10 ^ width) :
    (padded width n).length = width := by
  have hle : (decimalDigits n).length ≤ width := (Nat.length_toDigits_le_iff (by decide) hwidth).mpr h
  simp only [padded, List.length_append, List.length_replicate]
  omega

/-- There is a first digit. -/
theorem exists_padded (width n : Nat) :
    ∃ first others, padded width n = first :: others ∧ isDigit first = true := by
  obtain ⟨first, others, hdigits, -⟩ := exists_decimalDigits n
  have hne : padded width n ≠ [] := by simp [padded, hdigits]
  obtain ⟨first, others, heq⟩ := List.exists_cons_of_ne_nil hne
  exact ⟨first, others, heq, isDigit_of_mem_padded (heq ▸ List.mem_cons_self)⟩

/-- The numbers of the characters that are digits. -/
theorem toNat_of_isDigit (h : isDigit c = true) : 48 ≤ c.toNat ∧ c.toNat ≤ 57 := by
  simpa [isDigit, Char.le_def, UInt32.le_iff_toNat_le] using h

/-- Digits are not blank. -/
theorem isBlank_of_isDigit (h : isDigit c = true) : isBlank c = false := by
  have hrange := toNat_of_isDigit h
  simp [isBlank]
  omega

/-- A number with leading zeros is read back. -/
theorem natural_padded (limit : Option Nat) (width : Nat) (hrest : EndsDigits rest)
    (hlimit : ∀ l ∈ limit, (padded width n).length ≤ l) (hn : n < 9223372036854775808) :
    natural limit (padded width n ++ rest) = .ok (n, rest) := by
  obtain ⟨first, others, hpadded, -⟩ := exists_padded width n
  have htake : (padded width n ++ rest).takeWhile isDigit = padded width n :=
    takeWhile_isDigit_append (fun _ => isDigit_of_mem_padded) hrest
  have hvalue := foldl_padded width n
  cases limit with
  | none =>
      simp only [natural, htake]
      rw [hpadded] at hvalue ⊢
      simp [hvalue, hn]
  | some l =>
      simp only [natural, htake, List.take_of_length_le (hlimit l rfl)]
      rw [hpadded] at hvalue ⊢
      simp [hvalue, hn]

/-- Before a digit there is nothing to trim. -/
theorem trimStart_padded (width n : Nat) (rest : List Char) :
    trimStart (padded width n ++ rest) = padded width n ++ rest := by
  obtain ⟨first, others, hpadded, hfirst⟩ := exists_padded width n
  simp [trimStart, hpadded, isBlank_of_isDigit hfirst]

/-- A part of two digits is read back. -/
theorem part_padded (hrest : EndsDigits rest) (hlow : low ≤ n) (hhigh : n ≤ high) (hn : n < 100) :
    part low high (padded 2 n ++ rest) = .ok (n, rest) := by
  have hlength := length_padded 2 (by decide) hn
  have hread := natural_padded (n := n) (some 2) 2 hrest
    (fun l hl => by rw [hlength, Option.mem_some.mp hl]) (by omega)
  simp [part, trimStart_padded, hread, hlow, hhigh, bind, Except.bind]

/-- A part behind its separator is read back. -/
theorem separator_part (hc : isBlank c = false) (hrest : EndsDigits rest) (hlow : low ≤ n)
    (hhigh : n ≤ high) (hn : n < 100) :
    separator c (c :: (padded 2 n ++ rest)) >>= part low high = .ok (n, rest) := by
  have hseparator : separator c (c :: (padded 2 n ++ rest)) = .ok (padded 2 n ++ rest) := by
    simp [separator, trimStart, hc]
  rw [hseparator]
  exact part_padded hrest hlow hhigh hn

/-! ### Years, fractions and offsets -/

/-- A year is read back, with or without a sign. -/
theorem year_yearText {y : Int} (hy : -2147483648 ≤ y ∧ y ≤ 2147483647) (hrest : EndsDigits rest) :
    year (yearText y ++ rest) = .ok (y, rest) := by
  have hlimit : y.natAbs < 9223372036854775808 := by omega
  unfold yearText
  split
  · have hlength := length_padded (n := y.natAbs) 4 (by decide) (by omega)
    have hread := natural_padded (some 4) 4 hrest
      (fun l hl => by rw [hlength, Option.mem_some.mp hl]) hlimit
    obtain ⟨first, others, hpadded, hfirst⟩ := exists_padded 4 y.natAbs
    have hminus : first ≠ '-' := by rintro rfl; exact absurd hfirst (by decide)
    have hplus : first ≠ '+' := by rintro rfl; exact absurd hfirst (by decide)
    have hvalue : ((y.natAbs : Nat) : Int) = y := by omega
    rw [year, trimStart_padded]
    rw [hpadded, List.cons_append] at hread ⊢
    simp [hminus, hplus, hread, hvalue, hy, Except.map, bind, Except.bind]
  · have hread := natural_padded none 4 hrest (by simp) hlimit
    split
    · have hvalue : -((y.natAbs : Nat) : Int) = y := by omega
      have htrim : trimStart ('-' :: (padded 4 y.natAbs ++ rest)) = '-' :: (padded 4 y.natAbs ++ rest) := rfl
      rw [List.cons_append, year, htrim]
      simp only [hread, hvalue, hy, Except.map, bind, Except.bind, and_self, if_true]
    · have hvalue : ((y.natAbs : Nat) : Int) = y := by omega
      have htrim : trimStart ('+' :: (padded 4 y.natAbs ++ rest)) = '+' :: (padded 4 y.natAbs ++ rest) := rfl
      rw [List.cons_append, year, htrim]
      simp only [hread, hvalue, hy, Except.map, bind, Except.bind, and_self, if_true]

/-- Digits behind a point are read back as a fraction of nine digits. -/
theorem fraction_padded (width n : Nat) (hwidth : 0 < width ∧ width ≤ 9) (hn : n < 10 ^ width)
    (hrest : EndsDigits rest) :
    fraction ('.' :: (padded width n ++ rest)) = .ok (n * 10 ^ (9 - width), rest) := by
  have hlength := length_padded width hwidth.1 hn
  have hsmall : (10 : Nat) ^ width ≤ 10 ^ 9 := Nat.pow_le_pow_right (by decide) hwidth.2
  have hread := natural_padded (some 9) width hrest
    (fun l hl => by rw [hlength, ← Option.mem_some.mp hl]; exact hwidth.2) (show n < _ by omega)
  have htake : (padded width n ++ rest).takeWhile isDigit = padded width n :=
    takeWhile_isDigit_append (fun _ => isDigit_of_mem_padded) hrest
  have hdrop : (padded width n ++ rest).dropWhile isDigit = rest :=
    dropWhile_isDigit_append (fun _ => isDigit_of_mem_padded) hrest
  simp only [fraction, hread, htake, hdrop, hlength]
  rfl

/-- A fraction of a second is read back. -/
theorem fraction_fractionText (hn : n < 1000000000) (hc : isDigit c = false) (hdot : c ≠ '.')
    (rest : List Char) : fraction (fractionText n ++ c :: rest) = .ok (n, c :: rest) := by
  have hrest := endsDigits_cons hc rest
  unfold fractionText
  split
  · subst n
    simp [fraction, hdot]
  split
  · have hread := fraction_padded 3 (n / 1000000) (by decide) (by omega) hrest
    have hvalue : n / 1000000 * 10 ^ 6 = n := by omega
    rwa [hvalue] at hread
  split
  · have hread := fraction_padded 6 (n / 1000) (by decide) (by omega) hrest
    have hvalue : n / 1000 * 10 ^ 3 = n := by omega
    rwa [hvalue] at hread
  · have hread := fraction_padded 9 n (by decide) (by omega) hrest
    rwa [Nat.sub_self, Nat.pow_zero, Nat.mul_one] at hread

/-- A fraction of a second, or what stands behind it, ends a number. -/
theorem endsDigits_fractionText (n : Nat) (hc : isDigit c = false) (rest : List Char) :
    EndsDigits (fractionText n ++ c :: rest) := by
  unfold fractionText
  split
  · exact endsDigits_cons hc _
  split
  · exact endsDigits_cons (by decide) _
  split <;> exact endsDigits_cons (by decide) _

/-! ### Timestamps -/

/-- The point in time of a date, a time of day and no offset. -/
theorem ofLocal_dateOfDay {day : Int} {second : Nat} (hin : inYears day = true)
    (hsecond : second < 86400) (nanosecond : Nat) :
    ofLocal (dateOfDay day) second nanosecond 0 = .ok ⟨day, second, nanosecond⟩ := by
  obtain ⟨hlow, hhigh⟩ := year_dateOfDay hin
  obtain ⟨-, -, hday⟩ := isDate_dateOfDay day
  have hdate : ¬ ((dateOfDay day).year < yearBounds.1 ∨ yearBounds.2 < (dateOfDay day).year ∨
      daysInMonth (dateOfDay day).year (dateOfDay day).month < (dateOfDay day).day) := by omega
  have htotal : (day * 86400 + second - 0) / 86400 = day := by omega
  have hrest : ((day * 86400 + second - 0) % 86400).toNat = second := by omega
  rw [ofLocal, if_neg hdate, if_neg (by decide), dayOfDate_dateOfDay]
  simp only [htotal, hrest, hin, if_true]

/-- **Date and time of day** are read back part by part. -/
theorem parse_parts {date : Date} (hour minute second nanosecond : Nat)
    (hyear : -2147483648 ≤ date.year ∧ date.year ≤ 2147483647) (hmonth : 1 ≤ date.month ∧ date.month ≤ 12)
    (hday : 1 ≤ date.day ∧ date.day ≤ 31) (hhour : hour ≤ 23) (hminute : minute ≤ 59)
    (hsecond : second ≤ 60) (hnanosecond : nanosecond < 1000000000) :
    parse (.ofList (yearText date.year ++ '-' :: (padded 2 date.month ++ '-' :: (padded 2 date.day ++
      'T' :: (padded 2 hour ++ ':' :: (padded 2 minute ++ ':' :: (padded 2 second ++
        (fractionText nanosecond ++ ['Z'])))))))) =
      ofLocal date (hour * 3600 + minute * 60 + min second 59)
        (if second = 60 then nanosecond + 1000000000 else nanosecond) 0 := by
  have hfraction := endsDigits_fractionText nanosecond (show isDigit 'Z' = false by decide) []
  rw [parse, String.toList_ofList, year_yearText hyear (endsDigits_cons (by decide) _), ok_bind]
  dsimp only
  rw [separator_part (by decide) (endsDigits_cons (by decide) _) hmonth.1 hmonth.2 (by omega), ok_bind]
  dsimp only
  rw [separator_part (by decide) (endsDigits_cons (by decide) _) hday.1 hday.2 (by omega), ok_bind]
  dsimp only [dateEnd]
  rw [if_pos (.inl rfl), ok_bind, part_padded (endsDigits_cons (by decide) _) (by omega) hhour (by omega),
    ok_bind]
  dsimp only
  rw [separator_part (by decide) (endsDigits_cons (by decide) _) (by omega) hminute (by omega), ok_bind]
  dsimp only
  rw [separator_part (by decide) hfraction (by omega) hsecond (by omega), ok_bind]
  dsimp only
  rw [fraction_fractionText hnanosecond (by decide) (by decide) [], ok_bind]
  rfl

/-- **The text of a timestamp is read as this timestamp.** -/
theorem Valid.readsBack (h : t.Valid) : t.ReadsBack := by
  obtain ⟨hmonth, hdayLow, hdayHigh⟩ := isDate_dateOfDay t.day
  have hmonthLength := daysInMonth_le (dateOfDay t.day).year (dateOfDay t.day).month
  have hyear : -2147483648 ≤ (dateOfDay t.day).year ∧ (dateOfDay t.day).year ≤ 2147483647 := by
    obtain ⟨hlow, hhigh⟩ := year_dateOfDay h.inYears
    simp only [yearBounds] at hlow hhigh
    omega
  have hsecond := h.second
  have hnanosecond := h.nanosecond
  have hparse (second nanosecond : Nat) (hsecond : second ≤ 60) (hnanosecond : nanosecond < 1000000000) :=
    parse_parts (t.second / 3600) (t.second / 60 % 60) second nanosecond hyear hmonth
      ⟨hdayLow, by omega⟩ (by omega) (by omega) hsecond hnanosecond
  have hlocal := ofLocal_dateOfDay h.inYears h.second t.nanosecond
  rw [ReadsBack, text, localText]
  simp only [List.append_assoc, List.cons_append]
  by_cases hleap : 1000000000 ≤ t.nanosecond
  -- A leap second is shown as the second after the last one of the minute.
  · have hlast := h.leap hleap
    have hclock : t.second / 3600 * 3600 + t.second / 60 % 60 * 60 + min (t.second % 60 + 1) 59 =
        t.second := by omega
    simp only [hleap, if_true]
    rw [hparse _ _ (by omega) (by omega), if_pos (by omega), hclock, Nat.sub_add_cancel hleap, hlocal]
  · have hclock : t.second / 3600 * 3600 + t.second / 60 % 60 * 60 + min (t.second % 60 + 0) 59 =
        t.second := by omega
    simp only [hleap, if_false]
    rw [hparse _ _ (by omega) (by omega), if_neg (by omega), hclock, hlocal]

/-- A leap second at the end of a 29th of February. -/
def leapSecond : Timestamp where
  day := 19782
  second := 86399
  nanosecond := 1500000000

/-- This leap second is within reach. -/
theorem valid_leapSecond : leapSecond.Valid where
  inYears := by decide
  second := by decide
  nanosecond := by decide
  leap := by decide

end StubServer.Timestamp
