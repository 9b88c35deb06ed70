import StubServer.Proofs.Except
import StubServer.Proofs.Json.Lexeme

/-!
# Where a number ends

A number that is read to the end of a text is read alike with anything behind it that does not go on with
a number. This holds of each part of it in turn: the digits of an exponent, the exponent with its sign, the
fraction, and the digits before them.

## Main statements

* `exponentPart_append`, `fractionPart_append`, `fractionOr_append`: what is behind the digits.
* `readNumber_append`: the number.
-/

namespace StubServer.Json

variable {text rest : Text} {c : Char} {d : Digits} {n : Number} {negative : Bool}

/-- A number in front of nothing is the same in front of something. -/
theorem map_ok_append {first : Except Error Number} {behind : Text}
    (h : (first.map fun n => (n, behind)) = .ok (n, [])) (rest : Text) :
    (first.map fun n => (n, behind ++ rest)) = .ok (n, rest) := by
  obtain ⟨m, rfl, heq⟩ := exists_of_map_eq_ok h
  obtain ⟨rfl, rfl⟩ := Prod.mk.inj heq
  rfl

/-! ### Exponents -/

/-- What the digits of an exponent make of a number. -/
def exponentDigits (negative down : Bool) (d : Digits) (text : Text) : Reading Number :=
  match text with
  | [] => .error .endOfValue
  | c :: _ =>
    if isDigit c then
      let size : Nat := (text.takeWhile isDigit).foldl (fun n c => n * 10 + digit c) 0
      let exponent : Int := if down then d.exponent - size else d.exponent + size
      (Digits.real negative { d with exponent }).map fun n => (n, text.dropWhile isDigit)
    else .error .invalidNumber

/-- An exponent without a sign. -/
theorem exponentPart_of_ne (hplus : c ≠ '+') (hminus : c ≠ '-') (negative : Bool) (d : Digits)
    (text : Text) :
    exponentPart negative d (c :: text) = exponentDigits negative false d (c :: text) := by
  unfold exponentPart
  split
  rename_i heq
  split at heq
  · rename_i hcons
    exact absurd (List.cons.inj hcons).1 hplus
  · rename_i hcons
    exact absurd (List.cons.inj hcons).1 hminus
  · obtain ⟨rfl, rfl⟩ := Prod.mk.inj heq
    rfl

/-- The digits of an exponent with something behind them. -/
theorem exponentDigits_append {down : Bool} (h : exponentDigits negative down d text = .ok (n, []))
    (hrest : EndsInteger rest) : exponentDigits negative down d (text ++ rest) = .ok (n, rest) := by
  cases text with
  | nil => cases h
  | cons c more =>
      have htake := takeWhile_append_of_endsDigits (c :: more) hrest.endsDigits
      have hdrop := dropWhile_append_of_endsDigits (c :: more) hrest.endsDigits
      rw [List.cons_append] at htake hdrop ⊢
      unfold exponentDigits at h ⊢
      simp only [htake, hdrop] at h ⊢
      by_cases hc : isDigit c = true
      · rw [if_pos hc] at h ⊢
        exact map_ok_append h rest
      · rw [if_neg hc] at h
        cases h

/-- An exponent with something behind it. -/
theorem exponentPart_append (h : exponentPart negative d text = .ok (n, [])) (hrest : EndsInteger rest) :
    exponentPart negative d (text ++ rest) = .ok (n, rest) := by
  cases text with
  | nil => cases h
  | cons c more =>
      by_cases hplus : c = '+'
      · subst hplus
        exact exponentDigits_append h hrest
      by_cases hminus : c = '-'
      · subst hminus
        exact exponentDigits_append h hrest
      rw [exponentPart_of_ne hplus hminus] at h
      rw [List.cons_append, exponentPart_of_ne hplus hminus]
      exact exponentDigits_append h hrest

/-- What is behind the digits of a number: an exponent, or nothing that belongs to it. -/
def exponentOr (negative : Bool) (d : Digits) (plain : Except Error Number) (text : Text) :
    Reading Number :=
  match text with
  | 'e' :: rest => exponentPart negative d rest
  | 'E' :: rest => exponentPart negative d rest
  | rest => plain.map fun n => (n, rest)

/-- Without the letter of an exponent nothing more belongs to the number. -/
theorem exponentOr_of_ne {plain : Except Error Number} (h : ∀ c ∈ text.head?, c ≠ 'e' ∧ c ≠ 'E') :
    exponentOr negative d plain text = plain.map fun n => (n, text) := by
  unfold exponentOr
  split
  · exact absurd rfl (h 'e' rfl).1
  · exact absurd rfl (h 'E' rfl).2
  · rfl

/-- An exponent, or nothing, with something behind it. -/
theorem exponentOr_append {plain : Except Error Number}
    (h : exponentOr negative d plain text = .ok (n, [])) (hrest : EndsInteger rest) :
    exponentOr negative d plain (text ++ rest) = .ok (n, rest) := by
  cases text with
  | nil =>
      have hne : ∀ c ∈ rest.head?, c ≠ 'e' ∧ c ≠ 'E' := by
        intro c hc
        constructor <;> rintro rfl <;> exact absurd (hrest _ hc) (by decide)
      rw [exponentOr_of_ne (by simp)] at h
      rw [List.nil_append, exponentOr_of_ne hne]
      exact map_ok_append h rest
  | cons c more =>
      by_cases hsmall : c = 'e'
      · subst hsmall
        exact exponentPart_append h hrest
      by_cases hcapital : c = 'E'
      · subst hcapital
        exact exponentPart_append h hrest
      have hne : ∀ d ∈ (c :: more).head?, d ≠ 'e' ∧ d ≠ 'E' := by
        rintro _ ⟨⟩
        exact ⟨hsmall, hcapital⟩
      rw [exponentOr_of_ne hne] at h
      obtain ⟨m, -, heq⟩ := exists_of_map_eq_ok h
      cases heq

/-! ### Fractions -/

/-- A fraction has digits, and then an exponent or nothing. -/
theorem fractionPart_eq (h : text.takeWhile isDigit ≠ []) :
    fractionPart negative d text =
      let d := (text.takeWhile isDigit).foldl (fun d c => d.pushFraction (digit c)) { d with full := false }
      exponentOr negative d (Digits.real negative d) (text.dropWhile isDigit) := by
  unfold fractionPart exponentOr
  obtain ⟨first, more, hdigits⟩ := List.exists_cons_of_ne_nil h
  rw [hdigits]
  cases text.dropWhile isDigit with
  | nil => rfl
  | cons c behind =>
      by_cases hsmall : c = 'e'
      · subst hsmall
        rfl
      by_cases hcapital : c = 'E'
      · subst hcapital
        rfl
      simp [hsmall, hcapital]

/-- A fraction with something behind it. -/
theorem fractionPart_append (h : fractionPart negative d text = .ok (n, [])) (hrest : EndsInteger rest) :
    fractionPart negative d (text ++ rest) = .ok (n, rest) := by
  have htake := takeWhile_append_of_endsDigits text hrest.endsDigits
  have hdrop := dropWhile_append_of_endsDigits text hrest.endsDigits
  by_cases hdigits : text.takeWhile isDigit = []
  · cases hbehind : text.dropWhile isDigit <;> simp [fractionPart, hdigits, hbehind] at h
  · rw [fractionPart_eq hdigits] at h
    rw [fractionPart_eq (by rwa [htake]), htake, hdrop]
    exact exponentOr_append h hrest

/-- What is behind the digits of a number: a fraction, an exponent, or nothing that belongs to it. -/
def fractionOr (negative : Bool) (d : Digits) (plain : Except Error Number) (text : Text) : Reading Number :=
  match text with
  | '.' :: rest => fractionPart negative d rest
  | rest => exponentOr negative d plain rest

/-- Without a point there is no fraction. -/
theorem fractionOr_of_ne {plain : Except Error Number} (h : ∀ c ∈ text.head?, c ≠ '.') :
    fractionOr negative d plain text = exponentOr negative d plain text := by
  unfold fractionOr
  split
  · exact absurd rfl (h '.' rfl)
  · rfl

/-- A fraction, an exponent, or nothing, with something behind it. -/
theorem fractionOr_append {plain : Except Error Number} (h : fractionOr negative d plain text = .ok (n, []))
    (hrest : EndsInteger rest) : fractionOr negative d plain (text ++ rest) = .ok (n, rest) := by
  cases text with
  | nil =>
      have hne : ∀ c ∈ rest.head?, c ≠ '.' := by
        rintro c hc rfl
        exact absurd (hrest _ hc) (by decide)
      rw [fractionOr_of_ne (by simp)] at h
      rw [List.nil_append, fractionOr_of_ne hne]
      exact exponentOr_append h hrest
  | cons c more =>
      by_cases hpoint : c = '.'
      · subst hpoint
        exact fractionPart_append h hrest
      have hne : ∀ d ∈ (c :: more).head?, d ≠ '.' := by
        rintro _ ⟨⟩
        exact hpoint
      rw [fractionOr_of_ne hne] at h
      rw [List.cons_append, fractionOr_of_ne (by rintro _ ⟨⟩; exact hpoint)]
      exact exponentOr_append h hrest

/-! ### Numbers -/

/-- A number has digits, and then a fraction, an exponent or nothing. -/
theorem readNumber_eq (hc : isDigit c = true) (hzero : ¬ (c = '0' ∧ (text.head?.any isDigit) = true)) :
    readNumber negative (c :: text) =
      let d : Digits := ((c :: text).takeWhile isDigit).foldl (fun d c => d.pushWhole (digit c)) {}
      fractionOr negative d (if d.full then Digits.real negative d else .ok (d.integer negative))
        ((c :: text).dropWhile isDigit) := by
  unfold readNumber
  simp only [hc, if_neg hzero, Bool.not_true, Bool.false_eq_true, if_false]
  cases (c :: text).dropWhile isDigit with
  | nil =>
      simp only [fractionOr, exponentOr]
      split <;> rfl
  | cons d behind =>
      by_cases hpoint : d = '.'
      · subst hpoint
        rfl
      by_cases hsmall : d = 'e'
      · subst hsmall
        rfl
      by_cases hcapital : d = 'E'
      · subst hcapital
        rfl
      simp [fractionOr, exponentOr, hpoint, hsmall, hcapital]
      split <;> rfl

/-- What is read as a number starts with a digit, after which no zero is superfluous. -/
theorem exists_of_readNumber_eq_ok {behind : Text} (h : readNumber negative text = .ok (n, behind)) :
    ∃ c more, text = c :: more ∧ isDigit c = true ∧ ¬ (c = '0' ∧ (more.head?.any isDigit) = true) := by
  cases text with
  | nil => cases h
  | cons c more =>
      cases hc : isDigit c with
      | false => simp [readNumber, hc] at h
      | true =>
          refine ⟨c, more, rfl, hc, fun hzero => ?_⟩
          simp [readNumber, hzero] at h

/-- **A number with something behind it** that does not go on with a number. -/
theorem readNumber_append (h : readNumber negative text = .ok (n, [])) (hrest : EndsInteger rest) :
    readNumber negative (text ++ rest) = .ok (n, rest) := by
  obtain ⟨c, more, rfl, hc, hzero⟩ := exists_of_readNumber_eq_ok h
  have hzeroRest : ¬ (c = '0' ∧ ((more ++ rest).head?.any isDigit) = true) := by
    cases more with
    | nil => exact not_leadingZero (fun _ => rfl) hrest.endsDigits
    | cons d more => exact hzero
  rw [readNumber_eq hc hzero] at h
  rw [List.cons_append, readNumber_eq hc hzeroRest, ← List.cons_append,
    takeWhile_append_of_endsDigits _ hrest.endsDigits, dropWhile_append_of_endsDigits _ hrest.endsDigits]
  exact fractionOr_append h hrest

end StubServer.Json
