/-!
# Steps that may fail

What a step followed by others comes to: `ok_bind` if it succeeds, and `exists_of_bind_eq_ok` if all of them
together do. A reading step succeeds with a pair of what was read and where the rest begins;
`fst_eq_of_ok_eq` tells the former.
-/

namespace StubServer

variable {ε α β : Type}

/-- A step that succeeds hands its result on. -/
theorem ok_bind (a : α) (next : α → Except ε β) : (.ok a >>= next) = next a :=
  rfl

/-- Steps that succeed together succeed one after the other. -/
theorem exists_of_bind_eq_ok {first : Except ε α} {next : α → Except ε β} {b : β}
    (h : (first >>= next) = .ok b) : ∃ a, first = .ok a ∧ next a = .ok b := by
  cases first with
  | error e => cases h
  | ok a => exact ⟨a, rfl, h⟩

/-- A step that is changed and succeeds has succeeded. -/
theorem exists_of_map_eq_ok {first : Except ε α} {change : α → β} {b : β}
    (h : first.map change = .ok b) : ∃ a, first = .ok a ∧ change a = b := by
  cases first with
  | error e => cases h
  | ok a => exact ⟨a, rfl, Except.ok.inj h⟩

/-- The result of a step is there if the step succeeds. -/
theorem toOption_eq_some_iff {step : Except ε α} {a : α} : step.toOption = some a ↔ step = .ok a := by
  cases step <;> simp [Except.toOption]

/-- What was read in a step that succeeds in one way only. -/
theorem fst_eq_of_ok_eq {a c : α} {b d : β} (h : (.ok (a, b) : Except ε (α × β)) = .ok (c, d)) : a = c :=
  (Prod.mk.inj (Except.ok.inj h)).1

end StubServer
