import StubServer.Rule.Basic

/-!
# Letter case

Only the ASCII letters have two cases here. `asciiUpper_asciiLower` and `asciiUpper_asciiUpper` say
that nothing but the case is lost on the way to the other one, so that texts in capitals can be
compared in lower case (`asciiLower_asciiUpper_inj`).
-/

namespace StubServer

/-! ### Characters -/

/-- The number of a character in lower case. -/
theorem toNat_toLower (c : Char) :
    c.toLower.toNat = if 65 ≤ c.toNat ∧ c.toNat ≤ 90 then c.toNat + 32 else c.toNat := by
  unfold Char.toLower
  split
  · rename_i h
    obtain ⟨hA, hZ⟩ := h
    have hA : 65 ≤ c.toNat := UInt32.le_iff_toNat_le.mp hA
    have hZ : c.toNat ≤ 90 := UInt32.le_iff_toNat_le.mp hZ
    have hval : (c.val + 32).toNat = (c.toNat + 32) % 2 ^ 32 := UInt32.toNat_add _ _
    rw [if_pos ⟨hA, hZ⟩]
    exact hval.trans (Nat.mod_eq_of_lt (by omega))
  · rename_i h
    rw [if_neg]
    exact fun h' => h ⟨UInt32.le_iff_toNat_le.mpr h'.1, UInt32.le_iff_toNat_le.mpr h'.2⟩

/-- The number of a character in capitals. -/
theorem toNat_toUpper (c : Char) :
    c.toUpper.toNat = if 97 ≤ c.toNat ∧ c.toNat ≤ 122 then c.toNat - 32 else c.toNat := by
  unfold Char.toUpper
  split
  · rename_i h
    obtain ⟨ha, hz⟩ := h
    have ha : 97 ≤ c.toNat := UInt32.le_iff_toNat_le.mp ha
    have hz : c.toNat ≤ 122 := UInt32.le_iff_toNat_le.mp hz
    -- Taking 32 away is adding its complement to 2 ^ 32.
    have hval : (c.val + 4294967264).toNat = (c.toNat + 4294967264) % 2 ^ 32 :=
      UInt32.toNat_add _ _
    rw [if_pos ⟨ha, hz⟩]
    refine hval.trans ?_
    omega
  · rename_i h
    rw [if_neg]
    exact fun h' => h ⟨UInt32.le_iff_toNat_le.mpr h'.1, UInt32.le_iff_toNat_le.mpr h'.2⟩

/-! ### Texts -/

/-- Texts are the same if the numbers of their characters are. -/
theorem ofList_map_congr {f g : Char → Char} (h : ∀ c, (f c).toNat = (g c).toNat) (s : List Char) :
    String.ofList (s.map f) = String.ofList (s.map g) :=
  congrArg String.ofList (List.map_congr_left fun c _ => Char.toNat_inj.mp (h c))

/-- Capitals undo lower case. -/
theorem asciiUpper_asciiLower (s : String) : asciiUpper (asciiLower s) = asciiUpper s := by
  rw [asciiUpper, asciiLower, String.toList_ofList, List.map_map]
  refine ofList_map_congr (fun c => ?_) s.toList
  rw [Function.comp_apply, toNat_toUpper, toNat_toLower, toNat_toUpper]
  grind

/-- Capitals stay capitals. -/
theorem asciiUpper_asciiUpper (s : String) : asciiUpper (asciiUpper s) = asciiUpper s := by
  rw [asciiUpper, asciiUpper, String.toList_ofList, List.map_map]
  refine ofList_map_congr (fun c => ?_) s.toList
  rw [Function.comp_apply, toNat_toUpper, toNat_toUpper]
  grind

/-- Lower case stays lower case. -/
theorem asciiLower_asciiLower (s : String) : asciiLower (asciiLower s) = asciiLower s := by
  rw [asciiLower, asciiLower, String.toList_ofList, List.map_map]
  refine ofList_map_congr (fun c => ?_) s.toList
  rw [Function.comp_apply, toNat_toLower, toNat_toLower]
  grind

/-- **Texts in capitals** agree in lower case only if they agree. -/
theorem asciiLower_asciiUpper_inj {s t : String} :
    asciiLower (asciiUpper s) = asciiLower (asciiUpper t) ↔ asciiUpper s = asciiUpper t := by
  refine ⟨fun h => ?_, congrArg asciiLower⟩
  have h' := congrArg asciiUpper h
  rwa [asciiUpper_asciiLower, asciiUpper_asciiLower, asciiUpper_asciiUpper,
    asciiUpper_asciiUpper] at h'

end StubServer
