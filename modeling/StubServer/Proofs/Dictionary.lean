import StubServer.Dictionary

/-!
# Laws of dictionaries

What `Dictionary.insert` and `Dictionary.erase` do to the value under a name, and to the list of the
names. A dictionary whose names are distinct is determined, up to the order of its entries, by its
values: this is `find?_eq_some_iff_mem`.
-/

namespace StubServer

/-- Without the entries of a key, this key has no value, and other keys keep theirs. -/
theorem lookup_filter_ne {κ α : Type} [BEq κ] [LawfulBEq κ] [DecidableEq κ] (key other : κ) (entries : List (κ × α)) :
    (entries.filter fun entry => entry.1 != key).lookup other =
      if other = key then none else entries.lookup other := by
  induction entries with
  | nil => simp
  | cons entry rest ih =>
      obtain ⟨name, value⟩ := entry
      by_cases hother : other = name
      · subst hother
        by_cases hname : other = key
        · simpa [hname] using ih
        · simp [hname]
      · have hne : (other == name) = false := by simpa using hother
        by_cases hname : name = key
        · subst hname
          simpa [List.lookup_cons, hne] using ih
        · simpa [hname, List.lookup_cons, hne] using ih

namespace Dictionary

variable {α : Type} {name other : String} {value : α} {d : Dictionary α}

/-- The names that have a value. -/
def names (d : Dictionary α) : List String :=
  d.map (·.1)

/-! ### Erasing -/

/-- An erased name has no value, and other names keep theirs. -/
theorem find?_erase (name other : String) (d : Dictionary α) :
    find? other (erase name d) = if other = name then none else find? other d :=
  lookup_filter_ne name other d

/-- Erasing keeps names distinct. -/
theorem nodup_names_erase (h : d.names.Nodup) (name : String) : (erase name d).names.Nodup :=
  h.sublist (List.filter_sublist.map _)

/-- An erased name is no name any more. -/
theorem notMem_names_erase (name : String) (d : Dictionary α) : name ∉ (erase name d).names := by
  simp [names, erase]

/-! ### Inserting -/

/-- An inserted name has the inserted value, and other names keep theirs. -/
theorem find?_insert (name other : String) (value : α) (d : Dictionary α) :
    find? other (insert name value d) = if other = name then some value else find? other d := by
  by_cases h : other = name
  · simp [find?, insert, h]
  · have hne : (other == name) = false := by simpa using h
    have herase := find?_erase name other d
    rw [if_neg h] at herase ⊢
    simpa [find?, insert, List.lookup_cons, hne] using herase

/-- Inserting keeps names distinct. -/
theorem nodup_names_insert (h : d.names.Nodup) (name : String) (value : α) :
    (insert name value d).names.Nodup :=
  List.nodup_cons.mpr ⟨notMem_names_erase name d, nodup_names_erase h name⟩

/-! ### Entries and values -/

/-- The value under a name stands in an entry. -/
theorem mem_of_find? (h : find? name d = some value) : (name, value) ∈ d := by
  induction d with
  | nil => simp [find?] at h
  | cons entry rest ih =>
      obtain ⟨key, v⟩ := entry
      by_cases hkey : name = key
      · subst hkey
        have hv : v = value := by simpa [find?] using h
        simp [hv]
      · have hne : (name == key) = false := by simpa using hkey
        have hrest : find? name rest = some value := by
          simpa [find?, List.lookup_cons, hne] using h
        exact List.mem_cons_of_mem _ (ih hrest)

/-- **Values are entries.** In a dictionary with distinct names, the value under a name is the one
that stands beside it. -/
theorem find?_eq_some_iff_mem (h : d.names.Nodup) :
    find? name d = some value ↔ (name, value) ∈ d := by
  refine ⟨mem_of_find?, fun hmem => ?_⟩
  induction d with
  | nil => simp at hmem
  | cons entry rest ih =>
      obtain ⟨key, v⟩ := entry
      obtain ⟨hkey, hrest⟩ := List.nodup_cons.mp h
      rcases List.mem_cons.mp hmem with heq | hmem
      · obtain ⟨rfl, rfl⟩ := Prod.mk.inj heq
        simp [find?]
      · have hne : name ≠ key := fun heq => hkey (heq ▸ List.mem_map_of_mem (f := (·.1)) hmem)
        have hne' : (name == key) = false := by simpa using hne
        simpa [find?, List.lookup_cons, hne'] using ih hrest hmem

end Dictionary

end StubServer
