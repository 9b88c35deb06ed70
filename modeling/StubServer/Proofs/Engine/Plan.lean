import StubServer.Engine.Plan
import StubServer.Proofs.Store.Call

/-!
# What operations come to

Each operation is refused before it has written anything, or ends with a single call that writes: these are
`createOne_ends`, `update_ends`, `toggle_ends` and `delete_ends`.

So it either fails and leaves the table alone, or does one thing to the table and says how the index has to
change: these are `create_cases`, `update_cases`, `delete_cases`, `toggle_cases` and `reload_cases`. Creating
several rules may stop after any number of them; what was done until then is the relation `Creates`, in
`create_creates` and `createBatch_creates`, provided the keys that are drawn for it are new (`DrawsFresh`,
`DrawsFreshEach`).
-/

namespace StubServer.Plan

open Index (Edit)

variable {env : Surroundings} {store : Store} {rule : Rule} {rules known : List Rule} {id : Int}

/-! ### How operations end -/

/-- Reading all rules fails, or they are gone on with. -/
theorem withAll_cases {α : Type} (condition : Store.Condition) (store : Store) (next : List Rule → Plan α) :
    (∃ error, withRead (store.loadAll condition) store next = fail error store) ∨
      withRead (store.loadAll condition) store next = next store.table.all := by
  unfold withRead
  cases hread : store.loadAll condition with
  | error e => exact .inl ⟨_, rfl⟩
  | ok rules =>
      obtain rfl := Store.eq_of_loadAll hread
      exact .inr rfl

/-- Going on with a stored rule fails, or there is one with the number. -/
theorem withExisting_cases {α : Type} (condition : Store.Condition) (id : Int) (store : Store)
    (next : Rule → Plan α) :
    (∃ error, withExisting condition id store next = fail error store) ∨
      ∃ existing, store.table.find? id = some existing ∧
        withExisting condition id store next = next existing := by
  unfold withExisting withRead
  cases hread : store.load condition id with
  | error e => exact .inl ⟨_, rfl⟩
  | ok found =>
      obtain rfl := Store.eq_of_load hread
      cases hfind : store.table.find? id with
      | none => exact .inl ⟨_, rfl⟩
      | some existing => exact .inr ⟨existing, rfl, rfl⟩

/-- A rule has problems, or is valid and gone on with. -/
theorem withValid_cases {α : Type} (rule : Rule) (store : Store) (next : Plan α) :
    (∃ problems, withValid rule store next = fail (.invalid problems) store) ∨
      (rule.validate = .ok () ∧ withValid rule store next = next) := by
  unfold withValid
  cases rule.validate with
  | error problems => exact .inl ⟨problems, rfl⟩
  | ok _ => exact .inr ⟨rfl, rfl⟩

/-- Rules that are all valid are gone on with, and others change nothing. -/
theorem withAllValid_cases {α : Type} (rules : List Rule) (store : Store) (next : Plan α) :
    (∃ problems, withAllValid rules store next = fail (.invalid problems) store) ∨
      withAllValid rules store next = next := by
  induction rules with
  | nil => exact .inr rfl
  | cons rule rest ih =>
      rw [withAllValid]
      rcases withValid_cases rule store (withAllValid rest store next) with ⟨problems, heq⟩ | ⟨-, heq⟩
      · exact .inl ⟨problems, heq⟩
      · rwa [heq]

/-- Creating one rule is refused, or ends with saving it under a key that no known rule has. -/
theorem createOne_ends (env : Surroundings) (i : Nat) (known : List Rule) (rule : Rule) (store : Store) :
    (∃ error, createOne env i known rule store = fail error store) ∨
      (rule.validate = .ok () ∧ rule.externalKey.filter (isTaken known) = none ∧
        createOne env i known rule store =
          endingWith (store.save (env.condition (i + 1)) (prepared rule (env.freshKey i) (env.clock i)))
            (fun saved => saved) fun saved => [.add saved]) := by
  unfold createOne
  rcases withValid_cases rule store _ with ⟨problems, heq⟩ | ⟨hvalid, heq⟩
  · exact .inl ⟨_, heq⟩
  · rw [heq]
    cases htaken : rule.externalKey.filter (isTaken known) with
    | some key => exact .inl ⟨_, rfl⟩
    | none => exact .inr ⟨hvalid, rfl, rfl⟩

/-- **Updating** is refused, or ends with saving the revised rule. -/
theorem update_ends (env : Surroundings) (id : Int) (changes : Rule) (store : Store) :
    (∃ error, update env id changes store = fail error store) ∨
      ∃ existing, store.table.find? id = some existing ∧
        (revised existing changes (env.clock 0)).validate = .ok () ∧
        update env id changes store =
          endingWith (store.save (env.condition 1) (revised existing changes (env.clock 0)))
            (fun saved => saved) fun saved =>
              (if !saved.enabled || saved.key != existing.key then [.remove existing.key] else []) ++
                [.add saved] := by
  unfold update
  rcases withExisting_cases (env.condition 0) id store _ with ⟨error, heq⟩ | ⟨existing, hfind, heq⟩
  · exact .inl ⟨error, heq⟩
  · rw [heq]
    rcases withValid_cases (revised existing changes (env.clock 0)) store _ with
      ⟨problems, heq⟩ | ⟨hvalid, heq⟩
    · exact .inl ⟨_, heq⟩
    · exact .inr ⟨existing, hfind, hvalid, heq⟩

/-- **Toggling** is refused, or ends with saving the toggled rule. -/
theorem toggle_ends (env : Surroundings) (id : Int) (store : Store) :
    (∃ error, toggle env id store = fail error store) ∨
      ∃ existing, store.table.find? id = some existing ∧
        toggle env id store =
          endingWith (store.save (env.condition 1) (toggled existing (env.clock 0)))
            (fun saved => saved) fun saved =>
              [if saved.enabled then .add saved else .remove saved.key] :=
  withExisting_cases (env.condition 0) id store _

/-- **Deleting** is refused, or ends with deleting the rule. -/
theorem delete_ends (env : Surroundings) (id : Int) (store : Store) :
    (∃ error, delete env id store = fail error store) ∨
      ∃ existing, store.table.find? id = some existing ∧
        delete env id store =
          endingWith (store.delete (env.condition 1) id) (fun _ => ()) fun _ => [.remove existing.key] :=
  withExisting_cases (env.condition 0) id store _

/-! ### What is created -/

/-- Creating one rule fails and leaves the table alone, or saves the rule, which is valid and brings no key of
a known one. -/
theorem createOne_cases (env : Surroundings) (i : Nat) (known : List Rule) (rule : Rule) (store : Store) :
    (∃ error after, createOne env i known rule store = fail error after ∧
      after.table = store.table) ∨
    ∃ saved after, rule.validate = .ok () ∧ rule.externalKey.filter (isTaken known) = none ∧
      store.table.save (prepared rule (env.freshKey i) (env.clock i)) = .ok (saved, after.table) ∧
      createOne env i known rule store = { result := .ok saved, store := after, edits := [.add saved] } := by
  rcases createOne_ends env i known rule store with ⟨error, heq⟩ | ⟨hvalid, htaken, heq⟩
  · exact .inl ⟨error, store, heq, rfl⟩
  · rw [heq]
    rcases Store.save_cases (env.condition (i + 1)) (prepared rule (env.freshKey i) (env.clock i)) store with
      ⟨error, after, hcall, htable⟩ | ⟨saved, after, hcall, hsave⟩
    · rw [hcall]
      exact .inl ⟨_, after, rfl, htable⟩
    · rw [hcall]
      exact .inr ⟨saved, after, hvalid, htaken, hsave, rfl⟩

/-- **Creating** fails and leaves the table alone, or saves the rule, which is valid and brings no key of a stored
one. -/
theorem create_cases (env : Surroundings) (rule : Rule) (store : Store) :
    (∃ error after, create env rule store = fail error after ∧ after.table = store.table) ∨
    ∃ saved after, rule.validate = .ok () ∧ rule.externalKey.filter (isTaken store.table.all) = none ∧
      store.table.save (prepared rule (env.freshKey 0) (env.clock 0)) = .ok (saved, after.table) ∧
      create env rule store = { result := .ok saved, store := after, edits := [.add saved] } := by
  unfold create
  rcases withAll_cases (env.condition 0) store fun known => createOne env 0 known rule store with
    ⟨error, heq⟩ | heq
  · exact .inl ⟨error, store, heq, rfl⟩
  · rw [heq]
    exact createOne_cases env 0 store.table.all rule store

/-! ### Keys that are drawn -/

/-- A key that is drawn for a rule without one belongs to none of the known rules. -/
def DrawsFresh (env : Surroundings) (i : Nat) (known : List Rule) (rule : Rule) : Prop :=
  rule.externalKey = none → isTaken known (env.freshKey i) = false

/-- The keys that are drawn while several rules are created, the first of them as the `i`-th of its
operation, are new each time, whatever numbers the rules get. -/
def DrawsFreshEach (env : Surroundings) : (i : Nat) → (known rules : List Rule) → Prop
  | _, _, [] => True
  | i, known, rule :: rest =>
    if known.any fun other => other.sameRoute rule then DrawsFreshEach env (i + 1) known rest
    else
      DrawsFresh env i known rule ∧
        ∀ id, DrawsFreshEach env (i + 1)
          (known ++ [{ prepared rule (env.freshKey i) (env.clock i) with id }]) rest

/-! ### Creating -/

/-- Creating rules one after the other beside known ones: which rules get stored, each under a key that
no known rule has, and the table in the end. It may stop at any rule. -/
inductive Creates : (known brought : List Rule) → Table → (created : List Rule) → Table → Prop
  | stop {known brought : List Rule} {table : Table} : Creates known brought table [] table
  | skip {known rest created : List Rule} {rule : Rule} {table after : Table} :
      Creates known rest table created after →
      Creates known (rule :: rest) table created after
  | create {known rest created : List Rule} {rule saved : Rule} {freshKey : String} {now : Timestamp}
      {table next after : Table} :
      rule.validate = .ok () → isTaken known (rule.externalKey.getD freshKey) = false →
      table.save (prepared rule freshKey now) = .ok (saved, next) →
      Creates (known ++ [saved]) rest next created after →
      Creates known (rule :: rest) table (saved :: created) after

/-- Creating rules keeps a table well-formed. -/
theorem Creates.wellFormed {brought created : List Rule} {table after : Table}
    (h : Creates known brought table created after) (hwf : table.WellFormed) : after.WellFormed := by
  induction h with
  | stop => exact hwf
  | skip _ ih => exact ih hwf
  | create _ _ hsave _ ih => exact ih (hwf.save hsave)

/-- The key that a rule gets is new if no known rule has the one that it brings, or a drawn one is new. -/
theorem DrawsFresh.isTaken_eq_false {i : Nat} (hfresh : DrawsFresh env i known rule)
    (htaken : rule.externalKey.filter (isTaken known) = none) :
    isTaken known (rule.externalKey.getD (env.freshKey i)) = false := by
  cases hkey : rule.externalKey with
  | none => exact hfresh hkey
  | some key => simpa [hkey, Option.filter_eq_none_iff] using htaken

/-- Creating several rules stores some of them and adds these to the index, in the same order. -/
theorem createEach_creates (env : Surroundings) (i : Nat) (known rules : List Rule) (store : Store)
    (hfresh : DrawsFreshEach env i known rules) :
    ∃ created, Creates known rules store.table created
        (createEach env i known rules store).store.table ∧
      (createEach env i known rules store).edits = created.map .add := by
  induction rules generalizing i known store with
  | nil => exact ⟨[], .stop, rfl⟩
  | cons rule rest ih =>
      rw [DrawsFreshEach] at hfresh
      rw [createEach]
      split
      · rename_i hroute
        rw [if_pos hroute] at hfresh
        obtain ⟨created, hcreates, hedits⟩ := ih (i + 1) known store hfresh
        exact ⟨created, .skip hcreates, hedits⟩
      · rename_i hroute
        rw [if_neg hroute] at hfresh
        obtain ⟨hfresh, hothers⟩ := hfresh
        rcases createOne_cases env i known rule store with
          ⟨error, after, heq, htable⟩ | ⟨saved, after, hvalid, htaken, hsave, heq⟩
        · refine ⟨[], ?_, by simp [heq, fail]⟩
          simp only [heq, fail, htable]
          exact .stop
        · obtain ⟨id, hsaved, -⟩ := Table.rows_of_save hsave
          have hothers := hothers (some id)
          rw [← hsaved] at hothers
          obtain ⟨created, hcreates, hedits⟩ := ih (i + 1) (known ++ [saved]) after hothers
          refine ⟨saved :: created, ?_, ?_⟩
          · simp only [heq]
            exact .create hvalid (hfresh.isTaken_eq_false htaken) hsave hcreates
          · simp [heq, hedits]

/-- Creating a rule stores it and adds it to the index, or does nothing. -/
theorem create_creates (env : Surroundings) (rule : Rule) (store : Store)
    (hfresh : DrawsFresh env 0 store.table.all rule) :
    ∃ created, Creates store.table.all [rule] store.table created
        (create env rule store).store.table ∧
      (create env rule store).edits = created.map .add := by
  rcases create_cases env rule store with
    ⟨error, after, heq, htable⟩ | ⟨saved, after, hvalid, htaken, hsave, heq⟩
  · refine ⟨[], ?_, by simp [heq, fail]⟩
    simp only [heq, fail, htable]
    exact .stop
  · rw [heq]
    exact ⟨[saved], .create hvalid (hfresh.isTaken_eq_false htaken) hsave .stop, rfl⟩

/-- Creating several rules stores some of them and adds these to the index. -/
theorem createBatch_creates (env : Surroundings) (rules : List Rule) (store : Store)
    (hfresh : DrawsFreshEach env 0 store.table.all rules) :
    ∃ created, Creates store.table.all rules store.table created
        (createBatch env rules store).store.table ∧
      (createBatch env rules store).edits = created.map .add := by
  unfold createBatch
  rcases withAll_cases (env.condition 0) store fun known => createEach env 0 known rules store with
    ⟨error, heq⟩ | heq
  · rw [heq]
    exact ⟨[], .stop, rfl⟩
  · rw [heq]
    exact createEach_creates env 0 store.table.all rules store hfresh

/-! ### Changing -/

/-- **Updating** fails and leaves the table alone, or saves the revised rule. -/
theorem update_cases (env : Surroundings) (id : Int) (changes : Rule) (store : Store) :
    (∃ error after, update env id changes store = fail error after ∧ after.table = store.table) ∨
    ∃ existing saved after, store.table.find? id = some existing ∧
      (revised existing changes (env.clock 0)).validate = .ok () ∧
      store.table.save (revised existing changes (env.clock 0)) = .ok (saved, after.table) ∧
      update env id changes store =
        { result := .ok saved
          store := after
          edits := (if !saved.enabled || saved.key != existing.key then [.remove existing.key] else []) ++
            [.add saved] } := by
  rcases update_ends env id changes store with ⟨error, heq⟩ | ⟨existing, hfind, hvalid, heq⟩
  · exact .inl ⟨error, store, heq, rfl⟩
  · rw [heq]
    rcases Store.save_cases (env.condition 1) (revised existing changes (env.clock 0)) store with
      ⟨error, after, hcall, htable⟩ | ⟨saved, after, hcall, hsave⟩
    · rw [hcall]
      exact .inl ⟨_, after, rfl, htable⟩
    · rw [hcall]
      exact .inr ⟨existing, saved, after, hfind, hvalid, hsave, rfl⟩

/-- **Toggling** fails and leaves the table alone, or saves the toggled rule. -/
theorem toggle_cases (env : Surroundings) (id : Int) (store : Store) :
    (∃ error after, toggle env id store = fail error after ∧ after.table = store.table) ∨
    ∃ existing saved after, store.table.find? id = some existing ∧
      store.table.save (toggled existing (env.clock 0)) = .ok (saved, after.table) ∧
      toggle env id store =
        { result := .ok saved
          store := after
          edits := [if saved.enabled then .add saved else .remove saved.key] } := by
  rcases toggle_ends env id store with ⟨error, heq⟩ | ⟨existing, hfind, heq⟩
  · exact .inl ⟨error, store, heq, rfl⟩
  · rw [heq]
    rcases Store.save_cases (env.condition 1) (toggled existing (env.clock 0)) store with
      ⟨error, after, hcall, htable⟩ | ⟨saved, after, hcall, hsave⟩
    · rw [hcall]
      exact .inl ⟨_, after, rfl, htable⟩
    · rw [hcall]
      exact .inr ⟨existing, saved, after, hfind, hsave, rfl⟩

/-- **Deleting** fails and leaves the table alone, or deletes the rule from it. -/
theorem delete_cases (env : Surroundings) (id : Int) (store : Store) :
    (∃ error after, delete env id store = fail error after ∧ after.table = store.table) ∨
    ∃ existing after, store.table.find? id = some existing ∧
      after.table = (store.table.delete id).2 ∧
      delete env id store =
        { result := .ok (), store := after, edits := [.remove existing.key] } := by
  rcases delete_ends env id store with ⟨error, heq⟩ | ⟨existing, hfind, heq⟩
  · exact .inl ⟨error, store, heq, rfl⟩
  · rw [heq]
    rcases Store.delete_cases (env.condition 1) id store with
      ⟨error, after, hcall, htable⟩ | ⟨found, after, hcall, htable⟩
    · rw [hcall]
      exact .inl ⟨_, after, rfl, htable⟩
    · rw [hcall]
      exact .inr ⟨existing, after, hfind, htable, rfl⟩

/-- **Reloading** fails, or fills the index from all rules. -/
theorem reload_cases (env : Surroundings) (store : Store) :
    (∃ error, reload env store = fail error store) ∨
      reload env store = { result := .ok (), store, edits := [.reload store.table.all] } := by
  unfold reload
  exact withAll_cases (env.condition 0) store _

end StubServer.Plan
