import StubServer.Proofs.Engine.Contract
import StubServer.Proofs.Engine.Failure

/-!
# Creating several rules is creating them in turn

Creating several rules does what creating them one after the other does, each by a call of its own, without
those for the method and URL pattern of a rule that is stored at that moment. It reads the stored rules only
once and remembers what it adds to them. So the two part only at a rule that fares differently beside what is
remembered than beside what is stored (`Engine.Misjudges`), and for that a number in use must have been given
anew (`Engine.Misjudges.recycles`).

## Main statements

* `Plan.createEach_append`: creating rules, and then others.
* `Plan.createEach_singleton`: what becomes of one rule beside known ones.
* `Engine.createInTurn`: the calls one after the other.
* `Engine.inTurn_iff`: when creating any first part of a list of rules is creating them in turn.
-/

namespace StubServer

/-- What the creation of the `i`-th of several rules meets, as it is met by a call of its own. All rules are
read as they are for the several. -/
def Surroundings.alone (env : Surroundings) (i : Nat) : Surroundings where
  condition := fun k => if k = 0 then env.condition 0 else env.condition (i + k)
  clock := fun k => env.clock (i + k)
  freshKey := fun k => env.freshKey (i + k)

/-! ### Operations -/

namespace Plan

variable {α : Type} {env : Surroundings} {i : Nat} {store : Store} {rule : Rule}
  {known others rules saved before : List Rule}

/-! #### Valid rules -/

/-- Rules that are all valid are gone on with. -/
theorem withAllValid_of_valid (hvalid : ∀ rule ∈ rules, rule.validate = .ok ()) (store : Store)
    (next : Plan α) : withAllValid rules store next = next := by
  induction rules with
  | nil => rfl
  | cons rule rest ih =>
      obtain ⟨hrule, hrest⟩ := List.forall_mem_cons.mp hvalid
      rw [withAllValid, ih hrest, withValid, hrule]

/-- The first rule with problems is the one that is refused. -/
theorem withAllValid_of_problems {problems : List Rule.Problem}
    (hbefore : ∀ other ∈ before, other.validate = .ok ()) (hrule : rule.validate = .error problems)
    (rest : List Rule) (store : Store) (next : Plan α) :
    withAllValid (before ++ rule :: rest) store next = fail (.invalid problems) store := by
  induction before with
  | nil => rw [List.nil_append, withAllValid, withValid, hrule]
  | cons other before ih =>
      obtain ⟨hother, hothers⟩ := List.forall_mem_cons.mp hbefore
      rw [List.cons_append, withAllValid, ih hothers, withValid, hother]

/-- If something comes of rules, they are all valid. -/
theorem valid_of_withAllValid {next : Plan α} {result : α}
    (hok : (withAllValid rules store next).result = .ok result) : ∀ rule ∈ rules, rule.validate = .ok () := by
  induction rules with
  | nil => simp
  | cons rule rest ih =>
      rw [withAllValid] at hok
      rcases withValid_cases rule store (withAllValid rest store next) with ⟨problems, heq⟩ | ⟨hvalid, heq⟩
      · rw [heq] at hok
        cases hok
      · rw [heq] at hok
        exact List.forall_mem_cons.mpr ⟨hvalid, ih hok⟩

/-! #### One rule -/

/-- What may become of a valid rule, unless the store fails. -/
inductive Verdict where
  | skipped
  | refused (key : String)
  | created
  deriving DecidableEq

/-- What becomes of a valid rule beside known ones. -/
def verdict (known : List Rule) (rule : Rule) : Verdict :=
  if known.any fun other => other.sameRoute rule then .skipped
  else
    match rule.externalKey.filter (isTaken known) with
    | some key => .refused key
    | none => .created

/-- What became of a rule, by the result. -/
def revealed : Except EngineError (List Rule) → Verdict
  | .ok [] => .skipped
  | .error (.keyTaken key) => .refused key
  | _ => .created

/-- Creating a valid rule is refused for its key, or ends with saving the rule. -/
theorem createOne_of_valid (hvalid : rule.validate = .ok ()) (env : Surroundings) (i : Nat) (known : List Rule)
    (store : Store) :
    createOne env i known rule store =
      match rule.externalKey.filter (isTaken known) with
      | some key => fail (.keyTaken key) store
      | none =>
        endingWith (store.save (env.condition (i + 1)) (prepared rule (env.freshKey i) (env.clock i)))
          (fun saved => saved) fun saved => [.add saved] := by
  rw [createOne, withValid, hvalid]
  rfl

/-- **One rule** is skipped, refused or saved. What is known has no other part in it. -/
theorem createEach_singleton (hvalid : rule.validate = .ok ()) (env : Surroundings) (i : Nat)
    (known : List Rule) (store : Store) :
    createEach env i known [rule] store =
      match verdict known rule with
      | .skipped => { result := .ok [], store }
      | .refused key => fail (.keyTaken key) store
      | .created =>
        endingWith (store.save (env.condition (i + 1)) (prepared rule (env.freshKey i) (env.clock i)))
          (fun saved => [saved]) fun saved => [.add saved] := by
  rw [createEach, verdict, createOne_of_valid hvalid]
  split
  · rfl
  · cases rule.externalKey.filter (isTaken known) with
    | some key => rfl
    | none =>
        dsimp only
        cases store.save (env.condition (i + 1)) (prepared rule (env.freshKey i) (env.clock i)) with
        | mk result after => cases result <;> rfl

/-- The result tells what became of the rule. -/
theorem revealed_createEach (hvalid : rule.validate = .ok ()) (env : Surroundings) (i : Nat)
    (known : List Rule) (store : Store) :
    revealed (createEach env i known [rule] store).result = verdict known rule := by
  rw [createEach_singleton hvalid]
  cases verdict known rule with
  | skipped => rfl
  | refused key => rfl
  | created =>
      dsimp only
      cases store.save (env.condition (i + 1)) (prepared rule (env.freshKey i) (env.clock i)) with
      | mk result after => cases result <;> rfl

/-- What becomes of a rule depends on which rules are known, not on their order. -/
theorem verdict_perm (h : known.Perm others) (rule : Rule) : verdict known rule = verdict others rule := by
  have htaken : isTaken known = isTaken others := funext fun key => h.any_eq
  rw [verdict, verdict, h.any_eq, htaken]

/-! #### One list after the other -/

/-- Creates others after the rules that were created, unless those failed. -/
def goOn (first : Plan (List Rule)) (next : List Rule → Store → Plan (List Rule)) : Plan (List Rule) :=
  match first.result with
  | .error _ => first
  | .ok created =>
    let others := next created first.store
    { result := others.result.map (created ++ ·)
      store := others.store
      edits := first.edits ++ others.edits }

/-- **Creating rules and then others** is creating them all. -/
theorem createEach_append (env : Surroundings) (i : Nat) (known done rest : List Rule) (store : Store) :
    createEach env i known (done ++ rest) store =
      (createEach env i known done store).goOn fun created after =>
        createEach env (i + done.length) (known ++ created) rest after := by
  induction done generalizing i known store with
  | nil =>
      cases hrest : createEach env i known rest store with
      | mk result after edits => cases result <;> simp [goOn, createEach, hrest, Except.map]
  | cons rule done ih =>
      have hlength : i + (rule :: done).length = i + 1 + done.length := by
        rw [List.length_cons]
        omega
      rw [List.cons_append, createEach, createEach, hlength]
      split
      · exact ih (i + 1) known store
      · rcases createOne env i known rule store with ⟨error | saved, after, edits⟩
        · rfl
        · dsimp only
          rw [ih]
          rcases hothers : createEach env (i + 1) (known ++ [saved]) done after with
            ⟨error | created, after, more⟩
          · rfl
          · simp only [goOn, Except.map, List.append_assoc, List.singleton_append]
            rcases createEach env (i + 1 + done.length) (known ++ saved :: created) rest after with
              ⟨error | others, after, last⟩ <;> rfl

/-! #### What is listed -/

/-- What is saved when a rule is created. -/
def Yields (rule saved : Rule) : Prop :=
  ∃ id freshKey now, saved = { prepared rule freshKey now with id }

/-- Rules that were created from some of those that were brought, beside known ones. -/
structure Listed (known brought saved : List Rule) : Prop where
  /-- They are made of brought rules and come in their order. -/
  inOrder : ∃ chosen : List Rule, chosen.Sublist brought ∧ List.Forall₂ Yields chosen saved
  /-- No two have the same method and URL pattern, -/
  apart : saved.Pairwise fun a b => a.sameRoute b = false
  /-- and none has those of a known one. -/
  new : ∀ stored ∈ known, ∀ rule ∈ saved, stored.sameRoute rule = false

/-- What creating several rules returns are those that it creates, in their order and for different requests. -/
theorem createEach_listed (hok : (createEach env i known rules store).result = .ok saved) :
    Listed known rules saved := by
  induction rules generalizing i known store saved with
  | nil =>
      obtain rfl := Except.ok.inj hok
      exact ⟨⟨[], .slnil, .nil⟩, .nil, by simp⟩
  | cons rule rest ih =>
      rw [createEach] at hok
      split at hok
      · obtain ⟨⟨chosen, hchosen, hmade⟩, hapart, hnew⟩ := ih hok
        exact ⟨⟨chosen, hchosen.cons rule, hmade⟩, hapart, hnew⟩
      · rename_i hroute
        rcases createOne_cases env i known rule store with
          ⟨error, after, heq, -⟩ | ⟨first, after, -, -, hsave, heq⟩
        · simp [heq, fail] at hok
        · simp only [heq] at hok
          obtain ⟨others, hothers, rfl⟩ := exists_of_map_eq_ok hok
          obtain ⟨⟨chosen, hchosen, hmade⟩, hapart, hnew⟩ := ih hothers
          obtain ⟨id, rfl, -⟩ := Table.rows_of_save hsave
          obtain ⟨hknown, hfirst⟩ := List.forall_mem_append.mp hnew
          refine ⟨⟨rule :: chosen, hchosen.cons_cons rule, .cons ⟨some id, _, _, rfl⟩ hmade⟩,
            List.pairwise_cons.mpr ⟨hfirst _ (List.mem_singleton_self _), hapart⟩, fun stored hstored => ?_⟩
          refine List.forall_mem_cons.mpr ⟨?_, hknown stored hstored⟩
          exact eq_false_of_ne_true fun hsame => hroute (List.any_eq_true.mpr ⟨stored, hstored, hsame⟩)

end Plan

namespace Table

/-- **New rules stand beside the others**, if no number in use is given anew. -/
theorem Receives.all_perm {clock : Nat → Timestamp} {table after : Table} {created : List Rule}
    (h : Receives clock table created after) (hwf : table.WellFormed)
    (hlength : created.length ≤ 18446744073709551616)
    (hnew : ∀ k, 0 < k → k ≤ created.length → table.contains (numberAfter table.lastId k) = false) :
    after.all.Perm (table.all ++ created) := by
  induction h with
  | nil => simp
  | @cons table next after rule saved rest k hid _ _ hsave _ ih =>
      have hnext := hwf.save hsave
      rw [save_draft hid] at hsave
      obtain ⟨rfl, rfl⟩ := Prod.mk.inj (Except.ok.inj hsave)
      rw [List.length_cons] at hlength hnew
      have hunused : table.contains (following table.lastId) = false := hnew 1 Nat.one_pos (by omega)
      have hfirst := hwf.all_insertRow_perm (following table.lastId)
        { rule with id := some (following table.lastId) } (following table.lastId)
      rw [hwf.apart_eq_all hunused] at hfirst
      refine (ih hnext (by omega) fun j hpos hle => ?_).trans ((hfirst.append_right rest).trans ?_)
      · refine eq_false_of_ne_true fun hused => ?_
        obtain ⟨other, hother, hnumber⟩ := hnext.contains_iff.mp hused
        rcases List.mem_cons.mp (hfirst.mem_iff.mp hother) with rfl | hother
        · exact numberAfter_following_ne table.lastId hpos (by omega) (Option.some.inj hnumber).symm
        · have hused := hwf.contains_iff.mpr ⟨other, hother, hnumber⟩
          rw [numberAfter_following, hnew (j + 1) (Nat.succ_pos j) (by omega)] at hused
          exact Bool.false_ne_true hused
      · exact List.perm_middle.symm

end Table

/-! ### Calls -/

namespace Engine

variable {engine : Engine} {env : Surroundings} {rule : Rule} {done rules : List Rule}
  {plan first : Plan (List Rule)} {next : List Rule → Store → Plan (List Rule)}
  {outcome other : Except EngineError (List Rule) × Engine}
  {later : Engine → Except EngineError (List Rule) × Engine}

/-- **The calls one after the other**, of which the first is the `i`-th of several: a rule for the method and
URL pattern of a stored one is skipped, and the first failure ends it. -/
def createInTurn (env : Surroundings) : (i : Nat) → (rules : List Rule) → Engine →
    Except EngineError (List Rule) × Engine
  | _, [], engine => (.ok [], engine)
  | i, rule :: rest, engine =>
    if engine.store.table.all.any fun stored => stored.sameRoute rule then
      createInTurn env (i + 1) rest engine
    else
      match engine.create (env.alone i) rule with
      | (.error e, after) => (.error e, after)
      | (.ok saved, after) =>
        let others := createInTurn env (i + 1) rest after
        (others.1.map (saved :: ·), others.2)

/-- Goes on with the engine after some calls, unless these failed. -/
def goOn (first : Except EngineError (List Rule) × Engine)
    (next : Engine → Except EngineError (List Rule) × Engine) : Except EngineError (List Rule) × Engine :=
  match first with
  | (.error e, after) => (.error e, after)
  | (.ok created, after) => ((next after).1.map (created ++ ·), (next after).2)

/-- Creating rules in turn, and then others. -/
theorem createInTurn_append (env : Surroundings) (i : Nat) (done rest : List Rule) (engine : Engine) :
    createInTurn env i (done ++ rest) engine =
      goOn (createInTurn env i done engine) (createInTurn env (i + done.length) rest) := by
  induction done generalizing i engine with
  | nil =>
      cases hrest : createInTurn env i rest engine with
      | mk result after => cases result <;> simp [goOn, createInTurn, hrest, Except.map]
  | cons rule done ih =>
      have hlength : i + (rule :: done).length = i + 1 + done.length := by
        rw [List.length_cons]
        omega
      rw [List.cons_append, createInTurn, createInTurn, hlength]
      split
      · exact ih (i + 1) engine
      · rcases engine.create (env.alone i) rule with ⟨error | saved, after⟩
        · rfl
        · dsimp only
          rw [ih]
          rcases createInTurn env (i + 1) done after with ⟨error | created, after⟩
          · rfl
          · simp only [goOn, Except.map]
            rcases createInTurn env (i + 1 + done.length) rest after with ⟨error | others, after⟩ <;> rfl

/-- What was done to the engine is what a plan says. -/
structure CarriesOut (engine : Engine) (plan : Plan (List Rule))
    (outcome : Except EngineError (List Rule) × Engine) : Prop where
  result : outcome.1 = plan.result
  store : outcome.2.store = plan.store
  index : outcome.2.index = plan.edits.foldl Index.apply engine.index
  running : outcome.2.running = engine.running

/-- Two outcomes with the same result, and engines with the same store and the same index, which are running or
not alike. What was counted is left out. -/
structure Alike (a b : Except EngineError (List Rule) × Engine) : Prop where
  result : a.1 = b.1
  store : a.2.store = b.2.store
  index : a.2.index = b.2.index
  running : a.2.running = b.2.running

/-- What carries out one plan is alike. -/
theorem CarriesOut.alike (h : engine.CarriesOut plan outcome) (hother : engine.CarriesOut plan other) :
    Alike outcome other :=
  ⟨h.result.trans hother.result.symm, h.store.trans hother.store.symm, h.index.trans hother.index.symm,
    h.running.trans hother.running.symm⟩

/-- What is alike carries out the same plan. -/
theorem CarriesOut.of_alike (h : engine.CarriesOut plan outcome) (halike : Alike outcome other) :
    engine.CarriesOut plan other :=
  ⟨halike.result.symm.trans h.result, halike.store.symm.trans h.store, halike.index.symm.trans h.index,
    halike.running.symm.trans h.running⟩

/-- Performing a plan carries it out. -/
theorem carriesOut_perform (engine : Engine) (plan : Plan (List Rule)) :
    engine.CarriesOut plan (engine.perform plan) :=
  ⟨rfl, (foldl_edit _ _).1, (foldl_edit _ _).2.1, (foldl_edit _ _).2.2⟩

/-- One plan after the other is carried out if each of them is. -/
theorem CarriesOut.append (h : engine.CarriesOut first outcome)
    (hnext : ∀ created, first.result = .ok created →
      outcome.2.CarriesOut (next created first.store) (later outcome.2)) :
    engine.CarriesOut (first.goOn next) (goOn outcome later) := by
  obtain ⟨result, after⟩ := outcome
  cases result with
  | error e =>
      have hplan : first.goOn next = first := by simp [Plan.goOn, ← h.result]
      rw [hplan]
      exact h
  | ok created =>
      have hfirst : first.result = .ok created := h.result.symm
      obtain ⟨hresult, hstore, hindex, hrunning⟩ := hnext created hfirst
      simp only [Plan.goOn, hfirst]
      refine ⟨congrArg (Except.map (created ++ ·)) hresult, hstore, ?_, hrunning.trans h.running⟩
      rw [List.foldl_append, ← h.index]
      exact hindex

/-- If one plan after the other is carried out, the results of the second one agree. -/
theorem CarriesOut.result_eq {created : List Rule}
    (h : engine.CarriesOut (first.goOn next) (goOn outcome later))
    (hfirst : first.result = .ok created) (houtcome : outcome.1 = .ok created) :
    (later outcome.2).1 = (next created first.store).result := by
  obtain ⟨result, after⟩ := outcome
  obtain rfl : result = .ok created := houtcome
  have hresult : (later after).1.map (created ++ ·) = (next created first.store).result.map (created ++ ·) := by
    have heq := h.result
    simp only [Plan.goOn, hfirst] at heq
    exact heq
  revert hresult
  rcases later after with ⟨error | a, engine⟩ <;> rcases (next created first.store).result with error | b <;>
    simp [Except.map]

/-! #### Both ways -/

/-- Creating valid rules comes to creating them beside the stored ones. -/
theorem carriesOut_createBatch (hrunning : engine.running = true)
    (hreads : ∀ k, (env.condition k).noReads = none) (hvalid : ∀ rule ∈ rules, rule.validate = .ok ()) :
    engine.CarriesOut (Plan.createEach env 0 engine.store.table.all rules engine.store)
      (engine.createBatch env rules) := by
  have hplan : Plan.withAllValid rules engine.store (engine.ifRunning (Plan.createBatch env rules)) =
      Plan.createEach env 0 engine.store.table.all rules engine.store := by
    rw [Plan.withAllValid_of_valid hvalid, ifRunning, if_pos hrunning]
    simp [Plan.createBatch, Plan.withRead, Store.loadAll, Store.reading, hreads]
  have hperformed := engine.carriesOut_perform
    (Plan.createEach env 0 engine.store.table.all rules engine.store)
  rw [← hplan] at hperformed ⊢
  exact ⟨hperformed.result, hperformed.store, hperformed.index, hperformed.running⟩

/-- Creating a single rule in turn comes to creating it beside the stored ones. -/
theorem carriesOut_createInTurn_singleton (hrunning : engine.running = true)
    (hreads : ∀ k, (env.condition k).noReads = none) (i : Nat) (rule : Rule) :
    engine.CarriesOut (Plan.createEach env i engine.store.table.all [rule] engine.store)
      (engine.createInTurn env i [rule]) := by
  rw [createInTurn, Plan.createEach]
  split
  · exact ⟨rfl, rfl, rfl, rfl⟩
  · have hplan : engine.ifRunning (Plan.create (env.alone i) rule) =
        Plan.createOne env i engine.store.table.all rule engine.store := by
      rw [ifRunning, if_pos hrunning]
      simp [Plan.create, Plan.withRead, Store.loadAll, Store.reading, Surroundings.alone, hreads,
        Plan.createOne]
    obtain ⟨hstore, hindex, hkept⟩ := foldl_edit
      (Plan.createOne env i engine.store.table.all rule engine.store).edits
      { engine with store := (Plan.createOne env i engine.store.table.all rule engine.store).store }
    rw [create, hplan]
    cases hresult : (Plan.createOne env i engine.store.table.all rule engine.store).result with
    | error e =>
        simp only [counted, perform, hresult]
        exact ⟨rfl, hstore, hindex, hkept⟩
    | ok saved =>
        simp only [counted, perform, hresult, createInTurn, Plan.createEach, List.append_nil]
        exact ⟨rfl, hstore, hindex, hkept⟩

/-- After some rules were created, another one fares differently beside all that is remembered than beside what
is stored. -/
structure Misjudges (engine : Engine) (env : Surroundings) (done : List Rule) (rule : Rule) : Prop where
  valid : rule.validate = .ok ()
  parts : ∃ created, (engine.createBatch env done).1 = .ok created ∧
    Plan.verdict (engine.store.table.all ++ created) rule ≠
      Plan.verdict (engine.createBatch env done).2.store.table.all rule

/-- **For that a number in use was given anew** to one of the rules that were created before. -/
theorem Misjudges.recycles (h : engine.Misjudges env done rule) (hwf : engine.store.table.WellFormed)
    (hlength : done.length ≤ 18446744073709551616) : engine.Recycles ⟨env, .createBatch done⟩ := by
  obtain ⟨created, hok, hparts⟩ := h.parts
  by_contra hnot
  have hcreates : (Call.createBatch done).creates = true := rfl
  obtain ⟨hreceives, hle⟩ := call_receives engine env hcreates
  have hcreated : engine.created env (.createBatch done) = created := created_createBatch hok
  refine hparts (Plan.verdict_perm ?_ rule)
  rw [← hcreated]
  refine (hreceives.all_perm hwf (Nat.le_trans hle hlength) fun k hpos hle => ?_).symm
  exact eq_false_of_ne_true fun hused => hnot ⟨k, hpos, hle, hused⟩

/-- Creating several rules does what creating them in turn does. -/
structure InTurn (engine : Engine) (env : Surroundings) (rules : List Rule) : Prop where
  /-- The first rule with problems is refused, and nothing is changed. -/
  refused : ∀ before rule rest problems, rules = before ++ rule :: rest →
    (∀ other ∈ before, other.validate = .ok ()) → rule.validate = .error problems →
    (engine.createBatch env rules).1 = .error (.invalid problems) ∧
      engine.Unchanged (engine.createBatch env rules).2
  /-- Valid rules are created as in turn. -/
  followed : (∀ rule ∈ rules, rule.validate = .ok ()) →
    Alike (engine.createBatch env rules) (engine.createInTurn env 0 rules)
  /-- Whether it fails or not, the table receives what is created, -/
  stored : engine.store.table.Receives env.clock (engine.created env (.createBatch rules))
    (engine.createBatch env rules).2.store.table
  /-- and so does the index. -/
  indexed : (engine.createBatch env rules).2.index =
    ((engine.created env (.createBatch rules)).map .add).foldl Index.apply engine.index
  /-- If it does not fail, all that is created is returned, -/
  returned : ∀ saved, (engine.createBatch env rules).1 = .ok saved →
    engine.created env (.createBatch rules) = saved
  /-- in the order of the rules, which are for different requests than the stored ones and one another. -/
  listed : ∀ saved, (engine.createBatch env rules).1 = .ok saved →
    Plan.Listed engine.store.table.all rules saved

/-- It does so if valid rules are created as in turn. -/
theorem inTurn_of_followed (hrunning : engine.running = true) (hreads : ∀ k, (env.condition k).noReads = none)
    (h : (∀ rule ∈ rules, rule.validate = .ok ()) →
      engine.CarriesOut (Plan.createEach env 0 engine.store.table.all rules engine.store)
        (engine.createInTurn env 0 rules)) : engine.InTurn env rules where
  refused := by
    rintro before rule rest problems rfl hbefore hrule
    have hplan := Plan.withAllValid_of_problems hbefore hrule rest engine.store
      (engine.ifRunning (Plan.createBatch env (before ++ rule :: rest)))
    rw [createBatch, hplan]
    exact ⟨rfl, .refl _, rfl, rfl⟩
  followed := fun hvalid => (carriesOut_createBatch hrunning hreads hvalid).alike (h hvalid)
  stored :=
    have hcreates : (Call.createBatch rules).creates = true := rfl
    (call_receives engine env hcreates).1
  indexed :=
    have hcreates : (Call.createBatch rules).creates = true := rfl
    index_of_creates engine env hcreates
  returned := fun _ => created_createBatch
  listed := fun saved hok => by
    have hvalid := Plan.valid_of_withAllValid hok
    exact Plan.createEach_listed ((carriesOut_createBatch hrunning hreads hvalid).result.symm.trans hok)

/-- As long as no rule is misjudged, valid rules are created as in turn. -/
theorem carriesOut_createInTurn (hrunning : engine.running = true)
    (hreads : ∀ k, (env.condition k).noReads = none) (hvalid : ∀ rule ∈ rules, rule.validate = .ok ())
    (hnone : ∀ done rule, done ++ [rule] <+: rules → ¬ engine.Misjudges env done rule) :
    engine.CarriesOut (Plan.createEach env 0 engine.store.table.all rules engine.store)
      (engine.createInTurn env 0 rules) := by
  induction rules using List.reverseRecOn with
  | nil => exact ⟨rfl, rfl, rfl, rfl⟩
  | append_singleton done rule ih =>
      obtain ⟨hdone, hrule⟩ := List.forall_mem_append.mp hvalid
      have hrule := hrule rule (List.mem_singleton_self rule)
      have hfirst := ih hdone fun earlier other hpart =>
        hnone earlier other (hpart.trans (List.prefix_append done [rule]))
      rw [Plan.createEach_append, createInTurn_append]
      refine hfirst.append fun created hcreated => ?_
      -- What is remembered and what is stored decide the same about the last rule.
      have hbatch := carriesOut_createBatch hrunning hreads hdone
      have hverdict : Plan.verdict (engine.store.table.all ++ created) rule =
          Plan.verdict (engine.createInTurn env 0 done).2.store.table.all rule := by
        by_contra hparts
        rw [hfirst.store, ← hbatch.store] at hparts
        exact hnone done rule (List.prefix_refl _) ⟨hrule, created, hbatch.result.trans hcreated, hparts⟩
      have hlast := carriesOut_createInTurn_singleton (hfirst.running.trans hrunning) hreads
        (0 + done.length) rule
      rw [Plan.createEach_singleton hrule, ← hverdict, hfirst.store] at hlast
      rw [Plan.createEach_singleton hrule]
      exact hlast

/-- A rule that is misjudged does not fare as it does in turn. -/
theorem Misjudges.not_followed (h : engine.Misjudges env done rule) (hrunning : engine.running = true)
    (hreads : ∀ k, (env.condition k).noReads = none) (hdone : engine.InTurn env done) :
    ¬ engine.InTurn env (done ++ [rule]) := by
  obtain ⟨created, hok, hparts⟩ := h.parts
  have hvalid := Plan.valid_of_withAllValid hok
  have hall : ∀ other ∈ done ++ [rule], other.validate = .ok () :=
    List.forall_mem_append.mpr ⟨hvalid, fun other hother => List.mem_singleton.mp hother ▸ h.valid⟩
  have hbatch := carriesOut_createBatch hrunning hreads hvalid
  have hfirst := hbatch.of_alike (hdone.followed hvalid)
  intro hnext
  have hwhole := (carriesOut_createBatch hrunning hreads hall).of_alike (hnext.followed hall)
  rw [Plan.createEach_append, createInTurn_append] at hwhole
  have hresult := hwhole.result_eq (hbatch.result.symm.trans hok)
    ((hdone.followed hvalid).result.symm.trans hok)
  have hlast := carriesOut_createInTurn_singleton (hfirst.running.trans hrunning) hreads
    (0 + done.length) rule
  refine hparts ?_
  calc Plan.verdict (engine.store.table.all ++ created) rule
      = Plan.revealed (createInTurn env (0 + done.length) [rule] (createInTurn env 0 done engine).2).1 := by
        rw [hresult, Plan.revealed_createEach h.valid]
    _ = Plan.verdict (createInTurn env 0 done engine).2.store.table.all rule := by
        rw [hlast.result, Plan.revealed_createEach h.valid]
    _ = Plan.verdict (engine.createBatch env done).2.store.table.all rule := by
        rw [hfirst.store, hbatch.store]

/-- **Creating any first part of a list of rules is creating them in turn** exactly if no rule of the list is
misjudged after those before it. -/
theorem inTurn_iff (hrunning : engine.running = true) (hreads : ∀ k, (env.condition k).noReads = none)
    (rules : List Rule) :
    (∀ done, done <+: rules → engine.InTurn env done) ↔
      ∀ done rule, done ++ [rule] <+: rules → ¬ engine.Misjudges env done rule := by
  constructor
  · intro h done rule hpart hmisjudges
    have hdone := h done ((List.prefix_append done [rule]).trans hpart)
    exact hmisjudges.not_followed hrunning hreads hdone (h (done ++ [rule]) hpart)
  · intro hnone done hdone
    refine inTurn_of_followed hrunning hreads fun hvalid => ?_
    exact carriesOut_createInTurn hrunning hreads hvalid fun earlier rule hpart =>
      hnone earlier rule (hpart.trans hdone)

/-- Rules with different keys, the second of which has the method and URL pattern of the first, and one more. -/
def mixed : List Rule :=
  [greeting none "one", greeting none "two", bringing "three"]

/-- There are numbers left in the empty engine. -/
theorem numbered_startedEmpty : startedEmpty.store.table.Numbered 3 := by
  have htable : startedEmpty.store.table = {} := rfl
  rw [htable]
  exact ⟨Int.le_refl 0, by simp [Table.all], by decide⟩

/-- These rules are created in turn, the second one is skipped. -/
theorem inTurn_iff_mixed :
    (startedEmpty.running = true ∧ ∀ k, (calm.condition k).noReads = none) ∧
      (startedEmpty.createBatch calm mixed).1.map List.length = .ok 2 ∧ startedEmpty.InTurn calm mixed := by
  have hreads : ∀ k, (calm.condition k).noReads = none := fun _ => rfl
  have hlength : mixed.length = 3 := rfl
  refine ⟨⟨rfl, hreads⟩, rfl,
    (inTurn_iff rfl hreads mixed).mpr (fun done rule hpart hmisjudges => ?_) mixed (List.prefix_refl _)⟩
  have hdone : done.length ≤ 3 := hlength ▸ ((List.prefix_append done [rule]).trans hpart).length_le
  have hbrought : (Call.createBatch done).brought.length ≤ 3 := hdone
  refine not_recycles_of_numbered numbered_startedEmpty Table.wellFormed_empty hbrought
    (hmisjudges.recycles Table.wellFormed_empty ?_)
  exact Nat.le_trans hdone (Nat.le_of_ble_eq_true rfl)

/-- A rule that brings the key of the rule under the least number. -/
def overtaking : Rule :=
  { Rule.new "again" "GET" "/again" with externalKey := some "first" }

/-- **Creating several rules is not always** creating them in turn. The first one takes the place of the rule
under the least number. The second one has the key of that rule: it is refused, but would be created by a
call of its own. -/
theorem not_forall_inTurn :
    ¬ ∀ (engine : Engine) (env : Surroundings) (rules : List Rule), engine.store.Reachable →
      engine.running = true → (∀ k, (env.condition k).noReads = none) → engine.InTurn env rules := by
  intro hall
  have h := hall ((fresh fullCircle none []).start calm).2 calm [bringing "more", overtaking]
    reachable_fullCircle rfl fun _ => rfl
  have hvalid : ∀ rule ∈ [bringing "more", overtaking], rule.validate = .ok () := by
    rintro rule (_ | ⟨_, _ | ⟨_, ⟨⟩⟩⟩) <;> rfl
  have hresult := congrArg Except.isOk (h.followed hvalid).result
  exact Bool.noConfusion hresult

end Engine

end StubServer
