import StubServer.Proofs.Engine.Batch
import StubServer.Proofs.Engine.Shadowing

/-!
# Creating the same rules again

A list of rules that was created once is to be created again, as it is with every start of the server. In
between, rules may have been created, changed and deleted. What is skipped goes by method and URL pattern, but
what is refused by keys: a rule whose place was left free is a newcomer, and is refused if the key that it
brings is still in use. That happens when the rule that was created from it was moved to another URL pattern.

## Main statements

* `Plan.Admits`: newcomers bring keys that are different and free.
* `Plan.createEach_decides`: if the store does not fail, rules are created exactly if they are admitted.
* `Engine.createBatch_again_iff`: creating the same rules again, after whatever succeeded in between.
-/

namespace StubServer

/-! ### Newcomers -/

namespace Plan

variable {env : Surroundings} {store : Store} {known others rules rest : List Rule} {rule : Rule}
  {key drawn : String}

/-- The rules of a list with a method and a URL pattern that no known one has, and none before them. -/
def newcomers : (known rules : List Rule) → List Rule
  | _, [] => []
  | known, rule :: rest =>
    if known.any fun other => other.sameRoute rule then newcomers known rest
    else rule :: newcomers (known ++ [rule]) rest

/-- The keys that newcomers bring. -/
def newKeys (known rules : List Rule) : List String :=
  (newcomers known rules).filterMap Rule.externalKey

/-- The keys that newcomers bring are different, and no known rule has one of them. -/
def Admits (known rules : List Rule) : Prop :=
  (newKeys known rules).Nodup ∧ ∀ key ∈ newKeys known rules, isTaken known key = false

/-- Whether rules are admitted can be computed. -/
instance (known rules : List Rule) : Decidable (Admits known rules) :=
  inferInstanceAs (Decidable ((newKeys known rules).Nodup ∧
    ∀ key ∈ newKeys known rules, isTaken known key = false))

/-- Newcomers are rules of the list. -/
theorem newcomers_sublist (known rules : List Rule) : (newcomers known rules).Sublist rules := by
  induction rules generalizing known with
  | nil => exact .slnil
  | cons rule rest ih =>
      rw [newcomers]
      split
      · exact (ih known).cons rule
      · exact (ih (known ++ [rule])).cons_cons rule

/-- Newcomers are told by the methods and URL patterns of known rules alone. -/
theorem newcomers_congr
    (h : ∀ rule : Rule,
      (known.any fun other => other.sameRoute rule) = others.any fun other => other.sameRoute rule)
    (rules : List Rule) : newcomers known rules = newcomers others rules := by
  induction rules generalizing known others with
  | nil => rfl
  | cons rule rest ih =>
      have hmore : newcomers (known ++ [rule]) rest = newcomers (others ++ [rule]) rest :=
        ih fun other => by rw [List.any_append, List.any_append, h other]
      rw [newcomers, newcomers, h rule, ih h, hmore]

/-- A key that a newcomer brings is the key of a newcomer. -/
theorem mem_newKeys_iff :
    key ∈ newKeys known rules ↔ ∃ rule ∈ newcomers known rules, rule.externalKey = some key :=
  List.mem_filterMap

/-- A key of a newcomer is brought by one of the rules. -/
theorem exists_of_mem_newKeys (h : key ∈ newKeys known rules) :
    ∃ rule ∈ rules, rule.externalKey = some key := by
  obtain ⟨rule, hrule, hkey⟩ := mem_newKeys_iff.mp h
  exact ⟨rule, (newcomers_sublist known rules).subset hrule, hkey⟩

/-- A rule that is skipped has no part in whether the others are admitted. -/
theorem admits_cons_of_known (hroute : (known.any fun other => other.sameRoute rule) = true) :
    Admits known (rule :: rest) ↔ Admits known rest := by
  have hkeys : newKeys known (rule :: rest) = newKeys known rest := by
    rw [newKeys, newcomers, if_pos hroute, newKeys]
  rw [Admits, hkeys, Admits]

/-- **After a newcomer** whose key is free, the others are admitted if they are so beside what was created from
it. A key that was drawn for it is none of theirs. -/
theorem admits_cons_of_new (hroute : ¬ (known.any fun other => other.sameRoute rule) = true)
    (hfree : rule.externalKey.filter (isTaken known) = none)
    (hdrawn : ∀ other ∈ rest, other.externalKey ≠ some drawn) (now : Timestamp) (id : Option Int) :
    Admits known (rule :: rest) ↔ Admits (known ++ [{ prepared rule drawn now with id }]) rest := by
  set saved : Rule := { prepared rule drawn now with id }
  have hsame : ∀ other : Rule, saved.sameRoute other = rule.sameRoute other := fun _ => rfl
  have hkey : saved.externalKey = some (rule.externalKey.getD drawn) := rfl
  have hnewcomers : newcomers (known ++ [rule]) rest = newcomers (known ++ [saved]) rest :=
    newcomers_congr (fun other => by simp [hsame]) rest
  have hkeys : newKeys known (rule :: rest) =
      rule.externalKey.toList ++ newKeys (known ++ [saved]) rest := by
    rw [newKeys, newcomers, if_neg hroute, hnewcomers, newKeys, List.filterMap_cons]
    cases rule.externalKey <;> rfl
  have htaken : ∀ key, isTaken (known ++ [saved]) key = (isTaken known key || saved.externalKey == some key) :=
    fun key => by simp [isTaken]
  have hothers : ∀ key ∈ newKeys (known ++ [saved]) rest, key ≠ drawn := by
    rintro key hmem rfl
    obtain ⟨other, hother, hbrought⟩ := exists_of_mem_newKeys hmem
    exact hdrawn other hother hbrought
  rw [Admits, Admits, hkeys]
  simp only [htaken, hkey]
  cases hown : rule.externalKey with
  | none =>
      have hdrawn : ∀ key ∈ newKeys (known ++ [saved]) rest, (some drawn == some key) = false :=
        fun key hmem => by simpa using (hothers key hmem).symm
      simp +contextual [hdrawn]
  | some own =>
      have hunused : isTaken known own = false := by simpa [hown, Option.filter_eq_none_iff] using hfree
      simp only [Option.toList_some, List.singleton_append, List.nodup_cons, List.forall_mem_cons, hunused,
        Option.getD_some, Bool.or_eq_false_iff]
      constructor
      · rintro ⟨⟨hnotMem, hnodup⟩, -, hothers⟩
        refine ⟨hnodup, fun key hmem => ⟨hothers key hmem, ?_⟩⟩
        exact beq_false_of_ne fun heq => hnotMem (Option.some.inj heq ▸ hmem)
      · rintro ⟨hnodup, hothers⟩
        refine ⟨⟨fun hmem => ?_, hnodup⟩, trivial, fun key hmem => (hothers key hmem).1⟩
        exact absurd (hothers own hmem).2 (by simp)

/-- **If the store does not fail**, valid rules are created exactly if they are admitted, and one is refused for
its key if not. -/
theorem createEach_decides (hcalm : ∀ k, env.condition k = {}) (hwritable : store.Writable)
    (hvalid : ∀ rule ∈ rules, rule.validate = .ok ())
    (hdrawn : ∀ k, ∀ rule ∈ rules, rule.externalKey ≠ some (env.freshKey k)) (i : Nat) (known : List Rule) :
    ((∃ saved, (createEach env i known rules store).result = .ok saved) ∧ Admits known rules) ∨
      ((∃ key, (createEach env i known rules store).result = .error (.keyTaken key)) ∧
        ¬ Admits known rules) := by
  induction rules generalizing i known store with
  | nil => exact .inl ⟨⟨[], rfl⟩, List.nodup_nil, nofun⟩
  | cons rule rest ih =>
      obtain ⟨hrule, hrest⟩ := List.forall_mem_cons.mp hvalid
      have hothers : ∀ k, ∀ other ∈ rest, other.externalKey ≠ some (env.freshKey k) :=
        fun k => (List.forall_mem_cons.mp (hdrawn k)).2
      rw [createEach]
      split
      · rename_i hroute
        rw [admits_cons_of_known hroute]
        exact ih hwritable hrest hothers (i + 1) known
      · rename_i hroute
        rw [createOne_of_valid hrule]
        cases hfree : rule.externalKey.filter (isTaken known) with
        | some key =>
            obtain ⟨hkey, htaken⟩ := Option.filter_eq_some_iff.mp hfree
            refine .inr ⟨⟨key, rfl⟩, fun hadmits => ?_⟩
            have hmem : key ∈ newKeys known (rule :: rest) := by
              refine mem_newKeys_iff.mpr ⟨rule, ?_, hkey⟩
              rw [newcomers, if_neg hroute]
              exact List.mem_cons_self
            exact Bool.false_ne_true ((hadmits.2 key hmem).symm.trans htaken)
        | none =>
            have hnumber : (prepared rule (env.freshKey i) (env.clock i)).id = none := rfl
            obtain ⟨after, hcall, -, hafter⟩ := hwritable.save (Table.save_draft hnumber)
            simp only [hcalm, hcall, endingWith]
            rw [admits_cons_of_new hroute hfree (hothers i) (env.clock i)
              (some (Table.following store.table.lastId))]
            rcases ih hafter hrest hothers (i + 1) _ with ⟨⟨saved, hsaved⟩, hadmits⟩ | ⟨⟨key, hkey⟩, hadmits⟩
            · exact .inl ⟨⟨_, congrArg _ hsaved⟩, hadmits⟩
            · exact .inr ⟨⟨key, congrArg _ hkey⟩, hadmits⟩

end Plan

/-! ### Runs that succeed -/

namespace Engine

variable {engine later : Engine} {env before : Surroundings} {call : Call} {rules created : List Rule}

/-- What needs a running engine and succeeds, whatever the result is, had one. -/
theorem running_of_isOk {α : Type} {next : Store → Plan α} (hok : (engine.ifRunning next).result.isOk = true) :
    engine.running = true := by
  cases hresult : (engine.ifRunning next).result with
  | ok result => exact running_of_ok hresult
  | error e =>
      rw [hresult] at hok
      exact Bool.noConfusion hok

/-- After a call that succeeds the engine is running, unless the call was to stop it. -/
theorem running_call (hcall : call ≠ .stop) (hok : (engine.call env call).1 = true) :
    (engine.call env call).2.running = true := by
  have hkept : ∀ {α : Type} (next : Store → Plan α), (engine.ifRunning next).result.isOk = true →
      (engine.perform (engine.ifRunning next)).2.running = true :=
    fun next h => (engine.running_perform _).trans (running_of_isOk h)
  cases call with
  | start => exact (start_ok hok).1
  | stop => exact absurd rfl hcall
  | create rule => exact hkept _ hok
  | createBatch rules =>
      have hsucceeded : (engine.createBatch env rules).1.isOk = true := hok
      cases hresult : (engine.createBatch env rules).1 with
      | error e =>
          rw [hresult] at hsucceeded
          exact Bool.noConfusion hsucceeded
      | ok created =>
          obtain ⟨hrunning, -⟩ := plan_createBatch_of_ok hresult
          exact (engine.running_perform _).trans hrunning
  | update id changes => exact hkept _ hok
  | delete id => exact hkept _ hok
  | toggle id => exact hkept _ hok
  | reload => exact hkept (Plan.reload env) ((isOk_withSize _).symm.trans hok)

/-- How an engine goes on by calls that succeed, none of which stops it, and by new starts with the file of its
store. -/
inductive Continues (engine : Engine) : Engine → Prop
  | refl : Continues engine engine
  | call {later : Engine} {env : Surroundings} {call : Call} : Continues engine later → call ≠ .stop →
      (later.call env call).1 = true → Continues engine (later.call env call).2
  | restart {later : Engine} {disk : Disk} {opened : Store} {limit : Option Nat} {uses : List Regex.Cache.Use}
      {env : Surroundings} : Continues engine later → later.store.disk = some disk →
      Store.ofDisk disk = .ok opened → ((fresh opened limit uses).start env).1.isOk = true →
      Continues engine ((fresh opened limit uses).start env).2

/-- An engine that goes on that way stays running. -/
theorem Continues.running (h : engine.Continues later) (hrunning : engine.running = true) :
    later.running = true := by
  cases h with
  | refl => exact hrunning
  | call _ hcall hok => exact running_call hcall hok
  | restart _ _ _ hstart => exact (start_ok hstart).1

/-- **Creating the same rules again**, after they were created and whatever succeeded in between, succeeds if the
store does not fail exactly if the rules are admitted beside those stored then. If not, one of them is refused
for its key. -/
theorem createBatch_again_iff (hfirst : (engine.createBatch before rules).1 = .ok created)
    (hrun : (engine.createBatch before rules).2.Continues later) (hcalm : ∀ k, env.condition k = {})
    (hwritable : later.store.Writable)
    (hdrawn : ∀ k, ∀ rule ∈ rules, rule.externalKey ≠ some (env.freshKey k)) :
    ((∃ again, (later.createBatch env rules).1 = .ok again) ↔ Plan.Admits later.store.table.all rules) ∧
      ((∃ key, (later.createBatch env rules).1 = .error (.keyTaken key)) ↔
        ¬ Plan.Admits later.store.table.all rules) := by
  have hok : (engine.call before (.createBatch rules)).1 = true := congrArg Except.isOk hfirst
  have hcall : Call.createBatch rules ≠ .stop := nofun
  have hrunning := hrun.running (running_call hcall hok)
  have hvalid := Plan.valid_of_withAllValid hfirst
  have hreads : ∀ k, (env.condition k).noReads = none := fun k => by rw [hcalm]
  rw [(carriesOut_createBatch hrunning hreads hvalid).result]
  rcases Plan.createEach_decides hcalm hwritable hvalid hdrawn 0 later.store.table.all with
    ⟨⟨saved, hsaved⟩, hadmits⟩ | ⟨⟨key, hkey⟩, hadmits⟩
  · simp [hsaved, hadmits]
  · simp [hkey, hadmits]

/-- A list of rules to be created with every start. -/
def seeds : List Rule :=
  [greeting none "one", bringing "two"]

/-- The engine in which they were created first. -/
def seeded : Engine :=
  (startedEmpty.createBatch calm seeds).2

/-- No key is drawn that one of them brings. -/
theorem seeds_notDrawn : ∀ k, ∀ rule ∈ seeds, rule.externalKey ≠ some (calm.freshKey k) := by
  intro k
  change ∀ rule ∈ seeds, rule.externalKey ≠ some ""
  decide

/-- After one of them was deleted, they are created again. -/
theorem createBatch_again_iff_deleted :
    let later := (seeded.call calm (.delete 1)).2
    ((∃ created, (startedEmpty.createBatch calm seeds).1 = .ok created) ∧ seeded.Continues later ∧
        (∀ k, calm.condition k = {}) ∧ later.store.Writable ∧
        ∀ k, ∀ rule ∈ seeds, rule.externalKey ≠ some (calm.freshKey k)) ∧
      ∃ again, (later.createBatch calm seeds).1 = .ok again := by
  intro later
  have hfirst : ∃ created, (startedEmpty.createBatch calm seeds).1 = .ok created := ⟨_, rfl⟩
  have hrun : seeded.Continues later := .call .refl nofun rfl
  have hwritable : later.store.Writable := by rintro _ ⟨⟩
  have hall : later.store.table.all =
      [{ bringing "two" with id := some 2, createdAt := some default, updatedAt := some default }] := rfl
  obtain ⟨created, hcreated⟩ := hfirst
  refine ⟨⟨⟨created, hcreated⟩, hrun, fun _ => rfl, hwritable, seeds_notDrawn⟩,
    (createBatch_again_iff hcreated hrun (fun _ => rfl) hwritable seeds_notDrawn).1.mpr ?_⟩
  rw [hall]
  decide

/-- **Creating the same rules again is not always possible**, even if nothing but an update came in between. A
rule that was moved to another URL pattern keeps its key, and the rule that it was created from is refused for
it. -/
theorem not_forall_createBatch_again :
    ¬ ∀ (engine : Engine) (before between env : Surroundings) (rules created : List Rule) (id : Int)
        (changes : Rule),
      (engine.createBatch before rules).1 = .ok created →
      let updated := (engine.createBatch before rules).2.update between id changes
      updated.1.isOk = true → (∀ k, env.condition k = {}) → updated.2.store.Writable →
      (∀ k, ∀ rule ∈ rules, rule.externalKey ≠ some (env.freshKey k)) →
      (updated.2.createBatch env rules).1.isOk = true := by
  intro hall
  have hok := hall startedEmpty calm calm calm seeds _ 1 (Rule.new "moved" "GET" "/moved") rfl rfl
    (fun _ => rfl) (by rintro _ ⟨⟩) seeds_notDrawn
  exact Bool.noConfusion hok

end Engine

end StubServer
