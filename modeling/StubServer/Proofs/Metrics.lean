import StubServer.Dispatch
import StubServer.Proofs.Dictionary
import StubServer.Proofs.Engine.Call

/-!
# What is counted

Counting adds one to one counter and leaves the others, and adds one to the sums that the counter belongs to; so
reports add to a sum as often as they are of its kind (`Metrics.total_foldl_record`). Requests that the rules are to
answer are counted with the times that answering them takes, one for each outcome, and nothing else is: dispatching
counts one (`Engine.dispatches_dispatch`), and calls count none (`Engine.dispatches_call`), since what the index reports
is about itself (`Index.ofIndex_of_mem_change`).
-/

namespace StubServer

namespace Metrics

/-- **Counting** adds one to one counter and leaves the others. -/
theorem value_count (metrics : Metrics) (counter other : Counter) :
    (metrics.count counter).value other = metrics.value other + if other = counter then 1 else 0 := by
  rw [count, value]
  split
  · rename_i heq
    simp [heq]
  · rename_i hne
    have hother : (other == counter) = false := by simpa using hne
    rw [List.lookup_cons, hother, lookup_filter_ne, if_neg hne]
    rfl

/-! ### Sums of counters -/

/-- No counter is listed twice. -/
def Distinct (metrics : Metrics) : Prop :=
  (metrics.counters.map (·.1)).Nodup

/-- The sum of those of some counters that are of a kind. -/
def sumOf (kind : Counter → Bool) : List (Counter × Nat) → Nat
  | [] => 0
  | entry :: rest => (if kind entry.1 then entry.2 else 0) + sumOf kind rest

/-- The sum of the counters of a kind. -/
def total (kind : Counter → Bool) (metrics : Metrics) : Nat :=
  sumOf kind metrics.counters

variable {metrics : Metrics}

/-- Counting lists no counter twice. -/
theorem Distinct.count (h : metrics.Distinct) (counter : Counter) : (metrics.count counter).Distinct :=
  List.nodup_cons.mpr ⟨by simp, h.sublist (List.filter_sublist.map _)⟩

/-- There is nothing to add if no counter is of the kind. -/
theorem sumOf_eq_zero {kind : Counter → Bool} {counters : List (Counter × Nat)}
    (h : ∀ entry ∈ counters, kind entry.1 = false) : sumOf kind counters = 0 := by
  induction counters with
  | nil => rfl
  | cons entry rest ih =>
      obtain ⟨hentry, hrest⟩ := List.forall_mem_cons.mp h
      rw [sumOf, ih hrest, hentry]
      rfl

/-- A sum of counters is the part of one of them and the rest. -/
theorem sumOf_eq_add_filter {counters : List (Counter × Nat)} (h : (counters.map (·.1)).Nodup)
    (kind : Counter → Bool) (counter : Counter) :
    sumOf kind counters = (if kind counter then (counters.lookup counter).getD 0 else 0) +
      sumOf kind (counters.filter fun entry => entry.1 != counter) := by
  induction counters with
  | nil => simp [sumOf]
  | cons entry rest ih =>
      obtain ⟨name, value⟩ := entry
      obtain ⟨hname, hrest⟩ := List.nodup_cons.mp h
      by_cases heq : name = counter
      · subst heq
        have hfilter : rest.filter (fun entry => entry.1 != name) = rest :=
          List.filter_eq_self.mpr fun entry hentry =>
            bne_iff_ne.mpr fun hsame => hname (List.mem_map.mpr ⟨entry, hentry, hsame⟩)
        simp [sumOf, hfilter]
      · have hother : (counter == name) = false := by simpa using Ne.symm heq
        rw [List.filter_cons_of_pos (by simpa using heq), sumOf, sumOf, ih hrest, List.lookup_cons, hother]
        dsimp only
        omega

/-- **Counting** adds one to the sums that the counter belongs to. -/
theorem total_count (h : metrics.Distinct) (kind : Counter → Bool) (counter : Counter) :
    (metrics.count counter).total kind = metrics.total kind + if kind counter then 1 else 0 := by
  have hsum := sumOf_eq_add_filter h kind counter
  simp only [total, count, sumOf, value]
  cases hkind : kind counter <;> simp only [hkind, if_true, if_false, Bool.false_eq_true] at hsum ⊢ <;> omega

/-- One counter is a sum by itself. -/
theorem value_eq_total (h : metrics.Distinct) (counter : Counter) :
    metrics.value counter = metrics.total (· == counter) := by
  have hothers : sumOf (· == counter) (metrics.counters.filter fun entry => entry.1 != counter) = 0 :=
    sumOf_eq_zero fun entry hentry => by simpa using (List.mem_filter.mp hentry).2
  rw [total, sumOf_eq_add_filter h (· == counter) counter, hothers, beq_self_eq_true, if_pos rfl]
  rfl

/-! ### Reports -/

/-- Whether a report adds to the counters of a kind. -/
def Report.adds (kind : Counter → Bool) : Report → Bool
  | .one counter => kind counter
  | .entries _ => false

/-- Reports list no counter twice. -/
theorem Distinct.foldl_record (h : metrics.Distinct) (reports : List Report) :
    (reports.foldl record metrics).Distinct := by
  induction reports generalizing metrics with
  | nil => exact h
  | cons report rest ih =>
      cases report with
      | one counter => exact ih (h.count counter)
      | entries number => exact ih h

/-- **Reports** add to a sum of counters as often as they are of its kind. -/
theorem total_foldl_record (h : metrics.Distinct) (kind : Counter → Bool) (reports : List Report) :
    (reports.foldl record metrics).total kind = metrics.total kind + reports.countP (·.adds kind) := by
  induction reports generalizing metrics with
  | nil => rfl
  | cons report rest ih =>
      rw [List.foldl_cons, List.countP_cons]
      cases report with
      | one counter =>
          rw [record, ih (h.count counter), total_count h, Report.adds]
          omega
      | entries number => exact ih h

/-- A counter that changes of the index add to. -/
def Counter.ofIndex : Counter → Bool
  | .mutations _ | .lookups _ => true
  | _ => false

/-- A report on the index. -/
def Report.ofIndex : Report → Bool
  | .one counter => counter.ofIndex
  | .entries _ => true

/-! ### Requests -/

/-- The number of requests that were answered, in whatever way. -/
def dispatches (metrics : Metrics) : Nat :=
  metrics.value (.durations .matched) + metrics.value (.durations .noMatch) + metrics.value (.durations .notReady)

/-- Counting something else does not change the number of requests. -/
theorem dispatches_count {counter : Counter} (h : ∀ outcome, counter ≠ .durations outcome) (metrics : Metrics) :
    (metrics.count counter).dispatches = metrics.dispatches := by
  simp only [dispatches, value_count, if_neg (h _).symm, Nat.add_zero]

/-- Counting one request, whatever its outcome, counts one request. -/
theorem dispatches_count_durations (metrics : Metrics) (outcome : Outcome) :
    (metrics.count (.durations outcome)).dispatches = metrics.dispatches + 1 := by
  simp only [dispatches, value_count]
  cases outcome <;> simp <;> omega

/-- Reports on the index do not change the number of requests. -/
theorem dispatches_foldl_record {reports : List Report} (h : ∀ report ∈ reports, report.ofIndex = true)
    (metrics : Metrics) : (reports.foldl record metrics).dispatches = metrics.dispatches := by
  induction reports generalizing metrics with
  | nil => rfl
  | cons report rest ih =>
      obtain ⟨hreport, hrest⟩ := List.forall_mem_cons.mp h
      rw [List.foldl_cons, ih hrest]
      cases report with
      | one counter => exact dispatches_count (by rintro outcome rfl; cases hreport) metrics
      | entries number => rfl

end Metrics

/-- What publishing reports is about the index. -/
theorem Index.ofIndex_of_mem_publish (mutation : Metrics.Mutation) (index : Index) (snapshot : Snapshot) :
    ∀ report ∈ (publish mutation index snapshot).2, report.ofIndex = true := by
  intro report hreport
  rcases List.mem_append.mp hreport with hreport | hreport
  · obtain ⟨hit, -, rfl⟩ := List.mem_map.mp hreport
    rfl
  · simp only [List.mem_cons, List.not_mem_nil, or_false] at hreport
    rcases hreport with rfl | rfl <;> rfl

/-- **What the index reports** of a change is about itself. -/
theorem Index.ofIndex_of_mem_change (index : Index) (edit : Edit) :
    ∀ report ∈ (index.change edit).2, report.ofIndex = true := by
  cases edit with
  | add rule =>
      rw [change, adding]
      split
      · exact List.forall_mem_nil _
      · exact ofIndex_of_mem_publish .add _ _
  | remove key =>
      rw [change, removing]
      split
      · exact ofIndex_of_mem_publish .remove _ _
      · exact List.forall_mem_nil _
  | reload rules => exact ofIndex_of_mem_publish .reload _ _

namespace Engine

variable {α : Type} (engine : Engine)

/-- **Dispatching** counts one request. -/
theorem dispatches_dispatch (now : Timestamp) (request : Request) :
    (engine.dispatch now request).2.metrics.dispatches = engine.metrics.dispatches + 1 := by
  rw [dispatch, Metrics.dispatches_count_durations, Metrics.dispatches_count (by simp)]

/-- Changing the index counts no request. -/
theorem dispatches_edit (change : Index.Edit) :
    (engine.edit change).metrics.dispatches = engine.metrics.dispatches :=
  Metrics.dispatches_foldl_record (engine.index.ofIndex_of_mem_change change) engine.metrics

/-- Carrying out an operation counts no request. -/
theorem dispatches_perform (plan : Plan α) :
    (engine.perform plan).2.metrics.dispatches = engine.metrics.dispatches := by
  have hedits : ∀ (edits : List Index.Edit) (start : Engine),
      (edits.foldl edit start).metrics.dispatches = start.metrics.dispatches := by
    intro edits
    induction edits with
    | nil => exact fun _ => rfl
    | cons change rest ih => exact fun start => (ih (start.edit change)).trans (start.dispatches_edit change)
  exact hedits plan.edits { engine with store := plan.store }

/-- Counting an operation counts no request. -/
theorem dispatches_counted (operation : Metrics.Operation) (done : Except EngineError α × Engine) :
    (counted operation done).2.metrics.dispatches = done.2.metrics.dispatches :=
  Metrics.dispatches_count (by simp) _

/-- **Calls** count no requests. -/
theorem dispatches_call (env : Surroundings) (call : Call) :
    (engine.call env call).2.metrics.dispatches = engine.metrics.dispatches := by
  cases call with
  | start =>
      have hmetrics : (engine.start env).2.metrics = (engine.perform (Plan.reload env engine.store)).2.metrics :=
        (apply_ite Engine.metrics _ _ _).trans (ite_self _)
      exact (congrArg Metrics.dispatches hmetrics).trans (engine.dispatches_perform _)
  | stop => rfl
  | create rule => exact (dispatches_counted .create _).trans (engine.dispatches_perform _)
  | createBatch rules => exact (dispatches_counted .createBatch _).trans (engine.dispatches_perform _)
  | update id changes => exact (dispatches_counted .update _).trans (engine.dispatches_perform _)
  | delete id => exact (dispatches_counted .delete _).trans (engine.dispatches_perform _)
  | toggle id => exact (dispatches_counted .toggle _).trans (engine.dispatches_perform _)
  | reload => exact (dispatches_counted .reload (withSize _)).trans (engine.dispatches_perform _)

end Engine

end StubServer
