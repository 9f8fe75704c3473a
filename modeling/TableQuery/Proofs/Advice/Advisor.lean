import Mathlib.Logic.Function.Iterate
import TableQuery.Proofs.Advice.Report
import TableQuery.Proofs.Engine.Operation

/-!
# Advice part by part

An advice waits for the store several times, and others go on in the meantime: advice that was
asked for, and advice in the background, which begins with a mark on its table.

* `Inspection`: how far an advice has got, and its next part.
* `Advisor`: marks, a store and any number of runs, each somewhere between its parts, with a
  history of what has begun and ended.
* `Advisor.spawn`, `Advisor.proceed`, `Advisor.next`: what can happen next.
* `proceed_alone`: a run that nothing comes between is `adviseTable`, and it changes the marks as
  `Engine.advise` and `Engine.inspect` do.
-/

namespace TableQuery

/-! ## One advice -/

/-- How far an advice has got. -/
inductive Inspection where
  /-- The columns of the table are to be asked for. -/
  | describing
  /-- The table is there, and its indexes are to be listed. -/
  | listing
  /-- An index is to be tried, and others are to be gone through after it. -/
  | trying (existing : List StoredIndex) (report : AdviceReport) (plan : IndexPlan)
      (rest : List IndexPlan)
  /-- The store is not needed any more, and the table is still to be marked or not. -/
  | answered (result : Except QueryError AdviceReport)
  | done (result : Except QueryError AdviceReport)
deriving DecidableEq

namespace Inspection

/-- Goes through planned indexes up to the next one that is to be tried. -/
def passing (existing : List StoredIndex) (report : AdviceReport) : List IndexPlan → Inspection
  | [] => answered (.ok report)
  | p :: rest =>
    if p.isCovered existing then passing existing (report.skip p) rest
    else trying existing report p rest

/-- The advice has ended. -/
def isDone : Inspection → Bool
  | done _ => true
  | describing | listing | trying .. | answered _ => false

/-- The store is to be asked next. -/
def waits : Inspection → Bool
  | describing | listing | trying .. => true
  | answered _ | done _ => false

variable {σ : Type} [Store σ]

/-- The next call of the store, and what comes of its answer. -/
def next (now : Instant) (table : Table) (store : σ) : Inspection → Inspection × σ
  | describing =>
    let (answer, store) := Store.describeTable table.name store
    (match answer with
      | .error fault => answered (.error (.store fault))
      | .ok columns =>
        if columns.isEmpty then answered (.error (.notFound ("table " ++ table.name)))
        else listing, store)
  | listing =>
    let (answer, store) := Store.listIndexes table.name store
    (match answer with
      | .error fault => answered (.error (.store fault))
      | .ok existing => passing existing (.start table.name) table.indexPlans, store)
  | trying existing report plan rest =>
    let (answer, store) := Store.execute plan.statement store
    (passing existing (report.note now plan (answer.mapError .store)) rest, store)
  | answered result => (answered result, store)
  | done result => (done result, store)

theorem isDone_of_waits {inspection : Inspection} (h : inspection.waits = true) :
    inspection.isDone = false := by
  cases inspection with
  | done result => cases h
  | describing | listing | trying | answered => rfl

theorem isDone_passing (existing : List StoredIndex) (report : AdviceReport)
    (plans : List IndexPlan) : (passing existing report plans).isDone = false := by
  induction plans generalizing report with
  | nil => rfl
  | cons p rest ih =>
    unfold passing
    split
    · exact ih _
    · rfl

theorem isDone_next (now : Instant) (table : Table) (store : σ) {inspection : Inspection}
    (h : inspection.isDone = false) :
    (inspection.next now table store).1.isDone = false := by
  cases inspection with
  | describing =>
    unfold next
    simp only
    split
    · rfl
    · split <;> rfl
  | listing =>
    unfold next
    simp only
    split
    · rfl
    · exact isDone_passing _ _ _
  | trying existing report p rest => exact isDone_passing _ _ _
  | answered result => rfl
  | done result => cases h

end Inspection

/-! ## Several at a time -/

/-- An advice on a table, asked for or in the background. -/
structure AdviceRun where
  table : Table
  background : Bool
  inspection : Inspection
deriving DecidableEq

/-- What is noted in a history, each with the name of the table. -/
inductive AdviceEvent where
  /-- An advice in the background has been started. -/
  | spawned (name : String)
  /-- An advice has ended, with a report or without. -/
  | ended (name : String) (background hasReport : Bool)
deriving DecidableEq

namespace AdviceRun

/-- The run has begun in the background for the table and has not ended. -/
def isInFlight (name : String) (run : AdviceRun) : Bool :=
  run.background && run.table.name == name && !run.inspection.isDone

/-- The marks after the run. -/
def settle (run : AdviceRun) (result : Except QueryError AdviceReport) (marks : AdviceMarks) :
    AdviceMarks :=
  if run.background then marks.afterBackground run.table.name result
  else marks.afterDirect run.table.name result

/-- The end of the run. -/
def ending (run : AdviceRun) (result : Except QueryError AdviceReport) : AdviceEvent :=
  .ended run.table.name run.background result.toBool

end AdviceRun

/-- Runs of advice on one store. -/
structure Advisor (σ : Type) where
  store : σ
  advised : AdviceMarks
  /-- The runs, the one that began first at the front. -/
  runs : List AdviceRun
  /-- What has begun and ended, the oldest first. -/
  history : List AdviceEvent

/-- Who goes on. -/
inductive AdvisorStep where
  /-- Advice on a table is wanted in the background. -/
  | spawn (table : Table)
  /-- Advice on a table is asked for. -/
  | advise (table : Table)
  /-- The run at a place goes on. -/
  | proceed (i : Nat)

namespace Advisor

variable {σ : Type}

/-- Nothing has begun. -/
def start (store : σ) : Advisor σ := ⟨store, .none, [], []⟩

/-- How many runs are in flight in the background for a table. -/
def inFlight (a : Advisor σ) (name : String) : Nat := a.runs.countP (·.isInFlight name)

/-- Begins an advice in the background, with these marks. -/
def launch (a : Advisor σ) (table : Table) (advised : AdviceMarks) : Advisor σ := { a with
  advised
  runs := a.runs ++ [⟨table, true, .describing⟩]
  history := a.history ++ [.spawned table.name] }

/-- Starts an advice in the background, unless the table is marked, and says at which place. -/
def spawn (table : Table) (a : Advisor σ) : Option Nat × Advisor σ :=
  match a.advised.claim? table.name with
  | some advised => (some a.runs.length, a.launch table advised)
  | none => (none, a)

/-- Begins an advice that is asked for. -/
def advise (table : Table) (a : Advisor σ) : Advisor σ :=
  { a with runs := a.runs ++ [⟨table, false, .describing⟩] }

/-- Ends the run at a place. -/
def finish (a : Advisor σ) (i : Nat) (run : AdviceRun) (result : Except QueryError AdviceReport) :
    Advisor σ := { a with
  advised := run.settle result a.advised
  runs := a.runs.set i { run with inspection := .done result }
  history := a.history ++ [run.ending result] }

variable [Store σ]

/-- The next part of the run at a place. -/
def proceed (now : Instant) (i : Nat) (a : Advisor σ) : Advisor σ :=
  match a.runs[i]? with
  | none => a
  | some run =>
    match run.inspection with
    | .answered result => a.finish i run result
    | .done _ => a
    | inspection =>
      let (inspection, store) := inspection.next now run.table a.store
      { a with store, runs := a.runs.set i { run with inspection } }

section

variable {now : Instant} {i : Nat} {a : Advisor σ} {run : AdviceRun}

theorem proceed_none (h : a.runs[i]? = none) : a.proceed now i = a := by
  simp only [proceed, h]

theorem proceed_waiting (h : a.runs[i]? = some run) (hwaits : run.inspection.waits = true) :
    a.proceed now i = { a with
      store := (run.inspection.next now run.table a.store).2
      runs := a.runs.set i
        { run with inspection := (run.inspection.next now run.table a.store).1 } } := by
  obtain ⟨table, background, inspection⟩ := run
  unfold proceed
  rw [h]
  cases inspection with
  | answered result => cases hwaits
  | done result => cases hwaits
  | describing | listing | trying => rfl

theorem proceed_answered {result : Except QueryError AdviceReport} (h : a.runs[i]? = some run)
    (hanswered : run.inspection = .answered result) : a.proceed now i = a.finish i run result := by
  simp only [proceed, h, hanswered]

theorem proceed_done {result : Except QueryError AdviceReport} (h : a.runs[i]? = some run)
    (hdone : run.inspection = .done result) : a.proceed now i = a := by
  simp only [proceed, h, hdone]

end

/-- One step. -/
def next (now : Instant) (a : Advisor σ) : AdvisorStep → Advisor σ
  | .spawn table => (a.spawn table).2
  | .advise table => a.advise table
  | .proceed i => a.proceed now i

/-- The state after steps. -/
def after (steps : List (Instant × AdvisorStep)) (a : Advisor σ) : Advisor σ :=
  steps.foldl (fun a step => a.next step.1 step.2) a

/-! ## What one step does -/

omit [Store σ] in
theorem spawn_cases (table : Table) (a : Advisor σ) :
    (a.advised.isMarked table.name = true ∧ a.spawn table = (none, a)) ∨
      (a.advised.isMarked table.name = false ∧ a.spawn table =
        (some a.runs.length, a.launch table (a.advised.mark table.name))) := by
  unfold spawn AdviceMarks.claim?
  cases a.advised.isMarked table.name with
  | true => exact .inl ⟨rfl, rfl⟩
  | false => exact .inr ⟨rfl, rfl⟩

/-- What a step may do. -/
inductive Change (a : Advisor σ) : Advisor σ → Prop where
  | nothing : a.Change a
  | launched (table : Table) (hfree : a.advised.isMarked table.name = false) :
    a.Change (a.launch table (a.advised.mark table.name))
  | asked (table : Table) : a.Change (a.advise table)
  /-- A run goes on and does not end. -/
  | goneOn {i : Nat} {run : AdviceRun} (hrun : a.runs[i]? = some run)
    (hopen : run.inspection.isDone = false) {inspection : Inspection}
    (hstill : inspection.isDone = false) (store : σ) :
    a.Change { a with store, runs := a.runs.set i { run with inspection } }
  | finished {i : Nat} {run : AdviceRun} (hrun : a.runs[i]? = some run)
    {result : Except QueryError AdviceReport} (hanswered : run.inspection = .answered result) :
    a.Change (a.finish i run result)

theorem proceed_change (now : Instant) (i : Nat) (a : Advisor σ) : a.Change (a.proceed now i) := by
  cases hrun : a.runs[i]? with
  | none =>
    rw [proceed_none hrun]
    exact .nothing
  | some run =>
    cases hinspection : run.inspection with
    | answered result =>
      rw [proceed_answered hrun hinspection]
      exact .finished hrun hinspection
    | done result =>
      rw [proceed_done hrun hinspection]
      exact .nothing
    | describing | listing | trying =>
      have hwaits : run.inspection.waits = true := by rw [hinspection]; rfl
      have hopen := Inspection.isDone_of_waits hwaits
      rw [proceed_waiting hrun hwaits]
      exact .goneOn hrun hopen (Inspection.isDone_next now run.table a.store hopen) _

theorem next_change (now : Instant) (step : AdvisorStep) (a : Advisor σ) :
    a.Change (a.next now step) := by
  cases step with
  | spawn table =>
    show a.Change (a.spawn table).2
    rcases spawn_cases table a with ⟨-, hspawn⟩ | ⟨hfree, hspawn⟩
    · rw [hspawn]
      exact .nothing
    · rw [hspawn]
      exact .launched table hfree
  | advise table => exact .asked table
  | proceed i => exact proceed_change now i a

/-- What every step keeps is true after all of them. -/
theorem after_keeps {P : Advisor σ → Prop} (hkeeps : ∀ {a b}, a.Change b → P a → P b)
    {a : Advisor σ} (h : P a) (steps : List (Instant × AdvisorStep)) : P (a.after steps) := by
  induction steps generalizing a with
  | nil => exact h
  | cons first rest ih => exact ih (hkeeps (next_change first.1 first.2 a) h)

/-! ## A run that nothing comes between -/

section

variable {a : Advisor σ} {i : Nat} {run : AdviceRun} {now : Instant}

/-- The run at a place has got somewhere, and the store with it. -/
def moved (a : Advisor σ) (i : Nat) (run : AdviceRun) (s : Inspection × σ) : Advisor σ :=
  { a with store := s.2, runs := a.runs.set i { run with inspection := s.1 } }

omit [Store σ] in
theorem moved_eq_self (hrun : a.runs[i]? = some run) :
    a.moved i run (run.inspection, a.store) = a := by
  obtain ⟨hi, hget⟩ := List.getElem?_eq_some_iff.mp hrun
  cases hget
  unfold moved
  rw [List.set_getElem_self]

omit [Store σ] in
theorem runs_moved (hi : i < a.runs.length) (s : Inspection × σ) :
    (a.moved i run s).runs[i]? = some { run with inspection := s.1 } :=
  List.getElem?_set_self hi

theorem proceed_moved (hi : i < a.runs.length) {s : Inspection × σ} (hwaits : s.1.waits = true) :
    (a.moved i run s).proceed now i = a.moved i run (s.1.next now run.table s.2) := by
  rw [proceed_waiting (runs_moved hi s) hwaits]
  simp only [moved, List.set_set]

theorem proceed_moved_answered (hi : i < a.runs.length) (result : Except QueryError AdviceReport)
    (store : σ) :
    (a.moved i run (.answered result, store)).proceed now i =
      ({ a with store }).finish i run result := by
  rw [proceed_answered (runs_moved hi _) rfl]
  simp only [moved, finish, AdviceRun.settle, AdviceRun.ending, List.set_set]

/-- The run at a place gets from one point to another by its own parts. -/
def Reaches (a : Advisor σ) (i : Nat) (run : AdviceRun) (now : Instant) (s t : Inspection × σ) :
    Prop :=
  ∃ n, (proceed now i)^[n] (a.moved i run s) = a.moved i run t

theorem Reaches.step (hi : i < a.runs.length) {s t : Inspection × σ} (hwaits : s.1.waits = true)
    (h : a.Reaches i run now (s.1.next now run.table s.2) t) : a.Reaches i run now s t := by
  obtain ⟨n, hn⟩ := h
  refine ⟨n + 1, ?_⟩
  rw [Function.iterate_succ_apply, proceed_moved hi hwaits, hn]

theorem reaches_createMissing (hi : i < a.runs.length) (existing : List StoredIndex)
    (report : AdviceReport) (plans : List IndexPlan) (store : σ) :
    a.Reaches i run now (.passing existing report plans, store)
      (.answered ((createMissing now existing report plans).exec store).1,
        ((createMissing now existing report plans).exec store).2) := by
  induction plans generalizing report store with
  | nil => exact ⟨0, rfl⟩
  | cons p rest ih =>
    unfold Inspection.passing createMissing
    cases hcovered : p.isCovered existing with
    | true =>
      rw [if_pos rfl, if_pos rfl]
      exact ih (report.skip p) store
    | false =>
      rw [if_neg Bool.false_ne_true, if_neg Bool.false_ne_true]
      apply Reaches.step hi rfl
      rw [Action.exec_bind, Action.exec_attempt, Store.exec_call]
      exact ih _ _

theorem reaches_adviseTable (hi : i < a.runs.length) (store : σ) :
    a.Reaches i run now (.describing, store)
      (.answered ((adviseTable now run.table).exec store).1,
        ((adviseTable now run.table).exec store).2) := by
  apply Reaches.step hi rfl
  unfold adviseTable Inspection.next
  rw [Action.exec_bind, Store.exec_call]
  obtain ⟨columns, described⟩ := Store.describeTable run.table.name store
  cases columns with
  | error fault => exact ⟨0, rfl⟩
  | ok columns =>
    simp only [Except.mapError]
    split
    · exact ⟨0, rfl⟩
    · apply Reaches.step hi rfl
      unfold Inspection.next
      rw [Action.exec_bind, Store.exec_call]
      obtain ⟨existing, listed⟩ := Store.listIndexes run.table.name described
      cases existing with
      | error fault => exact ⟨0, rfl⟩
      | ok existing => exact reaches_createMissing hi existing _ _ listed

/-- A run that nothing comes between does what `adviseTable` does and ends. -/
theorem proceed_alone (hrun : a.runs[i]? = some run) (hbegins : run.inspection = .describing)
    (now : Instant) :
    ∃ n, (proceed now i)^[n] a =
      ({ a with store := ((adviseTable now run.table).exec a.store).2 }).finish i run
        ((adviseTable now run.table).exec a.store).1 := by
  have hi : i < a.runs.length := (List.getElem?_eq_some_iff.mp hrun).1
  obtain ⟨n, hn⟩ : a.Reaches i run now (.describing, a.store) _ := reaches_adviseTable hi a.store
  rw [← hbegins, moved_eq_self hrun] at hn
  refine ⟨n + 1, ?_⟩
  rw [Function.iterate_succ_apply', hn, proceed_moved_answered hi]

end

end Advisor

namespace Engine

variable {σ ρ : Type}

/-- Where an engine starts an inspection in the background, an advisor starts a run. -/
theorem startInspection_spawn (table : Table) (e : Engine σ ρ) :
    let a := (Advisor.spawn table ⟨e.store, e.advised, [], []⟩).2
    ((startInspection table).exec e).2 = { e with
      advised := a.advised, inspections := e.inspections ++ a.runs.map (·.table) } := by
  unfold startInspection Advisor.spawn
  rw [Action.exec_modify]
  cases e.advised.claim? table.name with
  | some advised => rfl
  | none => simp

/-- The advice of an engine, as a run of its own. -/
def advisor (e : Engine σ ρ) (table : Table) (background : Bool) : Advisor σ :=
  ⟨e.store, e.advised, [⟨table, background, .describing⟩], []⟩

variable [Store σ]

/-- An inspection in the background is a run in the background that nothing comes between. -/
theorem inspect_alone (now : Instant) (table : Table) (e : Engine σ ρ) :
    ∃ n, let a := (Advisor.proceed now 0)^[n] (e.advisor table true)
      ((inspect now table).exec e).2 = { e with store := a.store, advised := a.advised } := by
  obtain ⟨n, hn⟩ := Advisor.proceed_alone (a := e.advisor table true) (i := 0) rfl rfl now
  refine ⟨n, ?_⟩
  rw [hn]
  rfl

/-- An advice that is asked for is a run that nothing comes between. -/
theorem advise_alone (now : Instant) {id : String} {table : Table} {e : Engine σ ρ}
    (h : e.registry.get id = .ok table) :
    ∃ n, let a := (Advisor.proceed now 0)^[n] (e.advisor table false)
      ((advise now id).exec e).2 = { e with store := a.store, advised := a.advised } := by
  obtain ⟨n, hn⟩ := Advisor.proceed_alone (a := e.advisor table false) (i := 0) rfl rfl now
  refine ⟨n, ?_⟩
  rw [hn]
  unfold advise
  rw [Action.exec_bind, table_exec, h]
  simp only [Action.exec_bind, Action.exec_attempt, Action.exec_modify, Action.exec_check]
  rfl

end Engine

end TableQuery
