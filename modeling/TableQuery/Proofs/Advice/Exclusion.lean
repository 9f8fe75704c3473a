import TableQuery.Proofs.Advice.Advisor
import TableQuery.Proofs.History

/-!
# Advice in the background, one at a time

The mark of a table says two things at once: that an advice in the background is on its way, and
that an advice has ended well. However runs come between one another, a table has one advice in the
background at a time, and a failed one may be tried again.

* `IsRunning`, `IsLeftMarked`: what a history says of a table.
* `Advisor.Sound`: the marks and the runs are as the history says, kept by every step.
* `background_advice_exclusive`: one advice in the background at a time, and when a new one starts.
-/

namespace TableQuery

/-! ## Marks -/

namespace AdviceMarks

variable {m : AdviceMarks} {table name : String}

theorem isMarked_mark :
    (m.mark table).isMarked name = true ↔ table = name ∨ m.isMarked name = true := by
  unfold mark
  split
  · rename_i hmarked
    constructor
    · exact .inr
    · rintro (rfl | h)
      · exact hmarked
      · exact h
  · simp [isMarked, @eq_comm _ table]

theorem isMarked_unmark :
    (m.unmark table).isMarked name = true ↔ table ≠ name ∧ m.isMarked name = true := by
  simp [unmark, isMarked, and_comm, @eq_comm _ table]

end AdviceMarks

/-! ## Histories -/

namespace AdviceEvent

/-- An advice in the background for the table has begun. -/
def Begins (name : String) (e : AdviceEvent) : Prop := e = .spawned name

/-- An advice in the background for the table has ended. -/
def Ends (name : String) (e : AdviceEvent) : Prop := ∃ hasReport, e = .ended name true hasReport

/-- An advice in the background for the table has failed. -/
def Fails (name : String) (e : AdviceEvent) : Prop := e = .ended name true false

/-- An advice on the table has ended with a report. -/
def Reports (name : String) (e : AdviceEvent) : Prop :=
  ∃ background, e = .ended name background true

/-- The table has been marked, by a start in the background or by a report. -/
def Marks (name : String) (e : AdviceEvent) : Prop := e.Begins name ∨ e.Reports name

end AdviceEvent

open AdviceEvent

/-- An advice in the background has begun for the table and has not ended. -/
def IsRunning (name : String) (history : List AdviceEvent) : Prop :=
  Since (Begins name) (Ends name) history

/-- An advice has ended with a report and left the table marked: none in the background has failed
since. -/
def IsLeftMarked (name : String) (history : List AdviceEvent) : Prop :=
  Since (Reports name) (Fails name) history

section

variable {history : List AdviceEvent} {name name' : String}

@[simp] theorem isRunning_spawned :
    IsRunning name (history ++ [.spawned name']) ↔ name' = name ∨ IsRunning name history := by
  simp [IsRunning, since_append, Begins, Ends]

@[simp] theorem isRunning_ended {background hasReport : Bool} :
    IsRunning name (history ++ [.ended name' background hasReport]) ↔
      ¬(name' = name ∧ background = true) ∧ IsRunning name history := by
  simp [IsRunning, since_append, Begins, Ends]

@[simp] theorem isLeftMarked_spawned :
    IsLeftMarked name (history ++ [.spawned name']) ↔ IsLeftMarked name history := by
  simp [IsLeftMarked, since_append, Reports, Fails]

@[simp] theorem isLeftMarked_ended {background hasReport : Bool} :
    IsLeftMarked name (history ++ [.ended name' background hasReport]) ↔
      (name' = name ∧ hasReport = true) ∨
        ¬(name' = name ∧ background = true ∧ hasReport = false) ∧ IsLeftMarked name history := by
  simp [IsLeftMarked, since_append, Reports, Fails]

end

/-! ## What one step does -/

theorem AdviceRun.isInFlight_of_answered {run : AdviceRun}
    {result : Except QueryError AdviceReport} (h : run.inspection = .answered result)
    (name : String) :
    run.isInFlight name = true ↔ run.table.name = name ∧ run.background = true := by
  simp [isInFlight, h, Inspection.isDone, and_comm]

/-- How the end of a run changes the mark of a table. -/
theorem AdviceRun.isMarked_settle (run : AdviceRun) (result : Except QueryError AdviceReport)
    (m : AdviceMarks) (name : String) :
    (run.settle result m).isMarked name = true ↔
      (run.table.name = name ∧ result.toBool = true) ∨
        ¬(run.table.name = name ∧ run.background = true ∧ result.toBool = false) ∧
          m.isMarked name = true := by
  unfold settle
  cases run.background <;> cases result <;>
    simp [AdviceMarks.afterBackground, AdviceMarks.afterDirect, AdviceMarks.isMarked_mark,
      AdviceMarks.isMarked_unmark, Except.toBool]

namespace Advisor

variable {σ : Type} {a : Advisor σ} {name : String}

/-- One run more. -/
theorem countP_runs_append (runs : List AdviceRun) (run : AdviceRun) :
    (runs ++ [run]).countP (·.isInFlight name) =
      runs.countP (·.isInFlight name) + if run.isInFlight name then 1 else 0 := by
  rw [List.countP_append, List.countP_singleton]

/-- The run at a place has changed. -/
theorem countP_runs_set (name : String) {runs : List AdviceRun} {i : Nat} {run : AdviceRun}
    (next : AdviceRun) (h : runs[i]? = some run) :
    (runs.set i next).countP (·.isInFlight name) + (if run.isInFlight name then 1 else 0) =
      runs.countP (·.isInFlight name) + if next.isInFlight name then 1 else 0 := by
  obtain ⟨hi, rfl⟩ := List.getElem?_eq_some_iff.mp h
  have hthere : (if runs[i].isInFlight name then 1 else 0) ≤ runs.countP (·.isInFlight name) := by
    split
    · exact List.countP_pos_iff.mpr ⟨runs[i], List.getElem_mem hi, ‹_›⟩
    · exact Nat.zero_le _
  rw [List.countP_set hi]
  omega

/-- A run that ends is not in flight any more. -/
theorem inFlight_finish {i : Nat} {run : AdviceRun} (hrun : a.runs[i]? = some run)
    (result : Except QueryError AdviceReport) (name : String) :
    (a.finish i run result).inFlight name + (if run.isInFlight name then 1 else 0) =
      a.inFlight name := by
  refine (countP_runs_set name _ hrun).trans ?_
  simp [AdviceRun.isInFlight, Inspection.isDone, inFlight]

/-! ## What holds between the parts -/

/-- The runs and the marks are as the history says. -/
structure Sound (a : Advisor σ) : Prop where
  exclusive : ∀ name, a.inFlight name ≤ 1
  running : ∀ name, 0 < a.inFlight name ↔ IsRunning name a.history
  marked : ∀ name, a.advised.isMarked name = true ↔
    IsRunning name a.history ∨ IsLeftMarked name a.history

theorem start_sound (store : σ) : (start store).Sound where
  exclusive _ := Nat.zero_le 1
  running _ := ⟨fun h => absurd h (Nat.lt_irrefl 0), fun h => absurd h not_since_nil⟩
  marked _ := ⟨nofun, fun h => (h.elim not_since_nil not_since_nil).elim⟩

namespace Sound

/-- Runs that are in flight as before, with the marks and the history of before. -/
theorem of_inFlight (h : a.Sound) {store : σ} {runs : List AdviceRun}
    (hruns : ∀ name, runs.countP (·.isInFlight name) = a.inFlight name) :
    Sound { a with store, runs } where
  exclusive name := (hruns name).trans_le (h.exclusive name)
  running name := by
    rw [← h.running name, ← hruns name]
    rfl
  marked := h.marked

theorem launch (h : a.Sound) (table : Table) (hfree : a.advised.isMarked table.name = false) :
    (a.launch table (a.advised.mark table.name)).Sound := by
  have hidle : ¬0 < a.inFlight table.name := by
    intro hpos
    cases hfree.symm.trans ((h.marked _).mpr (.inl ((h.running _).mp hpos)))
  have hcount (name : String) : (a.launch table (a.advised.mark table.name)).inFlight name =
      a.inFlight name + if table.name = name then 1 else 0 := by
    refine (countP_runs_append _ _).trans ?_
    simp [AdviceRun.isInFlight, Inspection.isDone, inFlight]
  refine ⟨fun name => ?_, fun name => ?_, fun name => ?_⟩
  · rw [hcount]
    split
    · subst_vars
      omega
    · exact h.exclusive name
  · rw [hcount]
    unfold Advisor.launch
    rw [isRunning_spawned, ← h.running]
    split <;> simp_all
  · unfold Advisor.launch
    rw [AdviceMarks.isMarked_mark, isRunning_spawned, isLeftMarked_spawned, h.marked, or_assoc]

theorem advise (h : a.Sound) (table : Table) : (a.advise table).Sound := by
  refine h.of_inFlight fun name => ?_
  exact countP_runs_append _ _

theorem finish (h : a.Sound) {i : Nat} {run : AdviceRun} (hrun : a.runs[i]? = some run)
    {result : Except QueryError AdviceReport} (hanswered : run.inspection = .answered result) :
    (a.finish i run result).Sound := by
  have hflight := AdviceRun.isInFlight_of_answered hanswered
  have hcount := inFlight_finish hrun result
  refine ⟨fun name => ?_, fun name => ?_, fun name => ?_⟩
  · exact (Nat.le.intro (hcount name)).trans (h.exclusive name)
  · have hold := h.exclusive name
    have hnew := hcount name
    have hrunning : IsRunning name (a.finish i run result).history ↔
        ¬run.isInFlight name = true ∧ IsRunning name a.history := by
      rw [hflight]
      exact isRunning_ended
    rw [hrunning, ← h.running]
    by_cases hfly : run.isInFlight name = true
    · rw [if_pos hfly] at hnew
      exact ⟨fun hpos => by omega, fun hkept => absurd hfly hkept.1⟩
    · rw [if_neg hfly, Nat.add_zero] at hnew
      rw [hnew]
      exact ⟨fun hpos => ⟨hfly, hpos⟩, And.right⟩
  · unfold Advisor.finish AdviceRun.ending
    rw [AdviceRun.isMarked_settle, isRunning_ended, isLeftMarked_ended, h.marked]
    by_cases hname : run.table.name = name
    · cases run.background <;> cases result.toBool <;> simp [hname]
    · simp [hname]

theorem goOn (h : a.Sound) {i : Nat} {run : AdviceRun} (hrun : a.runs[i]? = some run)
    (hopen : run.inspection.isDone = false) {inspection : Inspection}
    (hstill : inspection.isDone = false) (store : σ) :
    Sound { a with store, runs := a.runs.set i { run with inspection } } := by
  refine h.of_inFlight fun name => ?_
  have hset := countP_runs_set name { run with inspection } hrun
  have hkept : AdviceRun.isInFlight name { run with inspection } = run.isInFlight name := by
    simp only [AdviceRun.isInFlight, hopen, hstill]
  rw [hkept] at hset
  exact Nat.add_right_cancel hset

theorem change {b : Advisor σ} (hchange : a.Change b) (h : a.Sound) : b.Sound := by
  cases hchange with
  | nothing => exact h
  | launched table hfree => exact h.launch table hfree
  | asked table => exact h.advise table
  | goneOn hrun hopen hstill store => exact h.goOn hrun hopen hstill store
  | finished hrun hanswered => exact h.finish hrun hanswered

end Sound

end Advisor

/-! ## One at a time -/

/-- **Advice in the background is exclusive.** Whatever comes between the parts of any number of
runs, a table has one advice in the background at a time. A new one is refused exactly where one is
on its way or an advice that has ended has left the table marked, so it begins after one that has
failed, if nothing has marked the table since. -/
theorem background_advice_exclusive {σ : Type} [Store σ] (store : σ)
    (steps : List (Instant × AdvisorStep)) :
    let a := (Advisor.start store).after steps
    (∀ name, a.inFlight name ≤ 1) ∧
      (∀ table, (a.spawn table).1 = none ↔
        0 < a.inFlight table.name ∨ IsLeftMarked table.name a.history) ∧
      ∀ table, Since (Fails table.name) (Marks table.name) a.history →
        (a.spawn table).1 = some a.runs.length ∧
          (a.spawn table).2.runs = a.runs ++ [⟨table, true, .describing⟩] := by
  intro a
  have hsound : a.Sound :=
    Advisor.after_keeps Advisor.Sound.change (Advisor.start_sound store) steps
  refine ⟨hsound.exclusive, fun table => ?_, fun table hfailed => ?_⟩
  · rw [hsound.running, ← hsound.marked]
    rcases a.spawn_cases table with ⟨hmarked, hspawn⟩ | ⟨hunmarked, hspawn⟩
    · simp [hmarked, hspawn]
    · simp [hunmarked, hspawn]
  · have hidle : ¬IsRunning table.name a.history := fun hrunning =>
      hfailed.absurd hrunning (fun e he => ⟨false, he⟩) (fun e he => .inl he) (by
        rintro e rfl hbegins
        cases hbegins)
    have hleft : ¬IsLeftMarked table.name a.history := fun hmarked =>
      hfailed.absurd hmarked (fun e he => he) (fun e he => .inr he) (by
        rintro e rfl ⟨background, hreports⟩
        cases hreports)
    rcases a.spawn_cases table with ⟨hmarked, -⟩ | ⟨-, hspawn⟩
    · exact (((hsound.marked _).mp hmarked).elim hidle hleft).elim
    · rw [hspawn]
      exact ⟨rfl, rfl⟩

/-- A store that is busy when it is first asked. -/
def busyFirst : PreparedStore :=
  ⟨[{ PreparedAnswer.nothing with unavailable := some "busy" }], []⟩

/-- An advice on the orders begins in the background and fails. -/
def failingFirst : List (Instant × AdvisorStep) := [
  (⟨1⟩, .spawn orders), (⟨2⟩, .spawn orders), (⟨3⟩, .proceed 0), (⟨4⟩, .proceed 0)]

theorem background_advice_exclusive_busy :
    let a := (Advisor.start busyFirst).after failingFirst
    a.history = [.spawned orders.name, .ended orders.name true false] ∧
      a.inFlight orders.name ≤ 1 ∧ (a.spawn orders).1 = some 1 := by
  intro a
  have hhistory : a.history = [.spawned orders.name, .ended orders.name true false] := by
    decide +kernel
  have hruns : a.runs.length = 1 := by decide +kernel
  obtain ⟨hexclusive, -, hretried⟩ := background_advice_exclusive busyFirst failingFirst
  have hfailed : Since (Fails orders.name) (Marks orders.name) a.history :=
    ⟨[.spawned orders.name], _, [], hhistory, rfl, nofun⟩
  refine ⟨hhistory, hexclusive _, ?_⟩
  rw [(hretried orders hfailed).1, hruns]

end TableQuery
