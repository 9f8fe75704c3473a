import TableQuery.Proofs.Advice.Exclusion

/-!
# Advice that overlaps

A table that has had its advice stays marked and is not inspected in the background again, with one
exception. An advice that is asked for may end with a report while one in the background is on its
way for the same table, and if that one fails later, it takes the mark away.

* `Advisor.Remembers`: the table is marked, and nothing is in flight for it that was not before.
* `Advisor.HasFailed`: an advice in the background that was in flight has failed.
* `remembers_or_hasFailed`: one or the other, however the runs go on.
* `advice_remembered`: what becomes of a table that has had its advice.
* `advice_forgotten`: a table that is inspected again.
-/

namespace TableQuery

namespace Advisor

variable {σ : Type} {a b c : Advisor σ} {name : String}

/-- The table is marked, and what is in flight for it was in flight before. -/
structure Remembers (a : Advisor σ) (name : String) (b : Advisor σ) : Prop where
  marked : b.advised.isMarked name = true
  inFlight : ∀ (j : Nat) (run : AdviceRun), b.runs[j]? = some run → run.isInFlight name = true →
    ∃ old, a.runs[j]? = some old ∧ old.isInFlight name = true ∧
      run = { old with inspection := run.inspection }

/-- An advice in the background that was in flight for the table has failed. -/
def HasFailed (a : Advisor σ) (name : String) (b : Advisor σ) : Prop :=
  ∃ (j : Nat) (run : AdviceRun) (fault : QueryError), a.runs[j]? = some run ∧
    run.isInFlight name = true ∧ b.runs[j]? = some { run with inspection := .done (.error fault) }

theorem Remembers.refl (h : a.advised.isMarked name = true) : Remembers a name a where
  marked := h
  inFlight _ run hrun hflight := ⟨run, hrun, hflight, rfl⟩

theorem Remembers.trans (h : Remembers a name b) (h' : Remembers b name c) :
    Remembers a name c where
  marked := h'.marked
  inFlight j run hrun hflight := by
    obtain ⟨middle, hmiddle, hmiddleFlight, hrunEq⟩ := h'.inFlight j run hrun hflight
    obtain ⟨old, hold, holdFlight, hmiddleEq⟩ := h.inFlight j middle hmiddle hmiddleFlight
    refine ⟨old, hold, holdFlight, ?_⟩
    rw [hrunEq, hmiddleEq]

theorem Remembers.hasFailed (h : Remembers a name b) (h' : HasFailed b name c) :
    HasFailed a name c := by
  obtain ⟨j, run, fault, hrun, hflight, hfailed⟩ := h'
  obtain ⟨old, hold, holdFlight, heq⟩ := h.inFlight j run hrun hflight
  refine ⟨j, old, fault, hold, holdFlight, ?_⟩
  rw [hfailed, heq]

/-! ## What one step does -/

/-- Nothing but a run that is not in flight for the table has been added. -/
theorem remembers_append {run : AdviceRun} (hidle : run.isInFlight name = false)
    {advised : AdviceMarks} {history : List AdviceEvent} (hmarked : advised.isMarked name = true) :
    Remembers b name { b with advised, history, runs := b.runs ++ [run] } where
  marked := hmarked
  inFlight j other hother hflight := by
    rw [List.getElem?_append] at hother
    split at hother
    · exact ⟨other, hother, hflight, rfl⟩
    · rw [List.mem_singleton.mp (List.mem_of_getElem? hother), hidle] at hflight
      cases hflight

/-- Nothing but the run at a place has changed, and it is in flight only if it was. -/
theorem remembers_set {i : Nat} {run : AdviceRun} (hrun : b.runs[i]? = some run)
    {inspection : Inspection}
    (hflight : AdviceRun.isInFlight name { run with inspection } = true →
      run.isInFlight name = true)
    {store : σ} {advised : AdviceMarks} {history : List AdviceEvent}
    (hmarked : advised.isMarked name = true) :
    Remembers b name ⟨store, advised, b.runs.set i { run with inspection }, history⟩ where
  marked := hmarked
  inFlight j other hother hotherFlight := by
    rw [List.getElem?_set] at hother
    split at hother
    · subst_vars
      split at hother
      · cases hother
        exact ⟨run, hrun, hflight hotherFlight, rfl⟩
      · cases hother
    · exact ⟨other, hother, hotherFlight, rfl⟩

/-- The end of a run takes the mark of a table only if the run was in the background and failed. -/
theorem remembers_finish (hmarked : b.advised.isMarked name = true) {i : Nat} {run : AdviceRun}
    (hrun : b.runs[i]? = some run) {result : Except QueryError AdviceReport}
    (hanswered : run.inspection = .answered result) :
    Remembers b name (b.finish i run result) ∨ HasFailed b name (b.finish i run result) := by
  by_cases htakes : run.table.name = name ∧ run.background = true ∧ result.toBool = false
  · obtain ⟨hname, hbackground, hfailed⟩ := htakes
    cases result with
    | ok report => cases hfailed
    | error fault =>
      have hflight := (AdviceRun.isInFlight_of_answered hanswered name).mpr ⟨hname, hbackground⟩
      exact .inr ⟨i, run, fault, hrun, hflight,
        List.getElem?_set_self (List.getElem?_eq_some_iff.mp hrun).1⟩
  · refine .inl (remembers_set hrun (fun hflight => ?_) ?_)
    · simp [AdviceRun.isInFlight, Inspection.isDone] at hflight
    · exact AdviceRun.isMarked_settle run result b.advised name |>.mpr (.inr ⟨htakes, hmarked⟩)

theorem remembers_change (hmarked : b.advised.isMarked name = true) (hchange : b.Change c) :
    Remembers b name c ∨ HasFailed b name c := by
  cases hchange with
  | nothing => exact .inl (.refl hmarked)
  | launched table hfree =>
    have hne : table.name ≠ name := by
      rintro rfl
      cases hmarked.symm.trans hfree
    exact .inl (remembers_append (by simp [AdviceRun.isInFlight, hne])
      (AdviceMarks.isMarked_mark.mpr (.inr hmarked)))
  | asked table => exact .inl (remembers_append rfl hmarked)
  | goneOn hrun hopen hstill store =>
    refine .inl (remembers_set hrun (fun hflight => ?_) hmarked)
    simp_all [AdviceRun.isInFlight]
  | finished hrun hanswered => exact remembers_finish hmarked hrun hanswered

/-- A run that has ended stays as it is. -/
theorem done_stays (hchange : b.Change c) {j : Nat} {run : AdviceRun}
    (hrun : b.runs[j]? = some run) (hdone : run.inspection.isDone = true) :
    c.runs[j]? = some run := by
  have hj : j < b.runs.length := (List.getElem?_eq_some_iff.mp hrun).1
  have hother {i : Nat} {other : AdviceRun} (h : b.runs[i]? = some other)
      (hopen : other.inspection.isDone = false) : i ≠ j := by
    rintro rfl
    cases hrun.symm.trans h
    cases hdone.symm.trans hopen
  cases hchange with
  | nothing => exact hrun
  | launched table hfree => exact (List.getElem?_append_left hj).trans hrun
  | asked table => exact (List.getElem?_append_left hj).trans hrun
  | goneOn hi hopen hstill store => exact (List.getElem?_set_ne (hother hi hopen)).trans hrun
  | finished hi hanswered =>
    have hopen := hother hi (by rw [hanswered]; rfl)
    exact (List.getElem?_set_ne hopen).trans hrun

theorem HasFailed.change (h : HasFailed a name b) (hchange : b.Change c) : HasFailed a name c := by
  obtain ⟨j, run, fault, hrun, hflight, hfailed⟩ := h
  exact ⟨j, run, fault, hrun, hflight, done_stays hchange hfailed rfl⟩

/-- The table stays marked, or an advice in the background that was in flight fails. -/
theorem remembers_or_hasFailed [Store σ] (hmarked : a.advised.isMarked name = true)
    (steps : List (Instant × AdvisorStep)) :
    Remembers a name (a.after steps) ∨ HasFailed a name (a.after steps) := by
  refine after_keeps (P := fun b => Remembers a name b ∨ HasFailed a name b) ?_
    (.inl (.refl hmarked)) steps
  rintro b c hchange (hremembers | hfailed)
  · exact (remembers_change hremembers.marked hchange).imp hremembers.trans hremembers.hasFailed
  · exact .inr (hfailed.change hchange)

end Advisor

/-! ## Tables that have had their advice -/

/-- A table whose advice has ended with a report stays marked, and no advice in the background
begins for it, unless the advice was asked for while one in the background was on its way, and that
one has failed since. -/
theorem advice_remembered {σ : Type} [Store σ] {store : σ} {steps : List (Instant × AdvisorStep)}
    {i : Nat} {run : AdviceRun} {report : AdviceReport}
    (hrun : ((Advisor.start store).after steps).runs[i]? = some run)
    (hanswered : run.inspection = .answered (.ok report)) (now : Instant)
    (later : List (Instant × AdvisorStep)) :
    let a := ((Advisor.start store).after steps).proceed now i
    let b := a.after later
    (b.advised.isMarked run.table.name = true ∧
        ∀ table : Table, table.name = run.table.name → b.spawn table = (none, b)) ∨
      run.background = false ∧ a.HasFailed run.table.name b := by
  intro a b
  have hsound := Advisor.after_keeps Advisor.Sound.change (Advisor.start_sound store) steps
  have ha : a = _ := Advisor.proceed_answered hrun hanswered
  have hmarked : a.advised.isMarked run.table.name = true := by
    rw [ha]
    exact (AdviceRun.isMarked_settle run _ _ _).mpr (.inl ⟨rfl, rfl⟩)
  rcases Advisor.remembers_or_hasFailed hmarked later with hremembers | hfailed
  · refine .inl ⟨hremembers.marked, fun table htable => ?_⟩
    rcases Advisor.spawn_cases table b with ⟨-, hspawn⟩ | ⟨hfree, -⟩
    · exact hspawn
    · rw [htable] at hfree
      cases hremembers.marked.symm.trans hfree
  · refine .inr ⟨?_, hfailed⟩
    -- An advice in the background that ends is the only one, so that no other is left to fail.
    obtain ⟨j, other, -, hother, hflight, -⟩ := hfailed
    have hpos : 0 < a.inFlight run.table.name :=
      List.countP_pos_iff.mpr ⟨other, List.mem_of_getElem? hother, hflight⟩
    have hcount := Advisor.inFlight_finish hrun (.ok report) run.table.name
    have hone := hsound.exclusive run.table.name
    rw [← ha] at hcount
    by_contra hbackground
    rw [if_pos ((AdviceRun.isInFlight_of_answered hanswered _).mpr
      ⟨rfl, Bool.eq_true_of_not_eq_false hbackground⟩)] at hcount
    omega

/-! ### A table that is inspected again -/

/-- A table that only its key column has an index planned for. -/
def flags : Table where
  datasetId := ordersId
  name := "data_0123456789abcdef0123456789abcdef"
  columns := [⟨"flag", .boolean, true⟩]
  rowCount := 0

/-- The index on the key is there, and then the store is busy. -/
def busyLater : PreparedStore where
  answers := [
    { PreparedAnswer.nothing with columns := [⟨"id", "BIGINT", false⟩] },
    { PreparedAnswer.nothing with indexes := [⟨"by_id", ["id"]⟩] },
    { PreparedAnswer.nothing with unavailable := some "busy" }]
  calls := []

/-- Advice on the flags begins in the background and is then asked for, and the one that is asked
for goes on. -/
def overlapping : List (Instant × AdvisorStep) := [
  (⟨1⟩, .spawn flags), (⟨2⟩, .advise flags), (⟨3⟩, .proceed 1), (⟨4⟩, .proceed 1)]

/-- The one in the background goes on and fails. -/
def failingLater : List (Instant × AdvisorStep) := [(⟨6⟩, .proceed 0), (⟨7⟩, .proceed 0)]

/-- The advice that is asked for, when the store is not needed any more. -/
def flagsRun : AdviceRun :=
  ⟨flags, false, .answered (.ok ⟨flags.name, [], [indexName ordersId "id"], []⟩)⟩

theorem advice_remembered_overlapping :
    let a := (Advisor.start busyLater).after overlapping
    a.runs[1]? = some flagsRun ∧
      (a.proceed ⟨5⟩ 1).HasFailed flags.name ((a.proceed ⟨5⟩ 1).after failingLater) := by
  intro a
  have hrun : a.runs[1]? = some flagsRun := by decide +kernel
  have hunmarked : ((a.proceed ⟨5⟩ 1).after failingLater).advised.isMarked flags.name = false := by
    decide +kernel
  refine ⟨hrun, ?_⟩
  rcases advice_remembered hrun rfl ⟨5⟩ failingLater with ⟨hmarked, -⟩ | ⟨-, hfailed⟩
  · cases hmarked.symm.trans hunmarked
  · exact hfailed

/-- Advice that has ended with a report may be forgotten, and the table inspected again. -/
theorem advice_forgotten :
    (¬∀ (store : PreparedStore) (steps later : List (Instant × AdvisorStep)) (now : Instant)
      (i : Nat) (run : AdviceRun) (report : AdviceReport),
      ((Advisor.start store).after steps).runs[i]? = some run →
        run.inspection = .answered (.ok report) →
          ((((Advisor.start store).after steps).proceed now i).after later).advised.isMarked
            run.table.name = true) ∧
    ¬∀ (store : PreparedStore) (steps later : List (Instant × AdvisorStep)) (now : Instant)
      (i : Nat) (run : AdviceRun) (report : AdviceReport),
      ((Advisor.start store).after steps).runs[i]? = some run →
        run.inspection = .answered (.ok report) →
          (((((Advisor.start store).after steps).proceed now i).after later).spawn run.table).1 =
            none := by
  have hrun : ((Advisor.start busyLater).after overlapping).runs[1]? = some flagsRun := by
    decide +kernel
  constructor
  · intro h
    have hmarked := h busyLater overlapping failingLater ⟨5⟩ 1 flagsRun _ hrun rfl
    have hunmarked : ((((Advisor.start busyLater).after overlapping).proceed ⟨5⟩ 1).after
        failingLater).advised.isMarked flags.name = false := by decide +kernel
    cases hmarked.symm.trans hunmarked
  · intro h
    have hrefused := h busyLater overlapping failingLater ⟨5⟩ 1 flagsRun _ hrun rfl
    have hbegins : (((((Advisor.start busyLater).after overlapping).proceed ⟨5⟩ 1).after
        failingLater).spawn flags).1 = some 2 := by decide +kernel
    cases hrefused.symm.trans hbegins

end TableQuery
