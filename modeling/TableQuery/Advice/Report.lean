import TableQuery.Advice.Plan
import TableQuery.Store.Interface
import TableQuery.Time.Duration

/-!
# Advice on a table

The indexes that a table should have are created unless they are there. An index that cannot be
created is reported and does not keep the others from being tried.

* `adviseTable`: the advice on one table.
* `AdviceMarks`: the tables that have been advised on or are about to be, so that each is
  inspected in the background once.
-/

namespace TableQuery

/-- An index that was created. -/
structure CreatedIndex where
  plan : IndexPlan
  createdAt : Instant
deriving DecidableEq, Repr

/-- What became of the planned indexes of a table. -/
structure AdviceReport where
  table : String
  created : List CreatedIndex
  /-- The names of those that were there. -/
  skipped : List String
  /-- Those that failed, each with its error. -/
  errors : List (String × QueryError)
deriving DecidableEq, Repr

/-- The index is there: by its name, or as an index on just its column. -/
def IndexPlan.isCovered (p : IndexPlan) (existing : List StoredIndex) : Bool :=
  existing.any fun index => index.name == p.name || index.columns == [p.column]

namespace AdviceReport

/-- Nothing done yet. -/
def start (table : String) : AdviceReport := ⟨table, [], [], []⟩

/-- Notes what became of an index. -/
def note (r : AdviceReport) (now : Instant) (p : IndexPlan) : Except QueryError Nat → AdviceReport
  | .ok _ => { r with created := r.created ++ [⟨p, now⟩] }
  | .error e => { r with errors := r.errors ++ [(p.name, e)] }

/-- Notes that an index is there. -/
def skip (r : AdviceReport) (p : IndexPlan) : AdviceReport :=
  { r with skipped := r.skipped ++ [p.name] }

/-- The report as an object. -/
def toJson (showTime : Instant → String) (r : AdviceReport) : Json := .object [
  ("tableName", .string r.table),
  ("created", .array (r.created.map fun c => .object [
    ("name", .string c.plan.name),
    ("tableName", .string c.plan.table),
    ("columns", .array [.string c.plan.column]),
    ("createdAt", .string (showTime c.createdAt))])),
  ("skipped", .array (r.skipped.map Json.string)),
  ("errors", .array (r.errors.map fun e => .string (e.1 ++ ": " ++ e.2.message)))]

end AdviceReport

section

variable {σ : Type} [Store σ]

/-- Creates the planned indexes that are not there, one after the other. -/
def createMissing (now : Instant) (existing : List StoredIndex) (report : AdviceReport) :
    List IndexPlan → Action σ AdviceReport
  | [] => pure report
  | p :: rest =>
    if p.isCovered existing then createMissing now existing (report.skip p) rest
    else do
      let outcome ← (Store.call (Store.execute p.statement)).attempt
      createMissing now existing (report.note now p outcome) rest

/-- Inspects a table and creates the indexes that it lacks. -/
def adviseTable (now : Instant) (table : Table) : Action σ AdviceReport := do
  let columns ← Store.call (Store.describeTable table.name)
  if columns.isEmpty then throw (.notFound ("table " ++ table.name))
  else
    let existing ← Store.call (Store.listIndexes table.name)
    createMissing now existing (.start table.name) table.indexPlans

end

/-! ## Marks -/

/-- The names of the tables that are not to be inspected in the background. -/
structure AdviceMarks where
  tables : List String
deriving DecidableEq, Repr

namespace AdviceMarks

/-- No table is marked. -/
def none : AdviceMarks := ⟨[]⟩

/-- The table is marked. -/
def isMarked (m : AdviceMarks) (table : String) : Bool := m.tables.contains table

/-- Marks a table. -/
def mark (m : AdviceMarks) (table : String) : AdviceMarks :=
  if m.isMarked table then m else ⟨table :: m.tables⟩

/-- Takes the mark of a table away. -/
def unmark (m : AdviceMarks) (table : String) : AdviceMarks := ⟨m.tables.filter (· != table)⟩

/-- Marks a table for an inspection in the background, unless it is marked. -/
def claim? (m : AdviceMarks) (table : String) : Option AdviceMarks :=
  if m.isMarked table then .none else some (m.mark table)

/-- An inspection that was asked for has ended. -/
def afterDirect {α : Type} (m : AdviceMarks) (table : String) : Except QueryError α → AdviceMarks
  | .ok _ => m.mark table
  | .error _ => m

/-- An inspection in the background has ended; where it failed, it may be tried again. -/
def afterBackground {α : Type} (m : AdviceMarks) (table : String) :
    Except QueryError α → AdviceMarks
  | .ok _ => m.mark table
  | .error _ => m.unmark table

end AdviceMarks

end TableQuery
