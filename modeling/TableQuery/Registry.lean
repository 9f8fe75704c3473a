import TableQuery.Dataset.Table
import TableQuery.Store.Interface
import TableQuery.Text.Blank

/-!
# The registry

The tables that can be queried, one for each registered dataset, in the order of the datasets.

* `Registry.register`: declares the columns of a dataset; the same columns once more change
  nothing.
* `Registry.drop`, `Registry.updateRowCount`: the other changes.
* `Registry.get`, `Registry.list`: one table, and all of them.
* `discoverDatasets`: the datasets that tables of a store belong to.
-/

namespace TableQuery

/-- The registered tables. -/
structure Registry where
  tables : List Table
deriving DecidableEq, Repr

/-- What a registration came to. -/
inductive Registration where
  /-- The dataset was there with the same columns. -/
  | reused
  | added
  /-- The dataset was there with other columns. -/
  | replaced
deriving DecidableEq, Repr

namespace Registry

/-- No datasets. -/
def empty : Registry := ⟨[]⟩

/-- The table of a dataset, if it is registered. -/
def find? (r : Registry) (id : String) : Option Table := r.tables.find? (·.datasetId == id)

/-- The table of a dataset. -/
def get (r : Registry) (id : String) : Except QueryError Table := do
  checkDatasetId id
  match r.find? id with
  | some table => .ok table
  | none => .error (.notFound id)

/-- The tables of all datasets, in the order of the datasets. -/
def list (r : Registry) : List Table := r.tables

/-- Puts a table among tables in the order of their datasets. -/
def insertIn (table : Table) : List Table → List Table
  | [] => [table]
  | t :: rest =>
    if t.datasetId = table.datasetId then table :: rest
    else if t.datasetId < table.datasetId then t :: insertIn table rest
    else table :: t :: rest

/-- Registers the columns of a dataset. -/
def register (r : Registry) (id : String) (specs : List ColumnSpec) :
    Except QueryError (Table × Registration × Registry) := do
  let table ← Table.declare id specs
  match r.find? id with
  | none => .ok (table, .added, ⟨insertIn table r.tables⟩)
  | some existing =>
    if existing.sameShape table then .ok (existing, .reused, r)
    else .ok (table, .replaced, ⟨insertIn table r.tables⟩)

/-- Forgets a dataset, and says whether it was registered. -/
def drop (r : Registry) (id : String) : Except QueryError (Bool × Registry) := do
  checkDatasetId id
  .ok ((r.find? id).isSome, ⟨r.tables.filter (·.datasetId != id)⟩)

/-- Notes how many rows a dataset has. -/
def updateRowCount (r : Registry) (id : String) (rows : Nat) : Registry :=
  ⟨r.tables.map fun t => if t.datasetId = id then { t with rowCount := rows } else t⟩

/-- Declarations of the columns that the store has for a dataset. -/
def readSpecs {σ : Type} [Store σ] (id : String) : Action σ (List ColumnSpec) := do
  Action.check (checkDatasetId id)
  let columns ← Store.call (Store.describeTable (tableName id))
  if columns.isEmpty then throw (.notFound id)
  else pure (columns.map StoredColumn.toSpec)

end Registry

/-- The dataset that a table belongs to. -/
def datasetOf? (table : String) : Option String :=
  if beginsWith tableStart table then
    let id := String.ofList (table.toList.drop tableStart.length)
    if isDatasetId id then some id else none
  else none

/-- The datasets that have a table in the store. -/
def discoverDatasets {σ : Type} [Store σ] : Action σ (List String) := do
  let tables ← Store.call (Store.listTables tableStart)
  pure (tables.filterMap datasetOf?)

end TableQuery
