import TableQuery.Action
import TableQuery.Cell
import TableQuery.Query.Statement

/-!
# The store

The tables live in a store that runs statements and can be asked which tables, columns and
indexes there are. A `Store` is such a store together with whatever stands between it and its
user; a call answers and leaves it in a new state.
-/

namespace TableQuery

/-- A column of a table in the store. -/
structure StoredColumn where
  name : String
  declared : String
  nullable : Bool
deriving DecidableEq, Repr

/-- An index of a table in the store. -/
structure StoredIndex where
  name : String
  /-- The columns of the index, as far as they are known. -/
  columns : List String
deriving DecidableEq, Repr

/-- A store. -/
class Store (σ : Type) where
  /-- The rows that a statement reads, so many cells of each. -/
  fetchRows : Statement → Nat → σ → Except StoreFault (List (List Cell)) × σ
  /-- The number that a statement reads. -/
  fetchCount : Statement → σ → Except StoreFault Nat × σ
  /-- Runs a statement that writes, and says how many rows it wrote. -/
  execute : Statement → σ → Except StoreFault Nat × σ
  listIndexes : String → σ → Except StoreFault (List StoredIndex) × σ
  /-- The columns of a table in their order; a table that is not there has none. -/
  describeTable : String → σ → Except StoreFault (List StoredColumn) × σ
  /-- The tables whose names begin with a text. -/
  listTables : String → σ → Except StoreFault (List String) × σ

namespace Store

/-- A call of the store as an operation. -/
def call {σ α : Type} (f : σ → Except StoreFault α × σ) : Action σ α :=
  .make fun store =>
    let (answer, store) := f store
    (match answer with
      | .ok a => .ok a
      | .error fault => .error (.store fault), store)

end Store

/-- The index as an object. -/
def StoredIndex.toJson (index : StoredIndex) : Json := .object [
  ("name", .string index.name),
  ("columns", .array (index.columns.map Json.string))]

/-- The column as it was declared. -/
def StoredColumn.toSpec (column : StoredColumn) : ColumnSpec :=
  ⟨column.name, column.declared, some column.nullable⟩

end TableQuery
