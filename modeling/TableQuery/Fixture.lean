import TableQuery.Query.Execution

/-!
# Tables to try things on

Creates the table of a dataset in a store and fills it with rows.
-/

namespace TableQuery

/-- A column as a table's creation writes it. -/
def Column.definition (c : Column) : String :=
  quoteIdentifier c.name ++ " " ++ c.type.sqlType ++ (if c.nullable then "" else " NOT NULL")

/-- Creates a table. -/
def Table.creation (t : Table) : Statement :=
  let columns := (quoteIdentifier keyColumnName ++ " BIGINT NOT NULL") ::
    t.columns.map Column.definition
  ⟨"CREATE TABLE " ++ quoteIdentifier t.name ++ " (" ++ ", ".intercalate columns ++ ")", []⟩

variable {σ : Type} [Store σ]

/-- Creates the table in the store. -/
def createTable (t : Table) : Action σ Unit := do
  let _ ← Store.call (Store.execute t.creation)

/-- Inserts rows one at a time, each checked when its turn comes. -/
def seedRows (t : Table) : List Json → Action σ Unit
  | [] => pure ()
  | .object fields :: rest => do
    let _ ← insertRows t [fields]
    seedRows t rest
  | _ :: _ => throw (.request .seedNotObject)

end TableQuery
