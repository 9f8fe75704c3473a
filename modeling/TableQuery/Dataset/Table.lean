import TableQuery.Fault

/-!
# Datasets and their tables

A dataset is named by 32 hexadecimal digits and lives in one table. The table always has the
number column `id`, which identifies its rows, and then the declared columns.

* `isDatasetId`: the names of datasets.
* `Table.declare`: the table that column declarations describe.
* `Table.column?`: the columns that filters may name.
-/

namespace TableQuery

/-- The column that identifies the rows of every table. -/
def keyColumnName : String := "id"

/-- What the names of all dataset tables begin with. -/
def tableStart : String := "data_"

/-- A digit or one of the letters `a` to `f`. -/
def isHexDigit (c : Char) : Bool := c.isDigit || (decide ('a' ≤ c) && decide (c ≤ 'f'))

/-- A dataset is named by 32 small hexadecimal digits. -/
def isDatasetId (id : String) : Bool := id.toList.length == 32 && id.toList.all isHexDigit

/-- Refuses what does not name a dataset. -/
def checkDatasetId (id : String) : Except QueryError Unit :=
  if isDatasetId id then .ok () else .error (.datasetId id)

/-- The table of a dataset. -/
def tableName (id : String) : String := tableStart ++ id

/-- A column as it is declared. -/
structure ColumnSpec where
  name : String
  declared : String
  nullable : Option Bool
deriving DecidableEq, Repr

/-- A column of a table. -/
structure Column where
  name : String
  type : ColumnType
  nullable : Bool
deriving DecidableEq, Repr

/-- The column that identifies rows holds numbers and is never null. -/
def keyColumn : Column := ⟨keyColumnName, .number, false⟩

/-- The shape of a dataset's table. -/
structure Table where
  datasetId : String
  name : String
  /-- The columns besides the key column. -/
  columns : List Column
  /-- The number of rows when all of them were last counted. -/
  rowCount : Nat
deriving DecidableEq, Repr

namespace Table

/-- Adds the declared columns to those that are there. The key column needs no declaration. -/
def addColumns (done : List Column) : List ColumnSpec → Except RequestFault (List Column)
  | [] => .ok done
  | spec :: rest =>
    if spec.name = "" then .error .columnNameEmpty
    else if spec.name = keyColumnName then addColumns done rest
    else if done.any (·.name == spec.name) then .error (.columnNameRepeated spec.name)
    else addColumns (done ++ [⟨spec.name, .infer spec.declared, spec.nullable.getD true⟩]) rest

/-- The table that the declarations describe. -/
def declare (id : String) (specs : List ColumnSpec) : Except QueryError Table := do
  checkDatasetId id
  match addColumns [] specs with
  | .ok columns => .ok ⟨id, tableName id, columns, 0⟩
  | .error fault => .error (.request fault)

/-- The column that a filter means by a name. -/
def column? (t : Table) (name : String) : Option Column :=
  if name = keyColumnName then some keyColumn else t.columns.find? (·.name == name)

/-- The column that a write means by a name; the key column is never written. -/
def writable? (t : Table) (name : String) : Option Column := t.columns.find? (·.name == name)

/-- The names of the values of a row, in order. -/
def outputColumns (t : Table) : List String := keyColumnName :: t.columns.map (·.name)

/-- Both tables belong to one dataset and have the same columns. -/
def sameShape (t u : Table) : Bool := t.datasetId == u.datasetId && t.columns == u.columns

end Table

end TableQuery
