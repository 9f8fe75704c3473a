import TableQuery.Dataset.Table
import TableQuery.Hash.Sha256
import TableQuery.Query.Statement
import TableQuery.Text.Blank

/-!
# Planned indexes

Which columns of a table should have an index: the key column, numbers and dates, and columns
whose name suggests that they are looked up.
-/

namespace TableQuery

/-- An index on one column. -/
structure IndexPlan where
  name : String
  table : String
  column : String
deriving DecidableEq, Repr

/-- Parts of names of columns that are looked up. -/
def lookupNames : List String := [
  "name", "title", "code", "no", "number", "id", "key", "date", "time", "created", "updated",
  "status", "type", "category", "user", "customer", "order", "product"]

/-- One text stands in another. -/
def isWithinChars (part : List Char) : List Char → Bool
  | [] => part.isEmpty
  | c :: rest => part.isPrefixOf (c :: rest) || isWithinChars part rest

/-- The column should have an index. -/
def Column.wantsIndex (c : Column) : Bool :=
  c.type == .number || c.type == .date ||
    lookupNames.any fun part => isWithinChars part.toList (lowerCase c.name).toList

/-- The name of the index on a column: the dataset and the first 8 digits of a digest of the
column's name. -/
def indexName (datasetId column : String) : String :=
  "idx_" ++ datasetId ++ "_" ++ String.ofList ((Sha256.hexDigest column).toList.take 8)

namespace Table

/-- The index on a column. -/
def indexOn (t : Table) (column : String) : IndexPlan :=
  ⟨indexName t.datasetId column, t.name, column⟩

/-- The indexes that the table should have, that on the key column first. -/
def indexPlans (t : Table) : List IndexPlan :=
  t.indexOn keyColumnName ::
    (t.columns.filter Column.wantsIndex).map fun c => t.indexOn c.name

end Table

/-- Creates the index. -/
def IndexPlan.statement (p : IndexPlan) : Statement :=
  ⟨"CREATE INDEX IF NOT EXISTS " ++ quoteIdentifier p.name ++ " ON " ++ quoteIdentifier p.table ++
    " (" ++ quoteIdentifier p.column ++ ")", []⟩

end TableQuery
