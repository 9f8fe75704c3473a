import TableQuery.Database.Connection
import TableQuery.Store.Interface
import TableQuery.Text.Blank

/-!
# A database as a store

The calls of a store as statements for a connection. What there is in the store is read from
the catalog of the database.

* `indexColumns`: the columns of an index, from the statement that created it.
-/

namespace TableQuery

/-- Lists the indexes of a table. -/
def listIndexesSql : String := "SELECT index_name, sql FROM duckdb_indexes() WHERE table_name = ?"

/-- Lists the columns of a table. -/
def describeTableSql : String :=
  "SELECT column_name, data_type, is_nullable FROM information_schema.columns " ++
    "WHERE table_name = ? ORDER BY ordinal_position"

/-- Lists the tables. -/
def listTablesSql : String :=
  "SELECT table_name FROM information_schema.tables ORDER BY table_name"

/-- Two double quotes in a row become one. -/
def singleQuotes : List Char → List Char
  | '"' :: '"' :: rest => '"' :: singleQuotes rest
  | c :: rest => c :: singleQuotes rest
  | [] => []

/-- The name that a part of a column list stands for: blanks and double quotes around it go. -/
def unquoteColumn (part : List Char) : String :=
  let isQuote : Char → Bool := (· == '"')
  let bare := (((trimChars part).dropWhile isQuote).reverse.dropWhile isQuote).reverse
  String.ofList (singleQuotes bare)

/-- What stands between the first opening bracket and the last closing one after it. -/
def insideBrackets? (cs : List Char) : Option (List Char) :=
  match cs.dropWhile (· != '(') with
  | [] => none
  | _ :: behind =>
    match behind.reverse.dropWhile (· != ')') with
    | [] => none
    | _ :: inside => some inside.reverse

/-- The columns that a statement makes an index on. -/
def indexColumns (sql : String) : List String :=
  match insideBrackets? sql.toList with
  | none => []
  | some inside => ((splitAtEach ',' inside).map unquoteColumn).filter (· != "")

/-- A store in a database. -/
structure DatabaseStore (κ : Type) where
  connection : κ

namespace DatabaseStore

variable {κ α : Type} [Connection κ]

/-- Runs a statement and reads what came back. -/
def run (sql : String) (params : List DatabaseValue)
    (read : StatementOutcome → Except String α) (s : DatabaseStore κ) :
    Except StoreFault α × DatabaseStore κ :=
  let (outcome, connection) := Connection.run sql params s.connection
  (match read outcome with
    | .ok a => .ok a
    | .error detail => .error (.database detail), ⟨connection⟩)

/-- Runs a statement of a caller. -/
def runStatement (statement : Statement) (read : StatementOutcome → Except String α) :
    DatabaseStore κ → Except StoreFault α × DatabaseStore κ :=
  run statement.sql (statement.params.map DatabaseValue.ofParam) read

/-- An index of the catalog; the columns of one without a statement are not known. -/
def readIndex (row : List DatabaseValue) : Except String StoredIndex := do
  let name ← DatabaseRow.text row 0
  let sql ← DatabaseRow.optionalText row 1
  .ok ⟨name, (sql.map indexColumns).getD []⟩

/-- A column of the catalog. -/
def readColumn (row : List DatabaseValue) : Except String StoredColumn := do
  let name ← DatabaseRow.text row 0
  let declared ← DatabaseRow.text row 1
  let nullable ← DatabaseRow.text row 2
  .ok ⟨name, declared, lowerCase nullable == "yes"⟩

instance : Store (DatabaseStore κ) where
  fetchRows statement width :=
    runStatement statement (StatementOutcome.readAll (DatabaseRow.cells width))
  fetchCount statement :=
    runStatement statement (StatementOutcome.readFirst (DatabaseRow.count · 0))
  execute statement := runStatement statement StatementOutcome.written
  listIndexes table := run listIndexesSql [.text table] (StatementOutcome.readAll readIndex)
  describeTable table := run describeTableSql [.text table] (StatementOutcome.readAll readColumn)
  listTables start := run listTablesSql [] fun outcome =>
    (outcome.readAll (DatabaseRow.text · 0)).map fun names => names.filter (beginsWith start)

end DatabaseStore

end TableQuery
