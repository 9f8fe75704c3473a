import TableQuery.Recording.Number
import TableQuery.Store.Prepared

/-!
# Recorded stores

The JSON form of what a store is asked and answers: parameters and cells are `"Null"` or an object
with one field, named for the kind. Prepared answers are read, and calls are written.
-/

namespace TableQuery

namespace Recording

/-! ## Parameters and cells -/

/-- A parameter. -/
def writeParam : Param → Json
  | .null => .string "Null"
  | .bool b => .object [("Bool", .bool b)]
  | .int i => .object [("Int", .int i)]
  | .float x => .object [("Float", writeDouble x)]
  | .text s => .object [("Text", .string s)]

/-- Reads a parameter. -/
def readParam? : Json → Option Param
  | .string "Null" => some .null
  | .object [("Bool", .bool b)] => some (.bool b)
  | .object [("Int", v)] => (readInteger? v).map .int
  | .object [("Float", v)] => (readDouble? v).map .float
  | .object [("Text", .string s)] => some (.text s)
  | _ => none

/-- A cell. -/
def writeCell : Cell → Json
  | .null => .string "Null"
  | .bool b => .object [("Bool", .bool b)]
  | .int i => .object [("Int", .int i)]
  | .bigInt i => .object [("BigInt", .string (toString i))]
  | .float x => .object [("Float", writeDouble x)]
  | .decimal s => .object [("Decimal", .string s)]
  | .text s => .object [("Text", .string s)]

/-- Reads a cell. -/
def readCell? : Json → Option Cell
  | .string "Null" => some .null
  | .object [("Bool", .bool b)] => some (.bool b)
  | .object [("Int", v)] => (readInteger? v).map .int
  | .object [("BigInt", v)] => (readInteger? v).map .bigInt
  | .object [("Float", v)] => (readDouble? v).map .float
  | .object [("Decimal", .string s)] => some (.decimal s)
  | .object [("Text", .string s)] => some (.text s)
  | _ => none

/-- The fields of a statement. -/
def statementFields (s : Statement) : List (String × Json) :=
  [("sql", .string s.sql), ("params", .array (s.params.map writeParam))]

/-! ## Calls -/

/-- A call of the store. -/
def writeCall : StoreCall → Json
  | .fetchRows s width =>
    .object (("call", .string "fetch_rows") :: statementFields s ++ [("width", .nat width)])
  | .fetchCount s => .object (("call", .string "fetch_count") :: statementFields s)
  | .execute s => .object (("call", .string "execute") :: statementFields s)
  | .listIndexes table => .object [("call", .string "list_indexes"), ("table", .string table)]
  | .describeTable table => .object [("call", .string "describe_table"), ("table", .string table)]
  | .listTables start => .object [("call", .string "list_tables"), ("prefix", .string start)]

/-! ## Answers -/

/-- The text of a field; nothing if it is not there. -/
def textField (v : Json) (name : String) : String :=
  match v.field? name with
  | some (.string s) => s
  | _ => ""

/-- The items of a field that can be read. -/
def listField {α : Type} (v : Json) (name : String) (read : Json → Option α) : List α :=
  match v.field? name with
  | some (.array items) => items.filterMap read
  | _ => []

/-- The number of a field; zero if it is not there. -/
def countField (v : Json) (name : String) : Nat :=
  match v.field? name with
  | some (.number (.integer i)) => i.toNat
  | _ => 0

/-- Reads a string. -/
def readText? : Json → Option String
  | .string s => some s
  | _ => none

/-- Reads a row of cells. -/
def readRow? : Json → Option (List Cell)
  | .array cells => cells.mapM readCell?
  | _ => none

/-- Reads an index. -/
def readIndex (v : Json) : StoredIndex := ⟨textField v "name", listField v "columns" readText?⟩

/-- Reads a column, which allows nulls unless it is said otherwise. -/
def readColumn (v : Json) : StoredColumn :=
  ⟨textField v "name", textField v "type",
    match v.field? "nullable" with
    | some (.bool b) => b
    | _ => true⟩

/-- Reads an answer for whatever is asked. -/
def readAnswer (v : Json) : PreparedAnswer where
  unavailable := (v.field? "unavailable").bind readText?
  rows := listField v "rows" readRow?
  count := countField v "count"
  affected := countField v "affected"
  indexes := listField v "indexes" (some ∘ readIndex)
  columns := listField v "columns" (some ∘ readColumn)
  tables := listField v "tables" readText?

end Recording

end TableQuery
