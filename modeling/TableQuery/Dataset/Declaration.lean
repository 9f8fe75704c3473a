import TableQuery.Dataset.Table
import TableQuery.Json.Record

/-!
# Tables and column declarations as JSON

* `ColumnSpec.ofJson?` / `ColumnSpec.listOfJson?`: declared columns.
* `Table.toJson`: the shape of a table, and `Table.ofText?`, which reads it back.
-/

namespace TableQuery

namespace ColumnSpec

/-- The declared type; missing is blank. -/
def declaredOf? : Option Json → Option String
  | none => some ""
  | some (.string s) => some s
  | some _ => none

/-- Whether nulls are declared to be allowed. -/
def nullableOf? : Option Json → Option (Option Bool)
  | none | some .null => some none
  | some (.bool b) => some (some b)
  | some _ => none

/-- A declared column: an object, or an array of the name, the type and whether nulls are
allowed. Only the name must be there. -/
def ofJson? : Json → Option ColumnSpec
  | .object fields => do
    let find (name : String) := (Json.object fields).field? name
    let .string name ← find "name" | none
    let declared ← declaredOf? (find "type")
    let nullable ← nullableOf? (find "nullable")
    some ⟨name, declared, nullable⟩
  | .array items => do
    let .string name :: rest := items | none
    if 2 < rest.length then none
    else
      let declared ← declaredOf? rest[0]?
      let nullable ← nullableOf? rest[1]?
      some ⟨name, declared, nullable⟩
  | _ => none

/-- Declared columns; `null` declares none. -/
def listOfJson? : Json → Option (List ColumnSpec)
  | .null => some []
  | .array items => items.mapM ofJson?
  | _ => none

end ColumnSpec

namespace Column

/-- The column as an object. -/
def toJson (c : Column) : Json := .object [
  ("name", .string c.name),
  ("semanticType", .string c.type.name),
  ("nullable", .bool c.nullable)]

/-- Reads a column. -/
def ofSyntax? (tree : JsonSyntax) : Option Column := do
  let [name, type, nullable] ← tree.record? ["name", "semanticType", "nullable"] | none
  let name ← name.text?
  let type ← type.choice?.bind ColumnType.ofName?
  let nullable ← nullable.bool?
  some ⟨name, type, nullable⟩

end Column

namespace Table

/-- The fields of the table. -/
def fields (t : Table) : List (String × Json) := [
  ("datasetId", .string t.datasetId),
  ("physicalName", .string t.name),
  ("columns", .array (t.columns.map Column.toJson)),
  ("rowCountHint", .nat t.rowCount)]

/-- The table as an object. -/
def toJson (t : Table) : Json := .object t.fields

/-- Reads a table. -/
def ofSyntax? (tree : JsonSyntax) : Option Table := do
  let [id, name, columns, rows] ←
    tree.record? ["datasetId", "physicalName", "columns", "rowCountHint"] | none
  let datasetId ← id.text?
  let name ← name.text?
  let columns ← (← columns.items?).mapM Column.ofSyntax?
  let rowCount ← rows.word?
  some ⟨datasetId, name, columns, rowCount⟩

/-- Reads the JSON text of a table. -/
def ofText? (text : String) : Option Table := (JsonSyntax.parse? text).bind ofSyntax?

end Table

end TableQuery
