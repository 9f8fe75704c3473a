import TableQuery.Json.Value

/-!
# Values up to the order of fields

`Json.canonical` puts the fields of every object in the order of their names, so that two values
that differ in that order alone become one.
-/

namespace TableQuery

namespace Json

/-- Puts a field among fields that are in the order of their names. Names are compared by their
code points. -/
def insertField (field : String × Json) : List (String × Json) → List (String × Json)
  | [] => [field]
  | f :: rest => if f.1 < field.1 then f :: insertField field rest else field :: f :: rest

/-- The fields in the order of their names. -/
def sortFields (fields : List (String × Json)) : List (String × Json) :=
  fields.foldr insertField []

mutual

/-- The value with the fields of every object in the order of their names. -/
def canonical : Json → Json
  | .array items => .array (canonicalItems items)
  | .object fields => .object (sortFields (canonicalFields fields))
  | .null => .null
  | .bool b => .bool b
  | .number n => .number n
  | .string s => .string s

/-- Each item in its canonical form. -/
def canonicalItems : List Json → List Json
  | [] => []
  | v :: rest => canonical v :: canonicalItems rest

/-- Each field with its value in its canonical form. -/
def canonicalFields : List (String × Json) → List (String × Json)
  | [] => []
  | (k, v) :: rest => (k, canonical v) :: canonicalFields rest

end

end Json

end TableQuery
