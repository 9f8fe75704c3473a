import TableQuery.Text.Blank

/-!
# Column types

What a column holds, as far as filters and writes care, and how that is read off a declared
type.
-/

namespace TableQuery

/-- What a column holds. -/
inductive ColumnType where
  | string
  | number
  | date
  | boolean
deriving DecidableEq, Repr

namespace ColumnType

/-- The name of the type. -/
def name : ColumnType → String
  | .string => "string"
  | .number => "number"
  | .date => "date"
  | .boolean => "boolean"

/-- The type with a name. -/
def ofName? (s : String) : Option ColumnType :=
  [ColumnType.string, .number, .date, .boolean].find? (·.name == s)

/-- Declared types of numbers. -/
def numberNames : List String := [
  "number", "numeric", "decimal", "int", "integer", "bigint", "smallint", "tinyint", "hugeint",
  "ubigint", "uinteger", "usmallint", "utinyint", "float", "double", "real", "double precision"]

/-- Declared types of dates and times. -/
def dateNames : List String := [
  "date", "datetime", "timestamp", "time", "timestamp with time zone", "timestamptz"]

/-- Declared types of truth values. -/
def booleanNames : List String := ["boolean", "bool"]

/-- The type that a declared type means, case and a precision in brackets aside. What is not
known is a string. -/
def infer (declared : String) : ColumnType :=
  let small := (lowerCase (trimBlank declared)).toList
  let base := String.ofList (trimChars (small.takeWhile (· != '(')))
  if numberNames.contains base then .number
  else if dateNames.contains base then .date
  else if booleanNames.contains base then .boolean
  else .string

/-- A search within the column's text has to turn the value into text first. -/
def needsTextCast (t : ColumnType) : Bool := t != .string

/-- The SQL type of a column in a newly made table. -/
def sqlType : ColumnType → String
  | .string => "VARCHAR"
  | .number => "DOUBLE"
  | .date => "DATE"
  | .boolean => "BOOLEAN"

end ColumnType

end TableQuery
