import TableQuery.Numeric.Decimal

/-!
# JSON values

Integers and floating-point numbers are kept apart, and an object keeps its fields in the
order in which they were written.
-/

namespace TableQuery

/-- A JSON number. A float is always finite. -/
inductive JsonNumber where
  | integer (value : Int)
  | float (value : Finite64)
deriving DecidableEq, Repr

/-- A JSON value. -/
inductive Json where
  | null
  | bool (value : Bool)
  | number (value : JsonNumber)
  | string (value : String)
  | array (items : List Json)
  | object (fields : List (String × Json))
deriving Inhabited

/-- The kinds of JSON values. -/
inductive JsonKind where
  | null | boolean | number | string | array | object
deriving DecidableEq, Repr

/-- The kind in words. -/
def JsonKind.phrase : JsonKind → String
  | .null => "null"
  | .boolean => "a boolean"
  | .number => "a number"
  | .string => "a string"
  | .array => "an array"
  | .object => "an object"

namespace JsonNumber

/-- The number as a signed integer of 64 bits, if it is one. -/
def int64? : JsonNumber → Option Int
  | .integer i => if minInt64 ≤ i ∧ i ≤ maxInt64 then some i else none
  | .float _ => none

/-- The number as a double. -/
def toBinary64 : JsonNumber → Binary64
  | .integer i => .ofInt i
  | .float x => .finite x

end JsonNumber

namespace Json

/-- The kind of a value. -/
def kind : Json → JsonKind
  | .null => .null
  | .bool _ => .boolean
  | .number _ => .number
  | .string _ => .string
  | .array _ => .array
  | .object _ => .object

/-- A whole number. -/
def int (i : Int) : Json := .number (.integer i)

/-- A natural number. -/
def nat (n : Nat) : Json := .int n

/-- A double; what is not finite becomes `null`. -/
def ofBinary64 : Binary64 → Json
  | .finite x => .number (.float x)
  | _ => .null

/-- The value of a field. -/
def field? (name : String) : Json → Option Json
  | .object fields => (fields.find? (·.1 == name)).map (·.2)
  | _ => none

/-- Sets a field: in its old place if the name is there, at the end if not. -/
def putField (fields : List (String × Json)) (name : String) (value : Json) :
    List (String × Json) :=
  match fields with
  | [] => [(name, value)]
  | (k, v) :: rest =>
    if k = name then (k, value) :: rest else (k, v) :: putField rest name value

/-- The fields after all the settings, the last one of a name being kept where the first one
stood. -/
def distinctFields (fields : List (String × Json)) : List (String × Json) :=
  fields.foldl (fun done field => putField done field.1 field.2) []

end Json

end TableQuery
