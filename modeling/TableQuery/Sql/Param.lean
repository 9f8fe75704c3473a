import TableQuery.Fault
import TableQuery.Json.Printer

/-!
# Parameters of statements

A value never becomes part of a statement's text: it is bound to a placeholder. `Param.coerce`
turns the JSON value of a filter or a written row into the parameter that fits its column.
-/

namespace TableQuery

/-- A value bound to a placeholder. -/
inductive Param where
  | null
  | bool (value : Bool)
  | int (value : Int)
  | float (value : Binary64)
  | text (value : String)
deriving DecidableEq, Repr

/-- A value as the statement builder holds it; each kind has a null of its own. -/
inductive BoundValue where
  | bool (value : Option Bool)
  | signed (value : Option Int)
  | unsigned (value : Option Nat)
  | float (value : Option Binary64)
  | text (value : Option String)
  | bytes (value : Option (List UInt8))
deriving DecidableEq, Repr

namespace Param

/-- Null. -/
def isNull : Param → Bool
  | .null => true
  | _ => false

/-- The value as text, for patterns. -/
def plainText : Param → String
  | .null => ""
  | .bool b => if b then "true" else "false"
  | .int i => toString i
  | .float x => plainNumber.write x
  | .text s => s

/-- The value for the statement builder. -/
def toBound : Param → BoundValue
  | .null => .text none
  | .bool b => .bool (some b)
  | .int i => .signed (some i)
  | .float x => .float (some x)
  | .text s => .text (some s)

/-- How bytes are quoted in a fault. -/
def showBytes : Option (List UInt8) → String
  | none => "Bytes(None)"
  | some bytes => "Bytes(Some([" ++ ", ".intercalate (bytes.map fun b => toString b.toNat) ++ "]))"

/-- The parameter of a value of the statement builder. -/
def ofBound : BoundValue → Except RequestFault Param
  | .bool (some b) => .ok (.bool b)
  | .signed (some i) => .ok (.int i)
  | .unsigned (some n) => if (n : Int) ≤ maxInt64 then .ok (.int n) else .error (.valueRange n)
  | .float (some x) => .ok (.float x)
  | .text (some s) => .ok (.text s)
  | .bytes b => .error (.unsupportedValue (showBytes b))
  | .bool none | .signed none | .unsigned none | .float none | .text none => .ok .null

/-- A number is an integer parameter if it is a signed word of 64 bits. -/
def ofNumber (n : JsonNumber) : Param :=
  match n.int64? with
  | some i => .int i
  | none => .float n.toBinary64

/-- The number that a text writes, blanks around it aside. -/
def ofNumeral? (s : String) : Option Param :=
  let cs := trimChars s.toList
  match readInteger? minInt64 maxInt64 cs with
  | some i => some (.int i)
  | none =>
    match readBinary64? cs with
    | some x => if x.isFinite then some (.float x) else none
    | none => none

/-- The truth value that a text writes, blanks and case aside. -/
def ofTruthText? (s : String) : Option Param :=
  match lowerCase (trimBlank s) with
  | "true" | "1" => some (.bool true)
  | "false" | "0" => some (.bool false)
  | _ => none

/-- The truth value that a number stands for. -/
def ofTruthNumber? (n : JsonNumber) : Option Param :=
  match n.int64? with
  | some 0 => some (.bool false)
  | some 1 => some (.bool true)
  | _ => none

/-- The parameter of a scalar for a column of the type, if it fits. Columns of strings and
dates take every scalar as text. -/
def ofScalar? : ColumnType → Json → Option Param
  | .number, .number n => some (.ofNumber n)
  | .number, .string s => ofNumeral? s
  | .number, _ => none
  | .boolean, .bool b => some (.bool b)
  | .boolean, .number n => ofTruthNumber? n
  | .boolean, .string s => ofTruthText? s
  | .boolean, _ => none
  | .string, v => some (.text v.plainText)
  | .date, v => some (.text v.plainText)

/-- The parameter of a JSON value for a column of the type. `field` is named in the fault. -/
def coerce (value : Json) (type : ColumnType) (field : String) : Except RequestFault Param :=
  match value with
  | .null => .ok .null
  | .array _ | .object _ => .error (.scalarExpected field value.compact)
  | _ =>
    match ofScalar? type value with
    | some p => .ok p
    | none => .error (.typeMismatch field type value.compact)

end Param

end TableQuery
