import TableQuery.Database.Connection
import TableQuery.Recording.Number

/-!
# Recorded outcomes

The JSON notation of database values and of what statements came to: `null` is the string
`"Null"`, any other value an object with one field, named for the kind. A recording is an array of
outcomes, in the order of the statements.
-/

namespace TableQuery

namespace Recording

/-- A unit of time. -/
def readUnit? : Json → Option TickUnit
  | .string "s" => some .second
  | .string "ms" => some .millisecond
  | .string "us" => some .microsecond
  | .string "ns" => some .nanosecond
  | _ => none

/-- Bytes, two hexadecimal digits each. -/
def readBytes? : List Char → Option (List UInt8)
  | [] => some []
  | a :: b :: rest => do
    let x ← hexValue? a
    let y ← hexValue? b
    let more ← readBytes? rest
    some (UInt8.ofNat (16 * x + y) :: more)
  | [_] => none

/-- Units and ticks. -/
def readTicks? (make : TickUnit → Int → DatabaseValue) : Json → Option DatabaseValue
  | .array [unit, ticks] => do
    let unit ← readUnit? unit
    let ticks ← readInteger? ticks
    some (make unit ticks)
  | _ => none

/-- A value of a kind that holds no other values. -/
def readPlain? (kind : String) (inside : Json) : Option DatabaseValue :=
  match IntegerKind.ofName? kind with
  | some width => do
    let i ← readInteger? inside
    some (.integer width i)
  | none =>
    match kind, inside with
    | "Boolean", .bool b => some (.boolean b)
    | "Float", v => (readDouble? v).map fun x => .float x.toSingle
    | "Double", v => (readDouble? v).map .double
    | "Decimal", .array [.number (.integer width), .number (.integer scale), value] =>
      (readInteger? value).map (.decimal width.toNat scale.toNat)
    | "Timestamp", v => readTicks? .timestamp v
    | "Time64", v => readTicks? .time v
    | "Date32", v => (readInteger? v).map .date
    | "Text", .string s => some (.text s)
    | "Blob", .string s => (readBytes? s.toList).map .blob
    | "Enum", .string s => some (.choice s)
    | "Interval", .array [months, days, nanos] => do
      let months ← readInteger? months
      let days ← readInteger? days
      let nanos ← readInteger? nanos
      some (.interval months days nanos)
    | _, _ => none

mutual

/-- A value. -/
def readValue? : Json → Option DatabaseValue
  | .string "Null" => some .null
  | .object [("List", .array items)] => (readValues? items).map .list
  | .object [("Array", .array items)] => (readValues? items).map .array
  | .object [("Struct", .array fields)] => (readFields? fields).map .struct
  | .object [("Union", value)] => (readValue? value).map .union
  | .object [(kind, inside)] => readPlain? kind inside
  | _ => none

/-- Values in a row. -/
def readValues? : List Json → Option (List DatabaseValue)
  | [] => some []
  | v :: rest => do
    let v ← readValue? v
    let rest ← readValues? rest
    some (v :: rest)

/-- The fields of a structure, each with its name. -/
def readFields? : List Json → Option (List (String × DatabaseValue))
  | [] => some []
  | .array [.string name, v] :: rest => do
    let v ← readValue? v
    let rest ← readFields? rest
    some ((name, v) :: rest)
  | _ :: _ => none

end

/-- The outcome of a statement. -/
def readOutcome? (v : Json) : Option StatementOutcome :=
  match v.field? "rows", v.field? "affected", v.field? "fail" with
  | some (.array rows), _, _ => do
    let rows ← rows.mapM fun
      | .array values => readValues? values
      | _ => none
    match v.field? "then_fail" with
    | none => some (.rows rows none)
    | some (.string detail) => some (.rows rows (some detail))
    | some _ => none
  | none, some (.number (.integer n)), _ => some (.affected n.toNat)
  | none, none, some (.string detail) => some (.failed detail)
  | _, _, _ => none

/-- The outcomes of a recording. -/
def read? : Json → Option (List StatementOutcome)
  | .array outcomes => outcomes.mapM readOutcome?
  | _ => none

/-- A value bound to a statement. -/
def writeBound : DatabaseValue → Json
  | .null => .string "Null"
  | .boolean b => .object [("Boolean", .bool b)]
  | .integer kind i => .object [(kind.name, .int i)]
  | .double x => .object [("Double", writeDouble x)]
  | .text s => .object [("Text", .string s)]
  | v => .string v.shown

/-- A statement with its parameters. -/
def writeStatement (statement : String × List DatabaseValue) : Json := .object [
  ("sql", .string statement.1),
  ("params", .array (statement.2.map writeBound))]

end Recording

end TableQuery
