import TableQuery.Cell
import TableQuery.Hash.Sha256
import TableQuery.Sql.Param
import TableQuery.Text.Escaped
import TableQuery.Time.Calendar

/-!
# Values of the database

What the columns of the database hold. `DatabaseValue.toCell` is the cell of a value; kinds that
callers have no use for become text that names the kind, `DatabaseValue.shown`.
-/

namespace TableQuery

/-- The widths of integers. -/
inductive IntegerKind where
  | tinyInt | smallInt | int | bigInt | hugeInt
  | unsignedTinyInt | unsignedSmallInt | unsignedInt | unsignedBigInt | unsignedHugeInt
deriving DecidableEq, Repr

namespace IntegerKind

/-- All widths. -/
def all : List IntegerKind := [
  .tinyInt, .smallInt, .int, .bigInt, .hugeInt,
  .unsignedTinyInt, .unsignedSmallInt, .unsignedInt, .unsignedBigInt, .unsignedHugeInt]

/-- The name of the width. -/
def name : IntegerKind → String
  | .tinyInt => "TinyInt"
  | .smallInt => "SmallInt"
  | .int => "Int"
  | .bigInt => "BigInt"
  | .hugeInt => "HugeInt"
  | .unsignedTinyInt => "UTinyInt"
  | .unsignedSmallInt => "USmallInt"
  | .unsignedInt => "UInt"
  | .unsignedBigInt => "UBigInt"
  | .unsignedHugeInt => "UHugeInt"

/-- The width of a name. -/
def ofName? (s : String) : Option IntegerKind := all.find? (·.name == s)

/-- The bits of an integer. -/
def bits : IntegerKind → Nat
  | .tinyInt | .unsignedTinyInt => 8
  | .smallInt | .unsignedSmallInt => 16
  | .int | .unsignedInt => 32
  | .bigInt | .unsignedBigInt => 64
  | .hugeInt | .unsignedHugeInt => 128

/-- Negative integers can be held. -/
def isSigned : IntegerKind → Bool
  | .tinyInt | .smallInt | .int | .bigInt | .hugeInt => true
  | _ => false

/-- The least integer. -/
def least (k : IntegerKind) : Int := if k.isSigned then -2 ^ (k.bits - 1) else 0

/-- The greatest integer. -/
def most (k : IntegerKind) : Int :=
  if k.isSigned then 2 ^ (k.bits - 1) - 1 else 2 ^ k.bits - 1

end IntegerKind

/-- The units in which times are counted. -/
inductive TickUnit where
  | second | millisecond | microsecond | nanosecond
deriving DecidableEq, Repr

/-- The name of the unit. -/
def TickUnit.name : TickUnit → String
  | .second => "Second"
  | .millisecond => "Millisecond"
  | .microsecond => "Microsecond"
  | .nanosecond => "Nanosecond"

/-- A value of the database. -/
inductive DatabaseValue where
  | null
  | boolean (value : Bool)
  | integer (kind : IntegerKind) (value : Int)
  /-- A number of single precision. -/
  | float (value : Binary64)
  | double (value : Binary64)
  /-- `value` units of the last of `scale` places. -/
  | decimal (width scale : Nat) (value : Int)
  | timestamp (unit : TickUnit) (ticks : Int)
  | time (unit : TickUnit) (ticks : Int)
  /-- A day, counted from the first of 1970. -/
  | date (days : Int)
  | text (value : String)
  | blob (bytes : List UInt8)
  | choice (name : String)
  | interval (months days nanos : Int)
  | list (items : List DatabaseValue)
  | array (items : List DatabaseValue)
  | struct (fields : List (String × DatabaseValue))
  | union (value : DatabaseValue)
deriving Inhabited

/-- Numbers keep a fraction or an exponent; below `0.0001` and from `10 ^ 16` on they have an
exponent. -/
def shownNumber : NumberLayout :=
  ⟨.up, fun p => decide (-4 < p) && decide (p ≤ 16), ".0", "e"⟩

namespace DatabaseValue

/-- A name with what belongs to it. -/
def tagged (name inside : String) : String := name ++ "(" ++ inside ++ ")"

/-- Items in brackets. -/
def bracketed (items : List String) : String := "[" ++ ", ".intercalate items ++ "]"

/-- A name with named parts. -/
def braced (name : String) (parts : List (String × String)) : String :=
  name ++ " \x7b " ++ ", ".intercalate (parts.map fun p => p.1 ++ ": " ++ p.2) ++ " \x7d"

mutual

/-- The value with the name of its kind. -/
def shown : DatabaseValue → String
  | .null => "Null"
  | .boolean b => tagged "Boolean" (if b then "true" else "false")
  | .integer kind i => tagged kind.name (toString i)
  | .float x => tagged "Float" (shownNumber.writeSingle x)
  | .double x => tagged "Double" (shownNumber.write x)
  | .decimal width scale value =>
    tagged "Decimal" (braced "Decimal"
      [("width", toString width), ("scale", toString scale), ("value", toString value)])
  | .timestamp unit ticks => tagged "Timestamp" (unit.name ++ ", " ++ toString ticks)
  | .time unit ticks => tagged "Time64" (unit.name ++ ", " ++ toString ticks)
  | .date days => tagged "Date32" (toString days)
  | .text s => tagged "Text" (quoteShown s)
  | .blob bytes => tagged "Blob" (bracketed (bytes.map fun b => toString b.toNat))
  | .choice name => tagged "Enum" (quoteShown name)
  | .interval months days nanos =>
    braced "Interval"
      [("months", toString months), ("days", toString days), ("nanos", toString nanos)]
  | .list items => tagged "List" (bracketed (shownItems items))
  | .array items => tagged "Array" (bracketed (shownItems items))
  | .struct fields => tagged "Struct" (tagged "OrderedMap" (bracketed (shownFields fields)))
  | .union value => tagged "Union" (shown value)

/-- The items of a list. -/
def shownItems : List DatabaseValue → List String
  | [] => []
  | v :: rest => shown v :: shownItems rest

/-- The fields of a structure. -/
def shownFields : List (String × DatabaseValue) → List String
  | [] => []
  | (name, v) :: rest => ("(" ++ quoteShown name ++ ", " ++ shown v ++ ")") :: shownFields rest

end

/-- The digits of a decimal number with the point in its place, and one digit before it at
least. -/
def decimalText (scale : Nat) (value : Int) : String :=
  let digits := Nat.toDigits 10 value.natAbs
  let padded := List.replicate (scale + 1 - digits.length) '0' ++ digits
  let whole := padded.take (padded.length - scale)
  let fraction := padded.drop (padded.length - scale)
  (if value < 0 then "-" else "") ++ String.ofList whole ++
    (if fraction.isEmpty then "" else "." ++ String.ofList fraction)

/-- An integer brought into the range of signed words of 64 bits. -/
def clampInt64 (i : Int) : Int := max minInt64 (min maxInt64 i)

/-- Ticks in microseconds. -/
def microseconds (unit : TickUnit) (ticks : Int) : Int :=
  match unit with
  | .second => clampInt64 (ticks * 1000000)
  | .millisecond => clampInt64 (ticks * 1000)
  | .microsecond => ticks
  | .nanosecond => ticks.tdiv 1000

/-- The cell of a value. A day or moment that the calendar cannot tell stays a number. -/
def toCell : DatabaseValue → Cell
  | .null => .null
  | .boolean b => .bool b
  | .integer .hugeInt i | .integer .unsignedBigInt i => .bigInt i
  | .integer .unsignedHugeInt i => .text (shown (.integer .unsignedHugeInt i))
  | .integer _ i => .int i
  | .float x | .double x => .float x
  | .decimal _ scale value => .decimal (decimalText scale value)
  | .text s => .text s
  | .date days => .text ((Calendar.dateText? days).getD (toString days))
  | .timestamp unit ticks =>
    .text ((Calendar.momentText? (microseconds unit ticks)).getD (toString ticks))
  | .blob bytes => .text (Sha256.hexText bytes)
  | v => .text v.shown

/-- A parameter for the database. -/
def ofParam : Param → DatabaseValue
  | .null => .null
  | .bool b => .boolean b
  | .int i => .integer .bigInt i
  | .float x => .double x
  | .text s => .text s

end DatabaseValue

end TableQuery
