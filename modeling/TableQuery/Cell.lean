import TableQuery.Json.Printer

/-!
# Cells

A cell is a value read from the store. `Cell.toJson` gives it to the caller: a number beyond a
threshold goes out as text, so that no reader loses digits.
-/

namespace TableQuery

/-- A value read from the store. -/
inductive Cell where
  | null
  | bool (value : Bool)
  | int (value : Int)
  /-- An integer of a column wider than 64 bits. -/
  | bigInt (value : Int)
  | float (value : Binary64)
  /-- An exact decimal number as text. -/
  | decimal (text : String)
  | text (value : String)
deriving DecidableEq, Repr

/-- `10 ^ 18`; whole doubles below it are integers of 64 bits. -/
def wholeLimit : Binary64 := .ofNat (10 ^ 18)

/-- The double is a whole number below `10 ^ 18`. -/
def isPlainWhole (x : Finite64) : Bool := x.isWhole && (Binary64.finite x.abs).lt wholeLimit

/-- The digits of a whole number, with the sign of a negative zero too. -/
def wholeText (x : Finite64) : String :=
  (if x.negative then "-" else "") ++ toString x.truncate.natAbs

/-- A double for the caller: text beyond the threshold, an integer if it is whole. -/
def floatJson (x : Binary64) (threshold : Binary64) : Json :=
  match x with
  | .finite y =>
    if threshold.lt (.finite y.abs) then
      if isPlainWhole y then .string (wholeText y) else .string (plainNumber.writeFinite y)
    else if isPlainWhole y then .int y.truncate
    else .number (.float y)
  | _ => .null

namespace Cell

/-- The cell for the caller. A number whose magnitude exceeds the threshold is text. -/
def toJson (threshold : Binary64) : Cell → Json
  | .null => .null
  | .bool b => .bool b
  | .int i => if threshold.lt (.ofNat i.natAbs) then .string (toString i) else .int i
  | .bigInt i =>
    if threshold.lt (.ofNat i.natAbs) then .string (toString i)
    else if minInt64 ≤ i ∧ i ≤ maxInt64 then .int i
    else .string (toString i)
  | .float x => floatJson x threshold
  | .decimal s =>
    match readBinary64? s.toList with
    | some x => if x.abs.le threshold then floatJson x threshold else .string s
    | none => .string s
  | .text s => .string s

end Cell

end TableQuery
