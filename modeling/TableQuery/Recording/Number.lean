import TableQuery.Json.Value
import TableQuery.Numeric.Shortest

/-!
# Numbers in recordings

Recordings hold numbers that JSON has no numerals for: the doubles that are not finite are
written in words, and integers of more than 64 bits in strings.
-/

namespace TableQuery

namespace Recording

/-- A double; those that JSON has no numeral for are written in words. -/
def readDouble? : Json → Option Binary64
  | .number n => some n.toBinary64
  | .string "inf" => some (.infinite false)
  | .string "-inf" => some (.infinite true)
  | .string "NaN" => some .nan
  | .string "max" => some (.ofNat ((2 ^ 53 - 1) * 2 ^ 971))
  | _ => none

/-- A double as JSON. -/
def writeDouble : Binary64 → Json
  | .finite x => .number (.float x)
  | x => .string (plainNumber.write x)

/-- An integer, as a number or in a string. -/
def readInteger? : Json → Option Int
  | .number (.integer i) => some i
  | .string s => TableQuery.readInteger? (-2 ^ 128) (2 ^ 128) s.toList
  | _ => none

end Recording

end TableQuery
