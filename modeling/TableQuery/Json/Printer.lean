import TableQuery.Json.Value
import TableQuery.Numeric.Shortest

/-!
# JSON text of values

`Json.compact` writes a value without blanks, `Json.pretty` over several lines with two blanks
of indentation for each level. Strings escape only what they must.
-/

namespace TableQuery

/-- Numbers keep a mark of being floats: a point or an exponent. The exponent is written for
numbers of more than 16 whole digits and below `0.00001`. -/
def jsonNumber : NumberLayout :=
  ⟨.even, fun p => decide (-5 < p) && decide (p ≤ 16), ".0", "e+"⟩

/-- The text of a number. -/
def JsonNumber.text : JsonNumber → String
  | .integer i => toString i
  | .float x => jsonNumber.writeFinite x

/-- The small hexadecimal digit of a number below 16. -/
def hexDigit (n : Nat) : Char := Nat.digitChar n

/-- A character inside quotes. -/
def jsonEscape (c : Char) : List Char :=
  if c = '"' then ['\\', '"']
  else if c = '\\' then ['\\', '\\']
  else if c = '\n' then ['\\', 'n']
  else if c = '\r' then ['\\', 'r']
  else if c = '\t' then ['\\', 't']
  else if c = '\x08' then ['\\', 'b']
  else if c = '\x0c' then ['\\', 'f']
  else if c.toNat < 0x20 then
    ['\\', 'u', '0', '0', hexDigit (c.toNat / 16), hexDigit (c.toNat % 16)]
  else [c]

/-- A string in quotes. -/
def jsonQuote (s : String) : String :=
  "\"" ++ String.ofList (s.toList.flatMap jsonEscape) ++ "\""

namespace Json

mutual

/-- The text of a value without blanks. -/
def compact : Json → String
  | .null => "null"
  | .bool true => "true"
  | .bool false => "false"
  | .number n => n.text
  | .string s => jsonQuote s
  | .array items => "[" ++ ",".intercalate (compactItems items) ++ "]"
  | .object fields => "\x7b" ++ ",".intercalate (compactFields fields) ++ "\x7d"

/-- The texts of the items of an array. -/
def compactItems : List Json → List String
  | [] => []
  | v :: rest => compact v :: compactItems rest

/-- The texts of the fields of an object. -/
def compactFields : List (String × Json) → List String
  | [] => []
  | (k, v) :: rest => (jsonQuote k ++ ":" ++ compact v) :: compactFields rest

end

/-- The start of a line at a level. -/
def lineStart (level : Nat) : String := "\n" ++ String.ofList (List.replicate (2 * level) ' ')

mutual

/-- The text of a value over several lines. An empty container stays on its line. -/
def prettyAt (level : Nat) : Json → String
  | .array [] => "[]"
  | .array (v :: rest) =>
    "[" ++ ",".intercalate (prettyItems (level + 1) (v :: rest)) ++ lineStart level ++ "]"
  | .object [] => "\x7b\x7d"
  | .object (f :: rest) =>
    "\x7b" ++ ",".intercalate (prettyFields (level + 1) (f :: rest)) ++ lineStart level ++ "\x7d"
  | .null => "null"
  | .bool b => if b then "true" else "false"
  | .number n => n.text
  | .string s => jsonQuote s

/-- The items of an array, each on a line of its own. -/
def prettyItems (level : Nat) : List Json → List String
  | [] => []
  | v :: rest => (lineStart level ++ prettyAt level v) :: prettyItems level rest

/-- The fields of an object, each on a line of its own. -/
def prettyFields (level : Nat) : List (String × Json) → List String
  | [] => []
  | (k, v) :: rest =>
    (lineStart level ++ jsonQuote k ++ ": " ++ prettyAt level v) :: prettyFields level rest

end

/-- The text of a value over several lines. -/
def pretty (v : Json) : String := prettyAt 0 v

/-- The plain text of a scalar: a string without its quotes, and nothing for `null`. -/
def plainText : Json → String
  | .string s => s
  | .null => ""
  | v => compact v

end Json

end TableQuery
