import TableQuery.Json.Reader

/-!
# Records in JSON text

A record is an object with known fields. Fields that are not known are passed over unread, and
a known one must be there exactly once. The values may also stand in an array in the order of
the fields.
-/

namespace TableQuery

namespace JsonSyntax

/-- The text of a string. -/
def text? : JsonSyntax → Option String
  | .text inside => (unescape? inside).map String.ofList
  | _ => none

/-- A truth value. -/
def bool? : JsonSyntax → Option Bool
  | .bool b => some b
  | _ => none

/-- A natural number of 64 bits. -/
def word? : JsonSyntax → Option Nat
  | .number numeral =>
    match numeral.toNumber? with
    | some (.integer i) => if 0 ≤ i ∧ i ≤ maxWord64 then some i.toNat else none
    | _ => none
  | _ => none

/-- The items of an array. -/
def items? : JsonSyntax → Option (List JsonSyntax)
  | .array items => some items
  | _ => none

/-- The names and values of an object. -/
def namedFields? (fields : List (List Char × JsonSyntax)) : Option (List (String × JsonSyntax)) :=
  fields.mapM fun field => (unescape? field.1).map fun name => (String.ofList name, field.2)

/-- The value of the only field of a name. -/
def onlyField? (fields : List (String × JsonSyntax)) (name : String) : Option JsonSyntax :=
  match fields.filter (·.1 == name) with
  | [(_, value)] => some value
  | _ => none

/-- The values of a record with these fields, in their order. -/
def record? (names : List String) : JsonSyntax → Option (List JsonSyntax)
  | .object fields => do
    let fields ← namedFields? fields
    names.mapM (onlyField? fields)
  | .array items => if items.length = names.length then some items else none
  | _ => none

/-- A word out of a list of words: as a string, or as the one field of an object without a
value. -/
def choice? : JsonSyntax → Option String
  | .text inside => text? (.text inside)
  | .object [(name, .null)] => text? (.text name)
  | _ => none

end JsonSyntax

end TableQuery
