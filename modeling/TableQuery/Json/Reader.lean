import TableQuery.Json.Lexeme

/-!
# Reading JSON text

Reading goes in two steps. The lexemes are gathered into a tree of what was written, by one
pass with the containers part way through held in a list; then the tree is given its value.
A tree may be deeper than a value, may name a field twice and may hold a numeral or string
without a meaning, so parts of it can be skipped unread.

* `JsonSyntax.ofLexemes?`: the tree of what was written.
* `JsonSyntax.toJson?`: its value. It fails where containers stand more than 127 deep, where a
  numeral is beyond the largest double and where half a character is escaped.
* `Json.parse?`: both.
-/

namespace TableQuery

/-- JSON text with its structure read and its leaves as written. -/
inductive JsonSyntax where
  | null
  | bool (value : Bool)
  | number (numeral : JsonNumeral)
  | text (inside : List Char)
  | array (items : List JsonSyntax)
  | object (fields : List (List Char × JsonSyntax))
deriving Inhabited

/-- A container part way through, its parts so far held last one first. -/
inductive OpenContainer where
  | items (seen : List JsonSyntax)
  /-- The value of the field `name` is being read. -/
  | field (seen : List (List Char × JsonSyntax)) (name : List Char)

/-- What may come next. -/
inductive JsonReading where
  | value (within : List OpenContainer)
  | arrayStart (within : List OpenContainer)
  | arrayNext (seen : List JsonSyntax) (within : List OpenContainer)
  | objectStart (within : List OpenContainer)
  | objectName (seen : List (List Char × JsonSyntax)) (within : List OpenContainer)
  | objectColon (seen : List (List Char × JsonSyntax)) (name : List Char)
      (within : List OpenContainer)
  | objectNext (seen : List (List Char × JsonSyntax)) (within : List OpenContainer)
  | finished (tree : JsonSyntax)

namespace JsonReading

/-- A value is complete inside these containers. -/
def deliver (tree : JsonSyntax) : List OpenContainer → JsonReading
  | [] => .finished tree
  | .items seen :: within => .arrayNext (tree :: seen) within
  | .field seen name :: within => .objectNext ((name, tree) :: seen) within

/-- A lexeme where a value is due. -/
def startValue? (within : List OpenContainer) : Lexeme → Option JsonReading
  | .null => some (deliver .null within)
  | .bool b => some (deliver (.bool b) within)
  | .number n => some (deliver (.number n) within)
  | .text cs => some (deliver (.text cs) within)
  | .openArray => some (.arrayStart within)
  | .openObject => some (.objectStart within)
  | _ => none

/-- Takes one lexeme. -/
def step? : JsonReading → Lexeme → Option JsonReading
  | .value within, lexeme => startValue? within lexeme
  | .arrayStart within, .closeArray => some (deliver (.array []) within)
  | .arrayStart within, lexeme => startValue? (.items [] :: within) lexeme
  | .arrayNext seen within, .comma => some (.value (.items seen :: within))
  | .arrayNext seen within, .closeArray => some (deliver (.array seen.reverse) within)
  | .objectStart within, .closeObject => some (deliver (.object []) within)
  | .objectStart within, .text name => some (.objectColon [] name within)
  | .objectName seen within, .text name => some (.objectColon seen name within)
  | .objectColon seen name within, .colon => some (.value (.field seen name :: within))
  | .objectNext seen within, .comma => some (.objectName seen within)
  | .objectNext seen within, .closeObject => some (deliver (.object seen.reverse) within)
  | _, _ => none

end JsonReading

namespace JsonSyntax

/-- The tree that the lexemes write. -/
def ofLexemes? (lexemes : List Lexeme) : Option JsonSyntax :=
  match lexemes.foldlM JsonReading.step? (.value []) with
  | some (.finished tree) => some tree
  | _ => none

/-- The tree that a text writes. -/
def parse? (text : String) : Option JsonSyntax := (lexemes? text).bind ofLexemes?

mutual

/-- The value of a tree in which containers may stand `depth` deep. -/
def toJson? (depth : Nat) : JsonSyntax → Option Json
  | .null => some .null
  | .bool b => some (.bool b)
  | .number n => n.toNumber?.map .number
  | .text cs => (unescape? cs).map fun s => .string (String.ofList s)
  | .array items =>
    match depth with
    | 0 => none
    | depth + 1 => (itemsToJson? depth items).map .array
  | .object fields =>
    match depth with
    | 0 => none
    | depth + 1 => (fieldsToJson? depth fields).map fun fs => .object (Json.distinctFields fs)

/-- The values of the items of an array. -/
def itemsToJson? (depth : Nat) : List JsonSyntax → Option (List Json)
  | [] => some []
  | v :: rest => do
    let v ← toJson? depth v
    let rest ← itemsToJson? depth rest
    some (v :: rest)

/-- The names and values of the fields of an object. -/
def fieldsToJson? (depth : Nat) :
    List (List Char × JsonSyntax) → Option (List (String × Json))
  | [] => some []
  | (k, v) :: rest => do
    let k ← unescape? k
    let v ← toJson? depth v
    let rest ← fieldsToJson? depth rest
    some ((String.ofList k, v) :: rest)

end

end JsonSyntax

/-- How deep containers may stand in JSON text. -/
def jsonDepth : Nat := 127

/-- The value of JSON text. -/
def Json.parse? (text : String) : Option Json :=
  (JsonSyntax.parse? text).bind (JsonSyntax.toJson? jsonDepth)

end TableQuery
