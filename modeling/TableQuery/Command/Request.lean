import TableQuery.Fault
import TableQuery.Json.Reader
import TableQuery.Text.Blank

/-!
# Commands

What can be asked for on a command line, and the requests that commands are once the JSON in
their arguments has been read.
-/

namespace TableQuery

/-- A command with its arguments as text. -/
inductive Command where
  /-- Lists the datasets. -/
  | tables
  | describe (dataset : String)
  | query (dataset : String) (filter : Option String) (page limit : Nat) (withStats : Bool)
  /-- Creates indexes. -/
  | advise (dataset : String)
  | insert (dataset rows : String)
  | update (dataset filter values : String)
  | delete (dataset filter : String)
deriving DecidableEq, Repr

/-- A command with its arguments read. -/
inductive Request where
  | tables
  | describe (dataset : String)
  | query (dataset : String) (filter : Json) (page limit : Nat) (withStats : Bool)
  | advise (dataset : String)
  | insert (dataset : String) (rows : List Json)
  | update (dataset : String) (filter values : Json)
  | delete (dataset : String) (filter : Json)
deriving Inhabited

/-- The JSON value of an argument. Blank is `null`, and so is an argument that is not given. -/
def readArgument (name : String) (text : Option String) : Except RequestFault Json :=
  match text.map trimBlank with
  | none | some "" => .ok .null
  | some text =>
    match Json.parse? text with
    | some v => .ok v
    | none => .error (.argumentNotJson name)

/-- The rows of an argument: one, or an array of them. -/
def readRows (text : String) : Except RequestFault (List Json) := do
  match ← readArgument "rows" (some text) with
  | .array rows => .ok rows
  | .object fields => .ok [.object fields]
  | _ => .error .rowsArgument

namespace Command

/-- Reads the arguments of a command. -/
def toRequest : Command → Except RequestFault Request
  | .tables => .ok .tables
  | .describe dataset => .ok (.describe dataset)
  | .query dataset filter page limit withStats => do
    let filter ← readArgument "filter" filter
    .ok (.query dataset filter page limit withStats)
  | .advise dataset => .ok (.advise dataset)
  | .insert dataset rows => do
    let rows ← readRows rows
    .ok (.insert dataset rows)
  | .update dataset filter values => do
    let filter ← readArgument "filter" (some filter)
    let values ← readArgument "values" (some values)
    .ok (.update dataset filter values)
  | .delete dataset filter => do
    let filter ← readArgument "filter" (some filter)
    .ok (.delete dataset filter)

end Command

end TableQuery
