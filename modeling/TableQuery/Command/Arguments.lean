import TableQuery.Command.Request
import TableQuery.Numeric.Decimal

/-!
# Command lines

The words of a command line: options, each of which may stand anywhere, and the command with the
dataset that it is about.

* `Invocation.ofWords`: the command that the words ask for, or what is wrong with them.
-/

namespace TableQuery

/-- What a command line asks for. -/
structure Invocation where
  databasePath : String
  configPath : Option String
  command : Command
deriving DecidableEq, Repr

/-- Words sorted into options with a value, options without, and all others. -/
structure SortedWords where
  options : List (String × String)
  flags : List String
  others : List String
deriving DecidableEq, Repr

/-- What is wrong with a command line. -/
inductive UsageFault where
  | unknownOption (word : String)
  | valueMissing (option : String)
  | badNumber (option text : String)
  | optionMissing (option : String)
  | unknownCommand (words : List String)
deriving DecidableEq, Repr

/-- The fault in words. -/
def UsageFault.message : UsageFault → String
  | .unknownOption word => "unknown option: " ++ word
  | .valueMissing option => "--" ++ option ++ " needs a value"
  | .badNumber option text => "--" ++ option ++ " is not a number: " ++ text
  | .optionMissing option => "--" ++ option ++ " is required"
  | .unknownCommand words => "unknown command: " ++ " ".intercalate words

/-- The options with a value. -/
def valueOptions : List String := ["db", "config", "filter", "page", "limit", "rows", "values"]

/-- The option that one letter stands for. -/
def shortOption? : Char → Option String
  | 'f' => some "filter"
  | 'p' => some "page"
  | 'l' => some "limit"
  | 'r' => some "rows"
  | _ => none

/-- The name of the option that a word begins, and the value that stands in the same word. -/
def optionOf? (word : String) : Option (String × Option String) :=
  match word.toList with
  | '-' :: '-' :: rest =>
    let name := rest.takeWhile (· != '=')
    let inside := rest.drop name.length
    some (String.ofList name, if inside.isEmpty then none else some (String.ofList inside.tail))
  | ['-', c] => (shortOption? c).map (·, none)
  | _ => none

namespace SortedWords

/-- Sorts the words. -/
def ofWords (sorted : SortedWords) : List String → Except UsageFault SortedWords
  | [] => .ok sorted
  | word :: rest =>
    match optionOf? word with
    | none => ofWords { sorted with others := sorted.others ++ [word] } rest
    | some ("stats", none) => ofWords { sorted with flags := sorted.flags ++ ["stats"] } rest
    | some (name, inside) =>
      if valueOptions.contains name then
        match inside, rest with
        | some value, rest =>
          ofWords { sorted with options := sorted.options ++ [(name, value)] } rest
        | none, value :: rest =>
          ofWords { sorted with options := sorted.options ++ [(name, value)] } rest
        | none, [] => .error (.valueMissing name)
      else .error (.unknownOption word)
termination_by words => words.length

/-- The value of an option. -/
def option? (sorted : SortedWords) (name : String) : Option String :=
  (sorted.options.find? (·.1 == name)).map (·.2)

/-- The value of an option that must be given. -/
def required (sorted : SortedWords) (name : String) : Except UsageFault String :=
  match sorted.option? name with
  | some value => .ok value
  | none => .error (.optionMissing name)

/-- The number that is the value of an option. -/
def number (sorted : SortedWords) (name : String) (default : Nat) : Except UsageFault Nat :=
  match sorted.option? name with
  | none => .ok default
  | some text =>
    match readNatural? maxWord64 text.toList with
    | some n => .ok n
    | none => .error (.badNumber name text)

/-- The command that the words name. -/
def command (sorted : SortedWords) : Except UsageFault Command :=
  match sorted.others with
  | ["tables"] => .ok .tables
  | ["describe", dataset] => .ok (.describe dataset)
  | ["query", dataset] => do
    let page ← sorted.number "page" 1
    let limit ← sorted.number "limit" 50
    .ok (.query dataset (sorted.option? "filter") page limit (sorted.flags.contains "stats"))
  | ["advise", dataset] => .ok (.advise dataset)
  | ["insert", dataset] => do
    let rows ← sorted.required "rows"
    .ok (.insert dataset rows)
  | ["update", dataset] => do
    let filter ← sorted.required "filter"
    let values ← sorted.required "values"
    .ok (.update dataset filter values)
  | ["delete", dataset] => do
    let filter ← sorted.required "filter"
    .ok (.delete dataset filter)
  | words => .error (.unknownCommand words)

end SortedWords

namespace Invocation

/-- The file that holds the database unless it is said otherwise. -/
def defaultDatabase : String := "sheetq.duckdb"

/-- What the words ask for. Where an option is not given, a variable of the environment may
be. -/
def ofWords (lookup : String → Option String) (words : List String) :
    Except UsageFault Invocation := do
  let sorted ← SortedWords.ofWords ⟨[], [], []⟩ words
  let command ← sorted.command
  .ok {
    databasePath := ((sorted.option? "db").or (lookup "SHEETQ_DB")).getD defaultDatabase
    configPath := (sorted.option? "config").or (lookup "SHEETQ_CONFIG")
    command }

end Invocation

end TableQuery
