import TableQuery.Command.Request
import TableQuery.Config.Environment
import TableQuery.Config.Reader
import TableQuery.Database.Store
import TableQuery.Dataset.Declaration
import TableQuery.Engine

/-!
# Running commands

A command opens the database, registers every dataset that has a table there, and then does
one thing. Its result is JSON, written over several lines.

* `Command.run`: the text that a command prints, or why it failed.
* `CommandFailure.exitStatus`: 2 where the caller's input was at fault, 1 for all else.
-/

namespace TableQuery

/-- What is known of the configuration file. -/
inductive ConfigFile where
  /-- None is named. -/
  | absent
  | unreadable (path : String)
  | text (path content : String)
deriving DecidableEq, Repr

/-- What a command finds around it. -/
structure CommandSetting (κ : Type) where
  configFile : ConfigFile
  /-- The variables of the environment. -/
  lookup : String → Option String
  databasePath : String
  connection : κ
  /-- Why the database cannot be opened, if it cannot. -/
  openFault : Option String

/-- Why a command failed, and what it was about then. -/
structure CommandFailure where
  error : QueryError
  context : Option String
deriving DecidableEq, Repr

namespace CommandFailure

/-- A failure that speaks for itself. -/
def plain (error : QueryError) : CommandFailure := ⟨error, none⟩

/-- The status that the program ends with. -/
def exitStatus (f : CommandFailure) : Nat := if f.error.isClientError then 2 else 1

/-- The failure in words. -/
def message (f : CommandFailure) : String :=
  match f.context with
  | none => f.error.message
  | some context => context ++ ": " ++ f.error.message

end CommandFailure

/-- No shared cache can be reached from a command line. -/
def noSharedCache (_ : DistributedConfig) (tier : SwitchableTier) :
    Except CacheFault Unit × SwitchableTier := (.error .unavailable, tier)

/-- An engine for one command. -/
abbrev CommandEngine (κ : Type) := Engine (DatabaseStore κ) SwitchableTier

namespace CommandSetting

variable {κ : Type}

/-- The settings of the file with the environment before them. Indexes are not made in the
background, since the program does not wait for them. -/
def config (s : CommandSetting κ) : Except CommandFailure Config :=
  let finish (c : Config) : Config := { c.withOverrides s.lookup with advisorEnabled := false }
  let fail (path : String) (error : QueryError) : Except CommandFailure Config :=
    .error ⟨error, some ("loading config from " ++ path)⟩
  match s.configFile with
  | .absent => .ok (finish .default)
  | .unreadable path => fail path (.config .unreadable)
  | .text path content =>
    match Config.ofYaml content with
    | .ok c => .ok (finish c)
    | .error e => fail path e

/-- Opens the database. -/
def openStore (s : CommandSetting κ) : Except CommandFailure (DatabaseStore κ) :=
  match s.openFault with
  | none => .ok ⟨s.connection⟩
  | some detail => .error ⟨.store (.database detail), some ("opening " ++ s.databasePath)⟩

/-- An engine on the database. -/
def openEngine (s : CommandSetting κ) (now : Instant) :
    Except CommandFailure (CommandEngine κ) := do
  let config ← s.config
  let store ← s.openStore
  match Engine.opening config now .empty noSharedCache store with
  | .ok engine => .ok engine
  | .error e => .error (.plain e)

end CommandSetting

namespace Request

variable {κ : Type} [Connection κ]

/-- Registers the datasets that have a table in the store. -/
def registerAll (now : Instant) : Action (CommandEngine κ) Unit := do
  let ids ← Engine.onStore discoverDatasets
  ids.forM fun id => do
    let _ ← Engine.registerFromStore now id

/-- A dataset's table with its rows counted, and its indexes. -/
def description (now : Instant) (dataset : String) : Action (CommandEngine κ) Json := do
  let page ← Engine.query now dataset .null 1 1
  let table ← Engine.table dataset
  let indexes ← Engine.onStore (Store.call (Store.listIndexes table.name))
  pure (.object (table.fields ++ [
    ("rowCount", .nat page.totalCount),
    ("indexes", .array (indexes.map StoredIndex.toJson))]))

/-- Does what is requested. -/
def answer (now : Instant) (showTime : Instant → String) :
    Request → Action (CommandEngine κ) Json
  | .tables => do
    let engine ← get
    pure (.array (engine.registry.list.map Table.toJson))
  | .describe dataset => description now dataset
  | .query dataset filter page limit withStats => do
    let page ← Engine.query now dataset filter page limit
    let engine ← get
    pure (.object (page.fields ++
      if withStats then [("cache", engine.cache.statsJson showTime)] else []))
  | .advise dataset => do
    let report ← Engine.advise now dataset
    pure (report.toJson showTime)
  | .insert dataset rows => do
    let outcome ← Engine.insert now dataset rows
    pure outcome.toJson
  | .update dataset filter values => do
    let outcome ← Engine.update now dataset filter values
    pure outcome.toJson
  | .delete dataset filter => do
    let outcome ← Engine.delete now dataset filter
    pure outcome.toJson

end Request

/-- What a command prints, or why it failed, and the connection after it. -/
def Command.run {κ : Type} [Connection κ] (command : Command) (s : CommandSetting κ)
    (now : Instant) (showTime : Instant → String) : Except CommandFailure String × κ :=
  match command.toRequest with
  | .error fault => (.error (.plain (.request fault)), s.connection)
  | .ok request =>
    match s.openEngine now with
    | .error failure => (.error failure, s.connection)
    | .ok engine =>
      let action : Action (CommandEngine κ) Json := do
        Request.registerAll now
        request.answer now showTime
      let (result, engine) := action.exec engine
      (match result with
        | .ok v => .ok (v.pretty ++ "\n")
        | .error e => .error (.plain e), engine.store.connection)

end TableQuery
