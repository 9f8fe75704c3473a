import TableQuery.Command.Arguments
import TableQuery.Command.Run
import TableQuery.Recording.Database
import Std.Time.DateTime.Timestamp

/-!
# The program

Reads the command line, the environment and the files that they name, runs the command and prints
its result. The database is a recording: the outcomes of the statements in their order.
-/

namespace TableQuery

/-- The variables that commands look at. -/
def variableNames : List String := [
  "SHEETQ_DB", "SHEETQ_CONFIG", "CACHE_ENABLED", "CACHE_MAX_MEMORY", "CACHE_TTL",
  "REDIS_ENABLED", "REDIS_URL", "REDIS_PASSWORD", "REDIS_CONNECT_TIMEOUT",
  "REDIS_COMMAND_TIMEOUT"]

/-- The variables that are set. -/
def readEnvironment : IO (String → Option String) := do
  let values ← variableNames.mapM fun name => do
    let value ← IO.getEnv name
    pure (name, value)
  pure fun name => (values.find? (·.1 == name)).bind (·.2)

/-- The text of a file, if it can be read. -/
def readFile? (path : String) : IO (Option String) := do
  try
    let text ← IO.FS.readFile path
    pure (some text)
  catch _ => pure none

/-- The configuration file. -/
def readConfigFile : Option String → IO ConfigFile
  | none => pure .absent
  | some path => do
    match ← readFile? path with
    | some text => pure (.text path text)
    | none => pure (.unreadable path)

/-- The recording in a file, or why there is none. -/
def openRecording (path : String) : IO (ScriptedConnection × Option String) := do
  match ← readFile? path with
  | none => pure (⟨[], []⟩, some "cannot open file")
  | some text =>
    match (Json.parse? text).bind Recording.read? with
    | some outcomes => pure (⟨outcomes, []⟩, none)
    | none => pure (⟨[], []⟩, some "not a recording")

/-- A moment since the first of 1970 as text. -/
def showMoment (t : Instant) : String :=
  ((Calendar.momentText? (t.nanos / 1000)).map fun text =>
    String.ofList (text.toList.map fun c => if c = ' ' then 'T' else c) ++ "Z").getD ""

/-- The clock's reading. -/
def readClock : IO Instant := do
  let now ← Std.Time.Timestamp.now
  pure ⟨now.toNanosecondsSinceUnixEpoch.val.toNat⟩

/-- Runs a command and gives the status to end with. -/
def runInvocation (lookup : String → Option String) (invocation : Invocation) : IO UInt32 := do
  let configFile ← readConfigFile invocation.configPath
  let (connection, openFault) ← openRecording invocation.databasePath
  let now ← readClock
  let databasePath := invocation.databasePath
  match (invocation.command.run ⟨configFile, lookup, databasePath, connection, openFault⟩
      now showMoment).1 with
  | .ok text => do
    IO.print text
    pure 0
  | .error failure => do
    IO.eprintln failure.message
    pure (UInt32.ofNat failure.exitStatus)

end TableQuery

/-- The program. -/
def main (words : List String) : IO UInt32 := do
  let lookup ← TableQuery.readEnvironment
  match TableQuery.Invocation.ofWords lookup words with
  | .ok invocation => TableQuery.runInvocation lookup invocation
  | .error fault => do
    IO.eprintln fault.message
    pure 2
