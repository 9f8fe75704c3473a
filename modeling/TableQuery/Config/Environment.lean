import TableQuery.Config.Settings
import TableQuery.Text.Blank

/-!
# Settings from the environment

Variables of the environment go before the settings of a file. A value that cannot be read is
passed over. Spans of time are numbers of milliseconds.
-/

namespace TableQuery

/-- A truth value in words or digits. -/
def readTruth? (s : String) : Option Bool :=
  let small := lowerCase s
  if ["true", "1", "yes"].contains small then some true
  else if ["false", "0", "no"].contains small then some false
  else none

/-- A natural number of 64 bits. -/
def readWord? (s : String) : Option Nat := readNatural? maxWord64 s.toList

/-- A number of milliseconds. -/
def readMillis? (s : String) : Option Duration := (readWord? s).map Duration.ofMillis

/-- The value of a variable, blanks around it aside; `old` if it is not set or cannot be
read. -/
def override {α : Type} (lookup : String → Option String) (name : String)
    (read : String → Option α) (old : α) : α :=
  (((lookup name).map trimBlank).bind read).getD old

/-- The settings with the variables of the environment before them. -/
def Config.withOverrides (c : Config) (lookup : String → Option String) : Config :=
  let memory := c.cache.memory
  let shared := c.cache.distributed
  { c with cache := { c.cache with
      enabled := override lookup "CACHE_ENABLED" readTruth? c.cache.enabled
      memory := { memory with
        maxBytes := override lookup "CACHE_MAX_MEMORY" readWord? memory.maxBytes
        defaultTtl := override lookup "CACHE_TTL" readMillis? memory.defaultTtl }
      distributed := { shared with
        enabled := override lookup "REDIS_ENABLED" readTruth? shared.enabled
        url := ((lookup "REDIS_URL").filter fun s => !isBlankText s).getD shared.url
        password := match lookup "REDIS_PASSWORD" with
          | none => shared.password
          | some s => if s = "" then shared.password else some s
        connectTimeout :=
          override lookup "REDIS_CONNECT_TIMEOUT" readMillis? shared.connectTimeout
        commandTimeout :=
          override lookup "REDIS_COMMAND_TIMEOUT" readMillis? shared.commandTimeout } } }

end TableQuery
