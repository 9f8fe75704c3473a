import TableQuery.Fault
import TableQuery.Json.Printer
import TableQuery.Time.Duration

/-!
# Settings

What can be set, the value of each setting that is not given, and which values make sense.
-/

namespace TableQuery

/-- Settings of the cache in memory. -/
structure MemoryConfig where
  /-- The bytes that keys and values may take together. -/
  maxBytes : Nat
  /-- How long an entry lives unless it is said otherwise. -/
  defaultTtl : Duration
  /-- A cache that has stopped taking entries takes them again below this share of the bytes. -/
  reenableRatio : Binary64
  /-- The share of the bytes that one entry may drive out. -/
  evictionAllowance : Binary64
deriving DecidableEq, Repr

/-- Settings of the shared cache. -/
structure DistributedConfig where
  enabled : Bool
  url : String
  password : Option String
  connectTimeout : Duration
  commandTimeout : Duration
  /-- How long an entry lives unless it is said otherwise. -/
  ttl : Duration
deriving DecidableEq, Repr

/-- Settings of both caches. -/
structure CacheConfig where
  enabled : Bool
  /-- What all keys begin with. -/
  keyPrefix : String
  memory : MemoryConfig
  distributed : DistributedConfig
deriving DecidableEq, Repr

/-- Settings of reads. -/
structure ReadConfig where
  /-- Numbers of a greater magnitude are returned as text. -/
  numericStringThreshold : Binary64
  /-- How many values of a list a filter may use. -/
  maxInList : Nat
deriving DecidableEq, Repr

/-- All settings. -/
structure Config where
  cache : CacheConfig
  query : ReadConfig
  /-- Indexes are made in the background after reads. -/
  advisorEnabled : Bool
deriving DecidableEq, Repr

/-- The largest number up to which every whole number is a double. -/
def maxSafeInteger : Binary64 := .ofNat 9007199254740991

/-- 100 MiB, five minutes, four fifths and one fifth. -/
def MemoryConfig.default : MemoryConfig where
  maxBytes := 104857600
  defaultTtl := .ofSeconds 300
  reenableRatio := Decimal.toBinary64 ⟨false, 8, -1⟩
  evictionAllowance := Decimal.toBinary64 ⟨false, 2, -1⟩

/-- Not used; a server on this machine, and five minutes. -/
def DistributedConfig.default : DistributedConfig where
  enabled := false
  url := "redis://localhost:6379"
  password := none
  connectTimeout := .ofSeconds 10
  commandTimeout := .ofSeconds 5
  ttl := .ofSeconds 300

/-- Only the cache in memory is used. -/
def CacheConfig.default : CacheConfig where
  enabled := true
  keyPrefix := "cache:data:"
  memory := .default
  distributed := .default

/-- Numbers up to 100000 stay numbers, and lists have up to 1000 values. -/
def ReadConfig.default : ReadConfig where
  numericStringThreshold := .ofNat 100000
  maxInList := 1000

/-- The settings where nothing is set. -/
def Config.default : Config where
  cache := .default
  query := .default
  advisorEnabled := true

/-- A number lies between zero and a bound. -/
def isWithin (bound x : Binary64) : Bool := Binary64.zero.le x && x.le bound

namespace Config

/-- Refuses settings that make no sense; the first of them is the fault. -/
def check (c : Config) : Except ConfigFault Unit :=
  let memory := c.cache.memory
  if !isWithin (.ofNat 1) memory.reenableRatio then .error (.reenableRatio memory.reenableRatio)
  else if !isWithin (.ofNat 1) memory.evictionAllowance then
    .error (.evictionAllowance memory.evictionAllowance)
  else if !isWithin maxSafeInteger c.query.numericStringThreshold then
    .error (.numericStringThreshold c.query.numericStringThreshold)
  else if c.query.maxInList = 0 then .error .emptyInList
  else .ok ()

end Config

/-! ## Settings as JSON -/

/-- The settings as an object. -/
def MemoryConfig.toJson (c : MemoryConfig) : Json := .object [
  ("max_bytes", .nat c.maxBytes),
  ("default_ttl", .string c.defaultTtl.text),
  ("reenable_ratio", .ofBinary64 c.reenableRatio),
  ("eviction_allowance", .ofBinary64 c.evictionAllowance)]

/-- The settings as an object. -/
def DistributedConfig.toJson (c : DistributedConfig) : Json := .object [
  ("enabled", .bool c.enabled),
  ("url", .string c.url),
  ("password", (c.password.map Json.string).getD .null),
  ("connect_timeout", .string c.connectTimeout.text),
  ("command_timeout", .string c.commandTimeout.text),
  ("ttl", .string c.ttl.text)]

/-- The settings as an object. -/
def CacheConfig.toJson (c : CacheConfig) : Json := .object [
  ("enabled", .bool c.enabled),
  ("key_prefix", .string c.keyPrefix),
  ("memory", c.memory.toJson),
  ("distributed", c.distributed.toJson)]

/-- The settings as an object. -/
def Config.toJson (c : Config) : Json := .object [
  ("cache", c.cache.toJson),
  ("query", .object [
    ("numeric_string_threshold", .ofBinary64 c.query.numericStringThreshold),
    ("max_in_list", .nat c.query.maxInList)]),
  ("advisor", .object [("enabled", .bool c.advisorEnabled)])]

end TableQuery
