import TableQuery.Config.Settings
import TableQuery.Time.Phrase
import TableQuery.Yaml.Document

/-!
# Reading settings

Settings are read from YAML or JSON in one way: a group of settings is a mapping, names that are
not known are passed over, and what is not given keeps its default. A known name may be given
once only.

* `SettingSource`: what the two notations have in common.
* `Config.ofYaml`: the settings of a YAML document, checked. Blank text sets nothing.
-/

namespace TableQuery

/-- A notation for settings. -/
class SettingSource (ν : Type) where
  /-- The named parts of a group. A notation may name them by their places. -/
  parts? : List String → ν → Option (List (String × ν))
  bool? : ν → Option Bool
  natural? : ν → Option Nat
  real? : ν → Option Binary64
  text? : ν → Option String
  /-- Whether something is set. -/
  presence? : ν → Option Bool

/-- In YAML, a group without any text is a group without parts. -/
instance : SettingSource YamlDocument where
  parts? _ d :=
    match d.content with
    | .mapping entries =>
      entries.mapM fun (key, value) => (d.part key).content.text?.map (·, d.part value)
    | .scalar "" .plain _ => some []
    | _ => none
  bool? d := d.content.bool?
  natural? d := d.content.natural? maxWord64
  real? d := d.content.real?
  text? d := d.content.text?
  presence? d := d.content.presence?

/-- In JSON, the parts of a group may also be given as an array in the order of their names. -/
instance : SettingSource Json where
  parts? names v :=
    match v with
    | .object fields => some fields
    | .array items => if items.length ≤ names.length then some (names.zip items) else none
    | _ => none
  bool?
    | .bool b => some b
    | _ => none
  natural?
    | .number (.integer i) => if 0 ≤ i ∧ i ≤ maxWord64 then some i.toNat else none
    | _ => none
  real?
    | .number n => some n.toBinary64
    | _ => none
  text?
    | .string s => some s
    | _ => none
  presence?
    | .null => some false
    | _ => some true

section

variable {ν α : Type} [SettingSource ν]

/-- The parts of a group, each known name at most once. -/
def group? (names : List String) (v : ν) : Option (List (String × ν)) := do
  let parts ← SettingSource.parts? names v
  if names.all fun name => parts.countP (·.1 == name) ≤ 1 then some parts else none

/-- One setting of a group. -/
def setting? (parts : List (String × ν)) (name : String) (default : α) (read : ν → Option α) :
    Option α :=
  match parts.find? (·.1 == name) with
  | none => some default
  | some (_, v) => read v

/-- A span of time. -/
def readDuration? (v : ν) : Option Duration := (SettingSource.text? v).bind Duration.parse?

/-- A text that may be missing. -/
def readOptionalText? (v : ν) : Option (Option String) := do
  if ← SettingSource.presence? v then some (some (← SettingSource.text? v)) else some none

/-- The settings of the cache in memory. -/
def MemoryConfig.read? (v : ν) : Option MemoryConfig := do
  let d := MemoryConfig.default
  let parts ← group? ["max_bytes", "default_ttl", "reenable_ratio", "eviction_allowance"] v
  let maxBytes ← setting? parts "max_bytes" d.maxBytes SettingSource.natural?
  let defaultTtl ← setting? parts "default_ttl" d.defaultTtl readDuration?
  let reenableRatio ← setting? parts "reenable_ratio" d.reenableRatio SettingSource.real?
  let evictionAllowance ←
    setting? parts "eviction_allowance" d.evictionAllowance SettingSource.real?
  some { maxBytes, defaultTtl, reenableRatio, evictionAllowance }

/-- The settings of the shared cache. -/
def DistributedConfig.read? (v : ν) : Option DistributedConfig := do
  let d := DistributedConfig.default
  let parts ← group? ["enabled", "url", "password", "connect_timeout", "command_timeout", "ttl"] v
  let enabled ← setting? parts "enabled" d.enabled SettingSource.bool?
  let url ← setting? parts "url" d.url SettingSource.text?
  let password ← setting? parts "password" d.password readOptionalText?
  let connectTimeout ← setting? parts "connect_timeout" d.connectTimeout readDuration?
  let commandTimeout ← setting? parts "command_timeout" d.commandTimeout readDuration?
  let ttl ← setting? parts "ttl" d.ttl readDuration?
  some { enabled, url, password, connectTimeout, commandTimeout, ttl }

/-- The settings of both caches. -/
def CacheConfig.read? (v : ν) : Option CacheConfig := do
  let d := CacheConfig.default
  let parts ← group? ["enabled", "key_prefix", "memory", "distributed"] v
  let enabled ← setting? parts "enabled" d.enabled SettingSource.bool?
  let keyPrefix ← setting? parts "key_prefix" d.keyPrefix SettingSource.text?
  let memory ← setting? parts "memory" d.memory MemoryConfig.read?
  let distributed ← setting? parts "distributed" d.distributed DistributedConfig.read?
  some { enabled, keyPrefix, memory, distributed }

/-- The settings of reads. -/
def ReadConfig.read? (v : ν) : Option ReadConfig := do
  let d := ReadConfig.default
  let parts ← group? ["numeric_string_threshold", "max_in_list"] v
  let numericStringThreshold ←
    setting? parts "numeric_string_threshold" d.numericStringThreshold SettingSource.real?
  let maxInList ← setting? parts "max_in_list" d.maxInList SettingSource.natural?
  some { numericStringThreshold, maxInList }

/-- Whether the advisor is on. -/
def readAdvisor? (v : ν) : Option Bool := do
  let parts ← group? ["enabled"] v
  setting? parts "enabled" Config.default.advisorEnabled SettingSource.bool?

/-- All settings. -/
def Config.read? (v : ν) : Option Config := do
  let d := Config.default
  let parts ← group? ["cache", "query", "advisor"] v
  let cache ← setting? parts "cache" d.cache CacheConfig.read?
  let query ← setting? parts "query" d.query ReadConfig.read?
  let advisorEnabled ← setting? parts "advisor" d.advisorEnabled readAdvisor?
  some { cache, query, advisorEnabled }

end

/-- The settings of a YAML document, checked. Blank text sets nothing. -/
def Config.ofYaml (text : String) : Except QueryError Config :=
  if isBlankText text then .ok .default
  else match (YamlDocument.parse? text).bind Config.read? with
    | none => .error .yaml
    | some c =>
      match c.check with
      | .ok () => .ok c
      | .error fault => .error (.config fault)

end TableQuery
