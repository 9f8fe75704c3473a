import TableQuery.Action
import TableQuery.Cache.Distributed
import TableQuery.Cache.Key
import TableQuery.Cache.Memory

/-!
# The cache in two tiers

Values are looked for in memory and then, if there is one, in the shared cache; what is found
there is copied into memory. A shared cache that fails is as good as one that has nothing.

Every operation is a row of parts with at most one command to the shared cache each, since
others may be at work between the parts.

* `lookInMemory`, `askShared`, `settle`: a lookup, `get`.
* `putShared`, `putInMemory`: a new value, `set`.
* `dropInMemory`, `matchShared`, `dropShared`: the pages of a dataset, `invalidate`.
* `stats`: what is told of both caches, `CacheStats`.
-/

namespace TableQuery

/-- What a cache counts. -/
structure CacheCounters where
  lookups : Nat
  /-- Lookups that found nothing. -/
  misses : Nat
  sharedHits : Nat
  sharedMisses : Nat
  sharedErrors : Nat
deriving DecidableEq, Repr

/-- Nothing counted. -/
def CacheCounters.zero : CacheCounters := ⟨0, 0, 0, 0, 0⟩

/-- What is told of a shared cache. -/
structure SharedStats where
  /-- The shared cache is in use. -/
  enabled : Bool
  connected : Bool
  hits : Nat
  misses : Nat
  errors : Nat
  hitRate : Binary64
  /-- No shared cache says how large it is. -/
  bytesUsed : Option Nat
deriving DecidableEq, Repr

/-- What is told of all lookups. -/
structure LookupStats where
  lookups : Nat
  hits : Nat
  /-- Lookups that found nothing in either cache. -/
  misses : Nat
  hitRate : Binary64
  lastReset : Instant
deriving DecidableEq, Repr

/-- What two caches tell of themselves. -/
structure CacheStats where
  enabled : Bool
  memory : MemoryStats
  shared : SharedStats
  overall : LookupStats
deriving DecidableEq, Repr

/-- The layout of what is told of a shared cache. -/
def SharedStats.toJson (s : SharedStats) : Json := .object [
  ("enabled", .bool s.enabled),
  ("connected", .bool s.connected),
  ("hits", .nat s.hits),
  ("misses", .nat s.misses),
  ("errors", .nat s.errors),
  ("hitRate", .ofBinary64 s.hitRate),
  ("bytesUsed", s.bytesUsed.elim .null .nat)]

/-- The layout of what is told of all lookups. -/
def LookupStats.toJson (showTime : Instant → String) (s : LookupStats) : Json := .object [
  ("totalQueries", .nat s.lookups),
  ("hits", .nat s.hits),
  ("misses", .nat s.misses),
  ("hitRate", .ofBinary64 s.hitRate),
  ("lastReset", .string (showTime s.lastReset))]

/-- The layout of what two caches tell. -/
def CacheStats.toJson (showTime : Instant → String) (s : CacheStats) : Json := .object [
  ("enabled", .bool s.enabled),
  ("memory", s.memory.toJson),
  ("distributed", s.shared.toJson),
  ("overall", s.overall.toJson showTime)]

/-- A cache in memory before a shared one. -/
structure TieredCache (ρ : Type) where
  enabled : Bool
  keyPrefix : String
  memory : MemoryTier
  shared : ρ
  /-- The shared cache is in use. -/
  attached : Bool
  /-- How long the shared cache keeps a value unless it is said otherwise. -/
  sharedTtl : Duration
  counters : CacheCounters
  /-- When counting began. -/
  lastReset : Instant

namespace TieredCache

variable {ρ : Type}

/-- The empty cache that the settings describe, before a shared cache that is in use or not. -/
def make (config : CacheConfig) (now : Instant) (shared : ρ) (attached : Bool) :
    TieredCache ρ where
  enabled := config.enabled
  keyPrefix := config.keyPrefix
  memory := .make (.ofConfig config.memory)
  shared
  attached
  sharedTtl := config.distributed.ttl
  counters := .zero
  lastReset := now

/-- The cache with a connection to the shared cache, if the settings ask for one. Where none
comes about there is memory only. -/
def connecting (config : CacheConfig) (now : Instant) (shared : ρ)
    (connect : DistributedConfig → ρ → Except CacheFault Unit × ρ) : TieredCache ρ :=
  if config.enabled && config.distributed.enabled then
    let (outcome, shared) := connect config.distributed shared
    make config now shared (outcome matches .ok _)
  else make config now shared false

/-- The key of a page. -/
def keyFor (c : TieredCache ρ) (datasetId : String) (page limit : Nat) (filter : Json) : String :=
  cacheKey c.keyPrefix datasetId page limit filter

/-- A command of the shared cache failed. -/
def countError (c : TieredCache ρ) : TieredCache ρ :=
  { c with counters := { c.counters with sharedErrors := c.counters.sharedErrors + 1 } }

/-- A lookup found nothing. -/
def countMiss (c : TieredCache ρ) : TieredCache ρ :=
  { c with counters := { c.counters with misses := c.counters.misses + 1 } }

/-- The shared cache had nothing. -/
def countSharedMiss (c : TieredCache ρ) : TieredCache ρ :=
  { c with counters := { c.counters with sharedMisses := c.counters.sharedMisses + 1 } }

/-! ## Lookups -/

/-- The first part of a lookup: it is counted, and memory is asked. -/
def lookInMemory (now : Instant) (key : String) (c : TieredCache ρ) :
    Option String × TieredCache ρ :=
  let (found, memory) := c.memory.get now key
  (found, { c with memory, counters := { c.counters with lookups := c.counters.lookups + 1 } })

/-- The second part: the shared cache is asked. -/
def askShared [DistributedTier ρ] (now : Instant) (key : String) (c : TieredCache ρ) :
    Except CacheFault (Option String) × TieredCache ρ :=
  let (answer, shared) := DistributedTier.get now key c.shared
  (answer, { c with shared })

/-- Puts a value in memory; the clock must be able to tell its end. -/
def putInMemory (now : Instant) (key value : String) (ttl : Option Duration)
    (c : TieredCache ρ) : Except QueryError Bool × TieredCache ρ :=
  let (admission, memory) := c.memory.set now key value ttl
  let c := { c with memory }
  match admission with
  | .stored => (.ok true, c)
  | .disabled | .rejected => (.ok false, c)
  | .beyondClock => (.error .clock, c)

/-- The last part: what the shared cache had is copied into memory, for the usual time. -/
def settle (now : Instant) (key : String) (answer : Except CacheFault (Option String))
    (c : TieredCache ρ) : Except QueryError (Option String) × TieredCache ρ :=
  match answer with
  | .ok (some value) =>
    let c := { c with counters := { c.counters with sharedHits := c.counters.sharedHits + 1 } }
    let (copied, c) := c.putInMemory now key value none
    (copied.map fun _ => some value, c)
  | .ok none => (.ok none, c.countSharedMiss.countMiss)
  | .error _ => (.ok none, c.countError.countSharedMiss.countMiss)

/-- Looks a key up. -/
def get [DistributedTier ρ] (now : Instant) (key : String) :
    Action (TieredCache ρ) (Option String) :=
  .make fun c =>
    if c.enabled then
      let (found, c) := c.lookInMemory now key
      match found with
      | some value => (.ok (some value), c)
      | none =>
        if c.attached then
          let (answer, c) := c.askShared now key
          c.settle now key answer
        else (.ok none, c.countMiss)
    else (.ok none, c)

/-! ## New values -/

/-- Puts a value in the shared cache, and says whether that worked. -/
def putShared [DistributedTier ρ] (now : Instant) (key value : String) (ttl : Duration)
    (c : TieredCache ρ) : Bool × TieredCache ρ :=
  let (outcome, shared) := DistributedTier.setEx now key value ttl c.shared
  let c := { c with shared }
  match outcome with
  | .ok () => (true, c)
  | .error _ => (false, c.countError)

/-- Puts a value in both caches, and says whether one of them took it. -/
def set [DistributedTier ρ] (now : Instant) (key value : String) (ttl : Option Duration) :
    Action (TieredCache ρ) Bool :=
  .make fun c =>
    if c.enabled then
      let (stored, c) :=
        if c.attached then c.putShared now key value (ttl.getD c.sharedTtl) else (false, c)
      let (admitted, c) := c.putInMemory now key value ttl
      (admitted.map (stored || ·), c)
    else (.ok false, c)

/-! ## Fewer values -/

/-- Drops keys of the shared cache; none if that fails. -/
def dropShared [DistributedTier ρ] (now : Instant) (keys : List String) (c : TieredCache ρ) :
    Nat × TieredCache ρ :=
  let (outcome, shared) := DistributedTier.del now keys c.shared
  let c := { c with shared }
  match outcome with
  | .ok n => (n, c)
  | .error _ => (0, c.countError)

/-- Drops a key, and says whether memory had it. -/
def delete [DistributedTier ρ] (now : Instant) (key : String) (c : TieredCache ρ) :
    Bool × TieredCache ρ :=
  if c.enabled then
    let (removed, memory) := c.memory.delete key
    let c := { c with memory }
    if c.attached then (removed, (c.dropShared now [key]).2) else (removed, c)
  else (false, c)

/-- The keys of the shared cache that begin with a text. -/
def matchShared [DistributedTier ρ] (now : Instant) (start : String) (c : TieredCache ρ) :
    Except CacheFault (List String) × TieredCache ρ :=
  let (found, shared) := DistributedTier.keys now (start ++ "*") c.shared
  (found, { c with shared })

/-- Drops what the shared cache has under keys that begin with a text. -/
def dropSharedStart [DistributedTier ρ] (now : Instant) (start : String) (c : TieredCache ρ) :
    Nat × TieredCache ρ :=
  if c.attached then
    let (found, c) := c.matchShared now start
    match found with
    | .ok keys => c.dropShared now keys
    | .error _ => (0, c.countError)
  else (0, c)

/-- Drops what memory has under keys that begin with a text. -/
def dropInMemory (start : String) (c : TieredCache ρ) : Nat × TieredCache ρ :=
  let (removed, memory) := c.memory.removeStart start
  (removed, { c with memory })

/-- Drops the pages of a dataset from memory and then from the shared cache. -/
def invalidate [DistributedTier ρ] (now : Instant) (datasetId : String) (c : TieredCache ρ) :
    Nat × TieredCache ρ :=
  if c.enabled then
    let start := keyNamespace c.keyPrefix datasetId
    let (here, c) := c.dropInMemory start
    let (there, c) := c.dropSharedStart now start
    (here + there, c)
  else (0, c)

/-- Drops everything that this cache may have put anywhere. -/
def clearAll [DistributedTier ρ] (now : Instant) (c : TieredCache ρ) : TieredCache ρ :=
  let c := { c with memory := c.memory.clear }
  if c.enabled then (c.dropSharedStart now c.keyPrefix).2 else c

/-- Drops the entries of memory that have expired, and says how many. -/
def purgeExpired (now : Instant) (c : TieredCache ρ) : Nat × TieredCache ρ :=
  let (n, memory) := c.memory.purgeExpired now
  (n, { c with memory })

/-- Lets go of both caches. What comes after uses memory only. -/
def close (c : TieredCache ρ) : TieredCache ρ :=
  { c with memory := c.memory.clear, attached := false }

/-- Counts from zero again. -/
def resetStats (now : Instant) (c : TieredCache ρ) : TieredCache ρ :=
  { c with memory := c.memory.resetStats, counters := .zero, lastReset := now }

/-- Lookups that found something. -/
def hits (c : TieredCache ρ) : Nat := c.counters.lookups - c.counters.misses

/-- The shared cache is in use and answers. -/
def isConnected [DistributedTier ρ] (c : TieredCache ρ) : Bool :=
  c.attached && DistributedTier.isConnected c.shared

/-- What is told of both caches. -/
def stats [DistributedTier ρ] (c : TieredCache ρ) : CacheStats where
  enabled := c.enabled
  memory := c.memory.stats
  shared := {
    enabled := c.attached
    connected := c.isConnected
    hits := c.counters.sharedHits
    misses := c.counters.sharedMisses
    errors := c.counters.sharedErrors
    hitRate := hitRate c.counters.sharedHits c.counters.sharedMisses
    bytesUsed := none }
  overall := {
    lookups := c.counters.lookups
    hits := c.hits
    misses := c.counters.misses
    hitRate := hitRate c.hits c.counters.misses
    lastReset := c.lastReset }

/-- What is told of both caches, laid out. -/
def statsJson [DistributedTier ρ] (showTime : Instant → String) (c : TieredCache ρ) : Json :=
  c.stats.toJson showTime

/-! ## Values with a form -/

/-- Looks a key up and reads the value; one that cannot be read is dropped. -/
def getDecoded [DistributedTier ρ] {α : Type} (decode : String → Option α) (now : Instant)
    (key : String) : Action (TieredCache ρ) (Option α) := do
  match ← get now key with
  | none => pure none
  | some text =>
    match decode text with
    | some value => pure (some value)
    | none => do
      let _ ← Action.lift (delete now key)
      pure none

/-- Writes a value out and puts it in both caches; one that cannot be written is put nowhere. -/
def setEncoded [DistributedTier ρ] {α : Type} (encode : α → Option String) (now : Instant)
    (key : String) (value : α) (ttl : Option Duration) : Action (TieredCache ρ) Bool :=
  match encode value with
  | some text => set now key text ttl
  | none => pure false

end TieredCache

end TableQuery
