import TableQuery.Config.Settings

/-!
# The cache in memory

Entries cost the bytes of their key and value against a budget. An entry that does not fit
drives out those that have not been used for longest, but only up to an allowance. If that is
not enough it is turned away, and if much of the budget is still in use then, the cache stops
taking entries until less is. What it holds can be read all the while.

* `MemoryTier.get`: a live entry, which becomes the one used last.
* `MemoryTier.set`: a new entry, and whether it was taken.
* `MemoryTier.delete`, `removeStart`, `purgeExpired`, `clear`: ways to drop entries.
-/

namespace TableQuery

/-- An entry of the cache. -/
structure CacheEntry where
  key : String
  value : String
  /-- The bytes that the entry was charged with. -/
  size : Nat
  expiresAt : Instant
deriving DecidableEq, Repr

/-- The bounds that settings come to. -/
structure MemoryLimits where
  maxBytes : Nat
  /-- Below so many bytes a cache that has stopped takes entries again. -/
  reenableBelow : Nat
  /-- An entry stops driving others out when so many bytes are free. -/
  evictionAllowance : Nat
  defaultTtl : Duration
deriving DecidableEq, Repr

/-- The bounds of settings. Shares of the budget are cut to whole bytes. -/
def MemoryLimits.ofConfig (c : MemoryConfig) : MemoryLimits where
  maxBytes := c.maxBytes
  reenableBelow := ((Binary64.ofNat c.maxBytes).mul c.reenableRatio).toWord
  evictionAllowance := ((Binary64.ofNat c.maxBytes).mul c.evictionAllowance).toWord
  defaultTtl := c.defaultTtl

/-- The cache in memory. -/
structure MemoryTier where
  limits : MemoryLimits
  /-- The entries, the one that has not been used for longest first. -/
  entries : List CacheEntry
  bytesUsed : Nat
  /-- New entries are taken. -/
  enabled : Bool
  hits : Nat
  misses : Nat
  evictions : Nat
deriving DecidableEq, Repr

/-- What became of a new entry. -/
inductive Admission where
  | stored
  /-- The cache does not take entries at present. -/
  | disabled
  /-- There was no room for it. -/
  | rejected
  /-- Its end lies beyond the range of the clock. -/
  | beyondClock
deriving DecidableEq, Repr

/-- Hits among all lookups in percent; zero before the first. -/
def hitRate (hits misses : Nat) : Binary64 :=
  if hits + misses = 0 then .zero
  else ((Binary64.ofNat hits).div (.ofNat (hits + misses))).mul (.ofNat 100)

/-- What a cache in memory tells of itself. -/
structure MemoryStats where
  /-- The cache takes entries. -/
  enabled : Bool
  hits : Nat
  misses : Nat
  hitRate : Binary64
  bytesUsed : Nat
  maxBytes : Nat
  /-- How much of the budget is in use, in percent. -/
  usagePercent : Binary64
  entries : Nat
  evictions : Nat
deriving DecidableEq, Repr

/-- The layout of what a cache in memory tells. -/
def MemoryStats.toJson (s : MemoryStats) : Json := .object [
  ("enabled", .bool s.enabled),
  ("hits", .nat s.hits),
  ("misses", .nat s.misses),
  ("hitRate", .ofBinary64 s.hitRate),
  ("bytesUsed", .nat s.bytesUsed),
  ("maxBytes", .nat s.maxBytes),
  ("usagePercent", .ofBinary64 s.usagePercent),
  ("entries", .nat s.entries),
  ("evictions", .nat s.evictions)]

namespace MemoryTier

/-- An empty cache. -/
def make (limits : MemoryLimits) : MemoryTier := ⟨limits, [], 0, true, 0, 0, 0⟩

/-- The entry under a key. -/
def find? (t : MemoryTier) (key : String) : Option CacheEntry := t.entries.find? (·.key == key)

/-- Drops the entry under a key and takes entries again if few enough bytes are left. -/
def remove (t : MemoryTier) (key : String) : MemoryTier :=
  match t.find? key with
  | none => t
  | some e =>
    let bytes := t.bytesUsed - e.size
    { t with
      entries := t.entries.filter (·.key != key)
      bytesUsed := bytes
      enabled := t.enabled || decide (bytes < t.limits.reenableBelow) }

/-- Drops the entries under some keys. -/
def removeAll (t : MemoryTier) (keys : List String) : MemoryTier := keys.foldl remove t

/-- Looks a key up. A live entry becomes the one used last, an expired one is dropped. -/
def get (t : MemoryTier) (now : Instant) (key : String) : Option String × MemoryTier :=
  match t.find? key with
  | none => (none, { t with misses := t.misses + 1 })
  | some e =>
    if now.nanos < e.expiresAt.nanos then
      (some e.value,
        { t with entries := t.entries.filter (·.key != key) ++ [e], hits := t.hits + 1 })
    else
      let t := t.remove key
      (none, { t with misses := t.misses + 1 })

/-- The keys of the entries that have expired. -/
def expiredKeys (t : MemoryTier) (now : Instant) : List String :=
  (t.entries.filter fun e => decide (e.expiresAt.nanos ≤ now.nanos)).map (·.key)

/-- Drops the entries that have expired, and says how many. -/
def purgeExpired (t : MemoryTier) (now : Instant) : Nat × MemoryTier :=
  let keys := t.expiredKeys now
  (keys.length, t.removeAll keys)

/-- There is no room for so many bytes more. -/
def isFull (t : MemoryTier) (size : Nat) : Bool := decide (t.limits.maxBytes < t.bytesUsed + size)

/-- Drives entries out, from the first on, until so many bytes fit or the allowance is used up:
the entries that are left, the bytes that they take, and how many are gone. -/
def evictFrom (limits : MemoryLimits) (size : Nat) :
    List CacheEntry → (bytes freed : Nat) → List CacheEntry × Nat × Nat
  | [], bytes, _ => ([], bytes, 0)
  | e :: rest, bytes, freed =>
    if limits.maxBytes < bytes + size ∧ freed < limits.evictionAllowance then
      let (left, used, count) := evictFrom limits size rest (bytes - e.size) (freed + e.size)
      (left, used, count + 1)
    else (e :: rest, bytes, 0)

/-- Makes room for so many bytes as far as it is allowed. -/
def evict (t : MemoryTier) (size : Nat) : MemoryTier :=
  let (entries, bytesUsed, count) := evictFrom t.limits size t.entries t.bytesUsed 0
  { t with entries, bytesUsed, evictions := t.evictions + count }

/-- Makes room for an entry and takes it if it fits. If it does not, a cache that is still in
heavy use stops taking entries. -/
def accept (t : MemoryTier) (now : Instant) (e : CacheEntry) : Admission × MemoryTier :=
  let t := if t.isFull e.size then (t.purgeExpired now).2 else t
  let t := t.evict e.size
  if t.isFull e.size then
    (.rejected, { t with enabled := t.enabled && decide (t.bytesUsed < t.limits.reenableBelow) })
  else (.stored, { t with entries := t.entries ++ [e], bytesUsed := t.bytesUsed + e.size })

/-- Puts a value under a key, for a span of time or the usual one. What was there goes first. -/
def set (t : MemoryTier) (now : Instant) (key value : String) (ttl : Option Duration) :
    Admission × MemoryTier :=
  match now.after? (ttl.getD t.limits.defaultTtl) with
  | none => (.beyondClock, t)
  | some expiresAt =>
    let t := t.remove key
    if !t.enabled && decide (t.limits.reenableBelow ≤ t.bytesUsed) then (.disabled, t)
    else accept { t with enabled := true } now
      ⟨key, value, key.utf8ByteSize + value.utf8ByteSize, expiresAt⟩

/-- Drops a key, and says whether it was there. -/
def delete (t : MemoryTier) (key : String) : Bool × MemoryTier :=
  ((t.find? key).isSome, t.remove key)

/-- Drops the keys that begin with a text, and says how many. -/
def removeStart (t : MemoryTier) (start : String) : Nat × MemoryTier :=
  let keys := (t.entries.filter fun e => beginsWith start e.key).map (·.key)
  (keys.length, t.removeAll keys)

/-- Drops everything and takes entries again. -/
def clear (t : MemoryTier) : MemoryTier := { t with entries := [], bytesUsed := 0, enabled := true }

/-- Counts from zero again. -/
def resetStats (t : MemoryTier) : MemoryTier := { t with hits := 0, misses := 0, evictions := 0 }

/-- How much of the budget is in use, in percent. -/
def usagePercent (t : MemoryTier) : Binary64 :=
  if t.limits.maxBytes = 0 then .zero
  else ((Binary64.ofNat t.bytesUsed).div (.ofNat t.limits.maxBytes)).mul (.ofNat 100)

/-- What is told of the cache. -/
def stats (t : MemoryTier) : MemoryStats where
  enabled := t.enabled
  hits := t.hits
  misses := t.misses
  hitRate := hitRate t.hits t.misses
  bytesUsed := t.bytesUsed
  maxBytes := t.limits.maxBytes
  usagePercent := t.usagePercent
  entries := t.entries.length
  evictions := t.evictions

/-- What is told of the cache, laid out. -/
def statsJson (t : MemoryTier) : Json := t.stats.toJson

end MemoryTier

end TableQuery
