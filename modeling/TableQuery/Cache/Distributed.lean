import TableQuery.Text.Blank
import TableQuery.Time.Duration

/-!
# The shared cache

A cache that several processes share is reached by four commands, each of which may fail. A
`DistributedTier` is such a cache together with whatever stands between it and its user; a
command answers and leaves it in a new state.

* `SwitchableTier`: entries at hand, with a switch that makes every command fail.
-/

namespace TableQuery

/-- Why a command of the shared cache failed. -/
inductive CacheFault where
  /-- The server refused it or cannot be reached. -/
  | refused
  /-- No answer came within a span of time. -/
  | timeout (limit : Duration)
  | unavailable
deriving DecidableEq, Repr

/-- The fault of a late answer in words. -/
def CacheFault.message : CacheFault → String
  | .refused => "Redis error"
  | .timeout limit => "Cache operation timed out after " ++ limit.exactText
  | .unavailable => "Cache tier unavailable"

/-- A shared cache. -/
class DistributedTier (ρ : Type) where
  /-- The value under a key. -/
  get : Instant → String → ρ → Except CacheFault (Option String) × ρ
  /-- Puts a value under a key for a span of time. -/
  setEx : Instant → String → String → Duration → ρ → Except CacheFault Unit × ρ
  /-- Drops keys, and says how many there were. -/
  del : Instant → List String → ρ → Except CacheFault Nat × ρ
  /-- The keys that match a pattern. -/
  keys : Instant → String → ρ → Except CacheFault (List String) × ρ
  /-- The last command reached the cache. -/
  isConnected : ρ → Bool

/-! ## Keys with values -/

/-- Values by keys, in the order of the keys. -/
structure KeyTable where
  entries : List (String × String)
deriving DecidableEq, Repr

namespace KeyTable

/-- Nothing under any key. -/
def empty : KeyTable := ⟨[]⟩

/-- The value under a key. -/
def get? (t : KeyTable) (key : String) : Option String :=
  (t.entries.find? (·.1 == key)).map (·.2)

/-- Puts an entry among entries in the order of their keys. -/
def insertIn (key value : String) : List (String × String) → List (String × String)
  | [] => [(key, value)]
  | (k, v) :: rest =>
    if k = key then (key, value) :: rest
    else if k < key then (k, v) :: insertIn key value rest
    else (key, value) :: (k, v) :: rest

/-- Puts a value under a key. -/
def insert (t : KeyTable) (key value : String) : KeyTable := ⟨insertIn key value t.entries⟩

/-- Drops a key. -/
def erase (t : KeyTable) (key : String) : KeyTable := ⟨t.entries.filter (·.1 != key)⟩

/-- Drops keys one by one and counts those that were there. -/
def eraseAll (t : KeyTable) : List String → Nat × KeyTable
  | [] => (0, t)
  | key :: rest =>
    let found := if (t.get? key).isSome then 1 else 0
    let (n, t) := eraseAll (t.erase key) rest
    (found + n, t)

/-- A key matches a pattern: it begins with what stands before a star at the end, or it is the
pattern. -/
def matchesPattern (pattern key : String) : Bool :=
  match pattern.toList.reverse with
  | '*' :: start => start.reverse.isPrefixOf key.toList
  | _ => key == pattern

/-- The keys that match a pattern. -/
def matching (t : KeyTable) (pattern : String) : List String :=
  (t.entries.map (·.1)).filter (matchesPattern pattern)

/-- The number of keys. -/
def size (t : KeyTable) : Nat := t.entries.length

end KeyTable

/-! ## A cache with a switch -/

/-- Entries at hand. While `failing`, every command fails. -/
structure SwitchableTier where
  table : KeyTable
  failing : Bool
  /-- The commands so far, the failed ones included. -/
  calls : Nat
deriving DecidableEq, Repr

namespace SwitchableTier

/-- No entries, and commands succeed. -/
def empty : SwitchableTier := ⟨.empty, false, 0⟩

/-- Counts a command and gives its answer and table, unless commands fail. -/
def run {α : Type} (t : SwitchableTier) (command : KeyTable → α × KeyTable) :
    Except CacheFault α × SwitchableTier :=
  if t.failing then (.error .unavailable, { t with calls := t.calls + 1 })
  else
    let (answer, table) := command t.table
    (.ok answer, { t with table, calls := t.calls + 1 })

instance : DistributedTier SwitchableTier where
  get _ key t := t.run fun table => (table.get? key, table)
  setEx _ key value _ t := t.run fun table => ((), table.insert key value)
  del _ keys t := t.run fun table => table.eraseAll keys
  keys _ pattern t := t.run fun table => (table.matching pattern, table)
  isConnected t := !t.failing

end SwitchableTier

end TableQuery
