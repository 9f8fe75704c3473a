import TableQuery.Proofs.Cache.Distributed
import TableQuery.Proofs.Cache.Glob
import TableQuery.Proofs.Cache.Key

/-!
# The pages of a dataset in both caches

When the pages of a dataset are dropped, memory compares keys with the namespace of the dataset, and
the shared cache is asked for a pattern that is made of the namespace as it is. Both mean the same
keys if no character of the namespace has a meaning in patterns.

* `GlobTier`: a shared cache that finds its keys by patterns.
* `invalidate_value`: what is left under a key, by the namespace and by the pattern.
* `invalidate_values`: what both caches have under keys of pages afterwards.
* `invalidate_misses_bracketed`: a prefix with brackets keeps pages in the shared cache.
-/

namespace TableQuery

/-- What a lookup in the shared cache finds. -/
def sharedValue? {ρ : Type} [DistributedTier ρ] (now : Instant) (key : String) (r : ρ) :
    Option String :=
  match (DistributedTier.get now key r).1 with
  | .ok found => found
  | .error _ => none

/-- A shared cache whose commands succeed: it lists the keys that match a pattern, and drops those
that it is told to. -/
class GlobTier (ρ : Type) [DistributedTier ρ] : Prop where
  keys_ok : ∀ (now : Instant) (pattern : String) (r : ρ), ∃ found,
    (DistributedTier.keys now pattern r).1 = .ok found ∧
      ∀ key, key ∈ found ↔ globMatches pattern key = true ∧ (sharedValue? now key r).isSome = true
  keys_value : ∀ (now : Instant) (pattern key : String) (r : ρ),
    sharedValue? now key (DistributedTier.keys now pattern r).2 = sharedValue? now key r
  del_value : ∀ (now : Instant) (keys : List String) (key : String) (r : ρ),
    sharedValue? now key (DistributedTier.del now keys r).2 =
      if key ∈ keys then none else sharedValue? now key r

/-- Entries at hand that are found by patterns. -/
structure PatternTier where
  table : KeyTable
deriving DecidableEq, Repr

namespace PatternTier

instance : DistributedTier PatternTier where
  get _ key t := (.ok (t.table.get? key), t)
  setEx _ key value _ t := (.ok (), ⟨t.table.insert key value⟩)
  del _ keys t := (.ok (t.table.eraseAll keys).1, ⟨(t.table.eraseAll keys).2⟩)
  keys _ pattern t := (.ok ((t.table.entries.map (·.1)).filter (globMatches pattern)), t)
  isConnected _ := true

instance : GlobTier PatternTier where
  keys_ok now pattern t := by
    refine ⟨_, rfl, fun key => ?_⟩
    rw [List.mem_filter, and_comm, KeyTable.mem_keys]
    rfl
  keys_value _ _ _ _ := rfl
  del_value _ keys key t := t.table.get?_eraseAll keys key

end PatternTier

namespace TieredCache

variable {ρ : Type}

/-- What memory has under a key. -/
def memoryValue? (c : TieredCache ρ) (key : String) : Option String :=
  (c.memory.find? key).map (·.value)

/-- What a shared cache that is in use has under a key. -/
def sharedValue? [DistributedTier ρ] (now : Instant) (key : String) (c : TieredCache ρ) :
    Option String :=
  if c.attached then TableQuery.sharedValue? now key c.shared else none

theorem dropInMemory_value (start key : String) (c : TieredCache ρ) :
    (c.dropInMemory start).2.memoryValue? key =
      if beginsWith start key then none else c.memoryValue? key := by
  have hentries := c.memory.removeStart_entries start
  show ((c.memory.removeStart start).2.entries.find? (·.key == key)).map (·.value) = _
  rw [hentries, List.find?_filter]
  cases hstart : beginsWith start key with
  | true =>
    have hnone : ∀ e ∈ c.memory.entries, ¬(decide ((!beginsWith start e.key) = true ∧
        (e.key == key) = true)) = true := by
      intro e _
      by_cases hkey : e.key = key <;> simp [hkey, hstart]
    rw [List.find?_eq_none.mpr hnone]
    rfl
  | false =>
    unfold memoryValue? MemoryTier.find?
    congr 2
    funext e
    by_cases hkey : e.key = key <;> simp [hkey, hstart]

variable [DistributedTier ρ] [GlobTier ρ]

theorem dropSharedStart_value (now : Instant) (start key : String) (c : TieredCache ρ) :
    (c.dropSharedStart now start).2.sharedValue? now key =
      if globMatches (start ++ "*") key then none else c.sharedValue? now key := by
  unfold dropSharedStart
  split
  · rename_i hin
    obtain ⟨found, hfound, hmem⟩ := GlobTier.keys_ok now (start ++ "*") c.shared
    have hmatch : (c.matchShared now start).1 = .ok found := hfound
    obtain ⟨counters, hstate⟩ := (c.matchShared now start).2.dropShared_state now found
    simp only [hmatch, hstate]
    show (if c.attached then TableQuery.sharedValue? now key
      (DistributedTier.del now found (DistributedTier.keys now (start ++ "*") c.shared).2).2
        else none) = _
    rw [sharedValue?, if_pos hin, if_pos hin, GlobTier.del_value, GlobTier.keys_value]
    simp only [hmem]
    cases globMatches (start ++ "*") key <;>
      cases TableQuery.sharedValue? now key c.shared <;> simp
  · rename_i hout
    simp [sharedValue?, hout]

/-- Memory drops the keys that begin with the namespace, and the shared cache those that match it
as a pattern. -/
theorem invalidate_value (now : Instant) (id key : String) {c : TieredCache ρ}
    (h : c.enabled = true) :
    (c.invalidate now id).2.memoryValue? key =
        (if beginsWith (keyNamespace c.keyPrefix id) key then none else c.memoryValue? key) ∧
      (c.invalidate now id).2.sharedValue? now key =
        if globMatches (keyNamespace c.keyPrefix id ++ "*") key then none
        else c.sharedValue? now key := by
  unfold invalidate
  rw [if_pos h]
  constructor
  · show (dropSharedStart now _ (c.dropInMemory (keyNamespace c.keyPrefix id)).2).2.memoryValue? key = _
    rw [← dropInMemory_value, memoryValue?, dropSharedStart_memory]
    rfl
  · exact dropSharedStart_value now _ key (c.dropInMemory (keyNamespace c.keyPrefix id)).2

/-- When the pages of a dataset are dropped, memory loses these pages and keeps those of all other
datasets. The shared cache loses what matches the namespace as a pattern, and that is the same if
the prefix of keys is plain. -/
theorem invalidate_values (now : Instant) {id : String} {c : TieredCache ρ} (h : c.enabled = true)
    (hid : isDatasetId id = true) :
    let d := (c.invalidate now id).2
    (∀ key, d.sharedValue? now key =
      if globMatches (keyNamespace c.keyPrefix id ++ "*") key then none
      else c.sharedValue? now key) ∧
    ∀ other page limit filter, isDatasetId other = true →
      let key := c.keyFor other page limit filter
      d.memoryValue? key = (if other = id then none else c.memoryValue? key) ∧
      (IsPlainPattern c.keyPrefix →
        d.sharedValue? now key = if other = id then none else c.sharedValue? now key) := by
  refine ⟨fun key => (invalidate_value now id key h).2, fun other page limit filter hother => ?_⟩
  have hkeys := beginsWith_cacheKey_iff c.keyPrefix page limit filter hid hother
  obtain ⟨hmemory, hshared⟩ := invalidate_value now id (c.keyFor other page limit filter) h
  refine ⟨?_, fun hplain => ?_⟩
  · rw [hmemory, keyFor]
    simp only [hkeys]
  · rw [hshared, globMatches_eq_beginsWith (isPlainPattern_keyNamespace hplain hid), keyFor]
    simp only [hkeys]

end TieredCache

/-! ### Prefixes of two kinds -/

/-- The dataset with the sales of the north. -/
def northId : String := "00000000000000000000000000000001"

/-- The dataset with the sales of the south. -/
def southId : String := "00000000000000000000000000000002"

/-- A page of each dataset in a shared cache, under keys with a prefix. -/
def pagesUnder (start : String) : TieredCache PatternTier :=
  let table : KeyTable := ⟨[(cacheKey start northId 1 10 .null, "north"),
    (cacheKey start southId 1 10 .null, "south")]⟩
  .make { CacheConfig.default with keyPrefix := start } ⟨0⟩ ⟨table⟩ true

theorem invalidate_values_plain :
    let c := pagesUnder "cache:data:"
    let d := (c.invalidate ⟨1⟩ northId).2
    c.enabled = true ∧ isDatasetId northId = true ∧ isDatasetId southId = true ∧
      IsPlainPattern c.keyPrefix ∧
      c.sharedValue? ⟨1⟩ (c.keyFor northId 1 10 .null) = some "north" ∧
      d.sharedValue? ⟨1⟩ (c.keyFor northId 1 10 .null) = none ∧
      d.sharedValue? ⟨1⟩ (c.keyFor southId 1 10 .null) = some "south" := by
  intro c d
  have hnorth : isDatasetId northId = true := by decide +kernel
  have hsouth : isDatasetId southId = true := by decide +kernel
  have hplain : IsPlainPattern c.keyPrefix := by decide +kernel
  have hvalues := (c.invalidate_values ⟨1⟩ rfl hnorth).2
  have hgone := (hvalues northId 1 10 .null hnorth).2 hplain
  have hkept := (hvalues southId 1 10 .null hsouth).2 hplain
  refine ⟨rfl, hnorth, hsouth, hplain, by decide +kernel, hgone, hkept.trans ?_⟩
  decide +kernel

/-- A prefix whose brackets have a meaning in patterns: its own keys do not match it, and pages that
should be dropped stay in the shared cache. -/
theorem invalidate_misses_bracketed :
    ¬∀ (c : TieredCache PatternTier) (now : Instant) (id : String) (page limit : Nat) (filter : Json),
      c.enabled = true → isDatasetId id = true →
        (c.invalidate now id).2.memoryValue? (c.keyFor id page limit filter) = none ∧
          (c.invalidate now id).2.sharedValue? now (c.keyFor id page limit filter) = none := by
  intro h
  have hgone := (h (pagesUnder "p[1]:") ⟨1⟩ northId 1 10 .null rfl (by decide +kernel)).2
  have hkept : ((pagesUnder "p[1]:").invalidate ⟨1⟩ northId).2.sharedValue? ⟨1⟩
      ((pagesUnder "p[1]:").keyFor northId 1 10 .null) = some "north" := by decide +kernel
  rw [hkept] at hgone
  cases hgone

end TableQuery
