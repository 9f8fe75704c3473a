import Mathlib.Algebra.Ring.Nat
import TableQuery.Proofs.Cache.Memory

/-!
# The account of the cache in memory

The bytes that the cache counts are the bytes of what it holds, and never more than its budget.
The account is adjusted one entry at a time, and no entry takes off more than is there.

* `MemoryTier.WellAccounted`: the account is exact and within the budget.
* `MemoryOperation.perform_wellAccounted`: every operation keeps the account.
* `MemoryOperation.releases`: the sizes that an operation takes off, one after another.
* `after_wellAccounted`: the account after any operations on an empty cache.
-/

namespace TableQuery

/-- The bytes of an entry. -/
def CacheEntry.cost (e : CacheEntry) : Nat := e.key.utf8ByteSize + e.value.utf8ByteSize

/-- The entries have keys of their own and are charged what they cost, and `bytes` is the sum. -/
structure Accounted (entries : List CacheEntry) (bytes : Nat) : Prop where
  sizes : ∀ e ∈ entries, e.size = e.cost
  keys : (entries.map (·.key)).Nodup
  bytes : bytes = (entries.map CacheEntry.cost).sum

/-- The account is exact and within the budget. -/
structure MemoryTier.WellAccounted (t : MemoryTier) : Prop where
  account : Accounted t.entries t.bytesUsed
  budget : t.bytesUsed ≤ t.limits.maxBytes

/-- Sizes are taken off a count one after another, and none is more than what is left. -/
def TakenOff : Nat → List Nat → Prop
  | _, [] => True
  | bytes, size :: rest => size ≤ bytes ∧ TakenOff (bytes - size) rest

theorem TakenOff.append {bytes : Nat} {xs ys : List Nat} (hx : TakenOff bytes xs)
    (hy : TakenOff (xs.foldl (· - ·) bytes) ys) : TakenOff bytes (xs ++ ys) := by
  induction xs generalizing bytes with
  | nil => exact hy
  | cons x xs ih => exact ⟨hx.1, ih hx.2 hy⟩

theorem foldl_sub_le (bytes : Nat) (sizes : List Nat) : sizes.foldl (· - ·) bytes ≤ bytes := by
  induction sizes generalizing bytes with
  | nil => exact Nat.le_refl bytes
  | cons size rest ih => exact Nat.le_trans (ih (bytes - size)) (Nat.sub_le bytes size)

namespace Accounted

variable {entries : List CacheEntry} {bytes : Nat}

theorem nil : Accounted [] 0 := ⟨by simp, by simp, rfl⟩

theorem perm {others : List CacheEntry} (h : Accounted entries bytes)
    (hperm : entries.Perm others) : Accounted others bytes where
  sizes e he := h.sizes e (hperm.mem_iff.mpr he)
  keys := (hperm.map _).nodup_iff.mp h.keys
  bytes := h.bytes.trans (hperm.map _).sum_nat

/-- The first entry takes off what it is charged with. -/
theorem tail {e : CacheEntry} (h : Accounted (e :: entries) bytes) :
    e.size ≤ bytes ∧ Accounted entries (bytes - e.size) := by
  obtain ⟨hsizes, hkeys, hbytes⟩ := h
  rw [List.map_cons, List.sum_cons, ← hsizes e (by simp)] at hbytes
  rw [List.map_cons, List.nodup_cons] at hkeys
  exact ⟨by omega, fun d hd => hsizes d (by simp [hd]), hkeys.2, by omega⟩

theorem cons {e : CacheEntry} (h : Accounted entries bytes) (hsize : e.size = e.cost)
    (hkey : ∀ d ∈ entries, d.key ≠ e.key) : Accounted (e :: entries) (bytes + e.size) where
  sizes d hd := by
    rcases List.mem_cons.mp hd with rfl | hd
    · exact hsize
    · exact h.sizes d hd
  keys := by
    rw [List.map_cons, List.nodup_cons]
    refine ⟨fun hmem => ?_, h.keys⟩
    obtain ⟨d, hd, heq⟩ := List.mem_map.mp hmem
    exact hkey d hd heq
  bytes := by rw [List.map_cons, List.sum_cons, h.bytes, hsize, Nat.add_comm]

end Accounted

namespace MemoryTier

/-! ## Dropped keys -/

/-- The entry under a key and the entries under others are all there is. -/
theorem perm_of_find? {t : MemoryTier} {key : String} {e : CacheEntry}
    (h : t.find? key = some e) (hkeys : (t.entries.map (·.key)).Nodup) :
    t.entries.Perm (e :: t.entries.filter (·.key != key)) := by
  obtain ⟨hmem, hkey⟩ := mem_of_find? h
  obtain ⟨before, after, hsplit⟩ := List.append_of_mem hmem
  rw [hsplit, List.map_append, List.map_cons, List.nodup_append] at hkeys
  obtain ⟨-, hafter, hbefore⟩ := hkeys
  rw [List.nodup_cons] at hafter
  have hothers : (before ++ e :: after).filter (·.key != key) = before ++ after := by
    have hb : before.filter (·.key != key) = before := by
      rw [List.filter_eq_self]
      intro d hd
      have hne := hbefore d.key (List.mem_map_of_mem hd) e.key (by simp)
      simpa [hkey] using hne
    have ha : after.filter (·.key != key) = after := by
      rw [List.filter_eq_self]
      intro d hd
      have hne : d.key ≠ e.key := fun heq => hafter.1 (heq ▸ List.mem_map_of_mem hd)
      simpa [hkey] using hne
    rw [List.filter_append, List.filter_cons, hb, ha]
    simp [hkey]
  rw [hsplit, hothers]
  exact List.perm_middle

/-- The size that goes with a key. -/
def released (t : MemoryTier) (key : String) : List Nat := ((t.find? key).map (·.size)).toList

theorem remove_bytesUsed (t : MemoryTier) (key : String) :
    (t.remove key).bytesUsed = (t.released key).foldl (· - ·) t.bytesUsed := by
  unfold remove released
  split <;> rename_i h <;> rw [h] <;> rfl

/-- Dropping a key takes its size off, which is not more than what is there. -/
theorem remove_account {t : MemoryTier} (h : Accounted t.entries t.bytesUsed) (key : String) :
    TakenOff t.bytesUsed (t.released key) ∧
      Accounted (t.remove key).entries (t.remove key).bytesUsed := by
  rw [remove_bytesUsed, remove_entries]
  unfold released
  cases hfind : t.find? key with
  | none =>
    rw [filter_of_find?_eq_none hfind]
    exact ⟨trivial, h⟩
  | some e =>
    obtain ⟨hle, hrest⟩ := (h.perm (perm_of_find? hfind h.keys)).tail
    exact ⟨⟨hle, trivial⟩, hrest⟩

/-- The sizes that go with some keys, each with the first of its kind. -/
def releasedAll (t : MemoryTier) : List String → List Nat
  | [] => []
  | key :: rest => t.released key ++ (t.remove key).releasedAll rest

theorem removeAll_bytesUsed (t : MemoryTier) (keys : List String) :
    (t.removeAll keys).bytesUsed = (t.releasedAll keys).foldl (· - ·) t.bytesUsed := by
  induction keys generalizing t with
  | nil => rfl
  | cons key rest ih =>
    rw [releasedAll, List.foldl_append, ← remove_bytesUsed]
    exact ih (t.remove key)

theorem removeAll_account {t : MemoryTier} (h : Accounted t.entries t.bytesUsed)
    (keys : List String) :
    TakenOff t.bytesUsed (t.releasedAll keys) ∧
      Accounted (t.removeAll keys).entries (t.removeAll keys).bytesUsed := by
  induction keys generalizing t with
  | nil => exact ⟨trivial, h⟩
  | cons key rest ih =>
    obtain ⟨htaken, haccount⟩ := remove_account h key
    obtain ⟨hrest, hall⟩ := ih haccount
    rw [remove_bytesUsed] at hrest
    exact ⟨htaken.append hrest, hall⟩

/-! ## Evictions -/

/-- The sizes that are driven out. -/
def evictedSizes (limits : MemoryLimits) (size : Nat) :
    List CacheEntry → (bytes freed : Nat) → List Nat
  | [], _, _ => []
  | e :: rest, bytes, freed =>
    if limits.maxBytes < bytes + size ∧ freed < limits.evictionAllowance then
      e.size :: evictedSizes limits size rest (bytes - e.size) (freed + e.size)
    else []

theorem evictFrom_bytes (limits : MemoryLimits) (size : Nat) (entries : List CacheEntry)
    (bytes freed : Nat) :
    (evictFrom limits size entries bytes freed).2.1 =
      (evictedSizes limits size entries bytes freed).foldl (· - ·) bytes := by
  induction entries generalizing bytes freed with
  | nil => rfl
  | cons e rest ih =>
    unfold evictFrom evictedSizes
    split
    · exact ih (bytes - e.size) (freed + e.size)
    · rfl

theorem evictFrom_account {limits : MemoryLimits} {size : Nat} {entries : List CacheEntry}
    {bytes : Nat} (h : Accounted entries bytes) (freed : Nat) :
    TakenOff bytes (evictedSizes limits size entries bytes freed) ∧
      Accounted (evictFrom limits size entries bytes freed).1
        (evictFrom limits size entries bytes freed).2.1 := by
  induction entries generalizing bytes freed with
  | nil => exact ⟨trivial, h⟩
  | cons e rest ih =>
    unfold evictFrom evictedSizes
    split
    · obtain ⟨hle, hrest⟩ := h.tail
      obtain ⟨htaken, hleft⟩ := ih hrest (freed + e.size)
      exact ⟨⟨hle, htaken⟩, hleft⟩
    · exact ⟨trivial, h⟩

theorem evict_account {t : MemoryTier} (h : Accounted t.entries t.bytesUsed) (size : Nat) :
    TakenOff t.bytesUsed (evictedSizes t.limits size t.entries t.bytesUsed 0) ∧
      Accounted (t.evict size).entries (t.evict size).bytesUsed :=
  evictFrom_account h 0

/-! ## New entries -/

/-- The sizes of what has expired if the cache is full. -/
def purgeReleases (t : MemoryTier) (now : Instant) (size : Nat) : List Nat :=
  if t.isFull size then t.releasedAll (t.expiredKeys now) else []

/-- The sizes that are taken off to make room. -/
def roomReleases (t : MemoryTier) (now : Instant) (size : Nat) : List Nat :=
  let purged := t.purgeIfFull now size
  t.purgeReleases now size ++ evictedSizes purged.limits size purged.entries purged.bytesUsed 0

theorem purgeIfFull_bytesUsed (t : MemoryTier) (now : Instant) (size : Nat) :
    (t.purgeIfFull now size).bytesUsed =
      (t.purgeReleases now size).foldl (· - ·) t.bytesUsed := by
  unfold purgeIfFull purgeReleases
  split
  · exact removeAll_bytesUsed t _
  · rfl

theorem makeRoom_bytesUsed (t : MemoryTier) (now : Instant) (size : Nat) :
    (t.makeRoom now size).bytesUsed = (t.roomReleases now size).foldl (· - ·) t.bytesUsed := by
  rw [roomReleases, List.foldl_append, ← purgeIfFull_bytesUsed]
  exact evictFrom_bytes _ size _ _ 0

/-- What a full cache drops is what is under some keys. -/
theorem exists_purgeIfFull_eq (t : MemoryTier) (now : Instant) (size : Nat) :
    ∃ keys, t.purgeIfFull now size = t.removeAll keys := by
  unfold purgeIfFull
  split
  · exact ⟨t.expiredKeys now, rfl⟩
  · exact ⟨[], rfl⟩

@[simp] theorem purgeIfFull_limits (t : MemoryTier) (now : Instant) (size : Nat) :
    (t.purgeIfFull now size).limits = t.limits := by
  obtain ⟨keys, hkeys⟩ := exists_purgeIfFull_eq t now size
  rw [hkeys, removeAll_limits]

@[simp] theorem makeRoom_limits (t : MemoryTier) (now : Instant) (size : Nat) :
    (t.makeRoom now size).limits = t.limits :=
  purgeIfFull_limits t now size

theorem purgeIfFull_account {t : MemoryTier} (h : Accounted t.entries t.bytesUsed) (now : Instant)
    (size : Nat) :
    TakenOff t.bytesUsed (t.purgeReleases now size) ∧
      Accounted (t.purgeIfFull now size).entries (t.purgeIfFull now size).bytesUsed := by
  unfold purgeReleases purgeIfFull
  split
  · exact removeAll_account h (t.expiredKeys now)
  · exact ⟨trivial, h⟩

theorem makeRoom_account {t : MemoryTier} (h : Accounted t.entries t.bytesUsed) (now : Instant)
    (size : Nat) :
    TakenOff t.bytesUsed (t.roomReleases now size) ∧
      Accounted (t.makeRoom now size).entries (t.makeRoom now size).bytesUsed := by
  obtain ⟨hpurged, hleft⟩ := purgeIfFull_account h now size
  obtain ⟨hevicted, hroom⟩ := evict_account hleft size
  rw [purgeIfFull_bytesUsed] at hevicted
  refine ⟨hpurged.append ?_, hroom⟩
  rwa [purgeIfFull_bytesUsed]

/-- An entry that is charged with its cost is added to the account within the budget. -/
theorem accept_wellAccounted {t : MemoryTier} (h : t.WellAccounted) (now : Instant)
    {e : CacheEntry} (hsize : e.size = e.cost) (hkey : ∀ d ∈ t.entries, d.key ≠ e.key) :
    TakenOff t.bytesUsed (t.roomReleases now e.size) ∧ (t.accept now e).2.WellAccounted := by
  obtain ⟨htaken, hroom⟩ := makeRoom_account h.account now e.size
  have hle : (t.makeRoom now e.size).bytesUsed ≤ t.bytesUsed := by
    rw [makeRoom_bytesUsed]
    exact foldl_sub_le t.bytesUsed _
  refine ⟨htaken, ?_⟩
  rw [accept_eq]
  simp only
  split
  · refine ⟨hroom, ?_⟩
    simp only [makeRoom_limits]
    exact Nat.le_trans hle h.budget
  · rename_i hfull
    refine ⟨?_, ?_⟩
    · have hnew := hroom.cons hsize fun d hd => hkey d (makeRoom_subset t now e.size d hd)
      exact hnew.perm (List.perm_append_singleton e _).symm
    · rw [isFull, decide_eq_true_eq, Nat.not_lt] at hfull
      exact hfull

theorem remove_wellAccounted {t : MemoryTier} (h : t.WellAccounted) (key : String) :
    TakenOff t.bytesUsed (t.released key) ∧ (t.remove key).WellAccounted := by
  obtain ⟨htaken, haccount⟩ := remove_account h.account key
  refine ⟨htaken, haccount, ?_⟩
  rw [remove_bytesUsed, remove_limits]
  exact Nat.le_trans (foldl_sub_le _ _) h.budget

theorem removeAll_wellAccounted {t : MemoryTier} (h : t.WellAccounted) (keys : List String) :
    TakenOff t.bytesUsed (t.releasedAll keys) ∧ (t.removeAll keys).WellAccounted := by
  obtain ⟨htaken, haccount⟩ := removeAll_account h.account keys
  refine ⟨htaken, haccount, ?_⟩
  rw [removeAll_bytesUsed, removeAll_limits]
  exact Nat.le_trans (foldl_sub_le _ _) h.budget

/-- The sizes that a lookup takes off: that of an expired entry. -/
def getReleases (t : MemoryTier) (now : Instant) (key : String) : List Nat :=
  if (t.find? key).any fun e => decide (now.nanos < e.expiresAt.nanos) then [] else t.released key

theorem get_wellAccounted {t : MemoryTier} (h : t.WellAccounted) (now : Instant) (key : String) :
    TakenOff t.bytesUsed (t.getReleases now key) ∧ (t.get now key).2.WellAccounted := by
  unfold get getReleases
  cases hfind : t.find? key with
  | none =>
    rw [released, hfind]
    exact ⟨trivial, h.account, h.budget⟩
  | some e =>
    by_cases hlive : now.nanos < e.expiresAt.nanos
    · simp only [hlive, Option.any_some, decide_true, if_true]
      have hperm := (perm_of_find? hfind h.account.keys).trans (List.perm_append_singleton e _).symm
      exact ⟨trivial, h.account.perm hperm, h.budget⟩
    · obtain ⟨htaken, hremoved⟩ := remove_wellAccounted h key
      simp only [hlive, Option.any_some, decide_false, if_false, Bool.false_eq_true]
      exact ⟨htaken, hremoved.account, hremoved.budget⟩

/-- The sizes that a new value takes off: that of the entry it replaces, and those that make
room. -/
def setReleases (t : MemoryTier) (now : Instant) (key value : String) (ttl : Option Duration) :
    List Nat :=
  if (now.after? (ttl.getD t.limits.defaultTtl)).isNone then []
  else
    let left := t.remove key
    t.released key ++
      if !left.enabled && decide (left.limits.reenableBelow ≤ left.bytesUsed) then []
      else roomReleases { left with enabled := true } now (key.utf8ByteSize + value.utf8ByteSize)

theorem set_wellAccounted {t : MemoryTier} (h : t.WellAccounted) (now : Instant)
    (key value : String) (ttl : Option Duration) :
    TakenOff t.bytesUsed (t.setReleases now key value ttl) ∧
      (t.set now key value ttl).2.WellAccounted := by
  unfold set setReleases
  cases now.after? (ttl.getD t.limits.defaultTtl) with
  | none => exact ⟨trivial, h⟩
  | some expiresAt =>
    obtain ⟨htaken, hleft⟩ := remove_wellAccounted h key
    simp only [Option.isNone_some, Bool.false_eq_true, if_false]
    split
    · exact ⟨by simpa using htaken, hleft⟩
    · have henabled : WellAccounted { t.remove key with enabled := true } :=
        ⟨hleft.account, hleft.budget⟩
      have hkey : ∀ d ∈ (t.remove key).entries, d.key ≠ key := by
        intro d hd
        rw [remove_entries] at hd
        simpa using (List.mem_filter.mp hd).2
      have haccepted := accept_wellAccounted henabled now
        (e := ⟨key, value, key.utf8ByteSize + value.utf8ByteSize, expiresAt⟩) rfl hkey
      refine ⟨htaken.append ?_, haccepted.2⟩
      rw [← remove_bytesUsed]
      exact haccepted.1

end MemoryTier

/-! ## Operations -/

/-- An operation of the cache in memory. -/
inductive MemoryOperation where
  | get (key : String)
  | set (key value : String) (ttl : Option Duration)
  | delete (key : String)
  | removeStart (start : String)
  | purgeExpired
  | clear
  | resetStats
deriving DecidableEq, Repr

namespace MemoryOperation

open MemoryTier

/-- The cache after an operation. -/
def perform (now : Instant) : MemoryOperation → MemoryTier → MemoryTier
  | get key, t => (t.get now key).2
  | set key value ttl, t => (t.set now key value ttl).2
  | delete key, t => (t.delete key).2
  | removeStart start, t => (t.removeStart start).2
  | purgeExpired, t => (t.purgeExpired now).2
  | clear, t => t.clear
  | resetStats, t => t.resetStats

/-- The sizes that an operation takes off the account, one after another. -/
def releases (now : Instant) : MemoryOperation → MemoryTier → List Nat
  | get key, t => t.getReleases now key
  | set key value ttl, t => t.setReleases now key value ttl
  | delete key, t => t.released key
  | removeStart start, t =>
    t.releasedAll ((t.entries.filter fun e => beginsWith start e.key).map (·.key))
  | purgeExpired, t => t.releasedAll (t.expiredKeys now)
  | clear, _ | resetStats, _ => []

/-- Every operation keeps the account, and takes off no more than is there. -/
theorem perform_wellAccounted {t : MemoryTier} (h : t.WellAccounted) (now : Instant)
    (op : MemoryOperation) :
    TakenOff t.bytesUsed (op.releases now t) ∧ (op.perform now t).WellAccounted := by
  cases op with
  | get key => exact get_wellAccounted h now key
  | set key value ttl => exact set_wellAccounted h now key value ttl
  | delete key => exact remove_wellAccounted h key
  | removeStart start => exact removeAll_wellAccounted h _
  | purgeExpired => exact removeAll_wellAccounted h _
  | clear => exact ⟨trivial, .nil, Nat.zero_le _⟩
  | resetStats => exact ⟨trivial, h.account, h.budget⟩

/-- The size that an operation adds to the account: that of an entry that is stored. -/
def admitted (now : Instant) : MemoryOperation → MemoryTier → Nat
  | set key value ttl, t =>
    if (t.set now key value ttl).1 = .stored then key.utf8ByteSize + value.utf8ByteSize else 0
  | _, _ => 0

theorem get_bytesUsed (t : MemoryTier) (now : Instant) (key : String) :
    (t.get now key).2.bytesUsed = (t.getReleases now key).foldl (· - ·) t.bytesUsed := by
  unfold MemoryTier.get getReleases
  cases hfind : t.find? key with
  | none =>
    rw [released, hfind]
    rfl
  | some e =>
    by_cases hlive : now.nanos < e.expiresAt.nanos
    · simp [hlive]
    · simpa [hlive] using remove_bytesUsed t key

theorem accept_bytesUsed (t : MemoryTier) (now : Instant) (e : CacheEntry) :
    (t.accept now e).2.bytesUsed =
      (t.roomReleases now e.size).foldl (· - ·) t.bytesUsed +
        if (t.accept now e).1 = .stored then e.size else 0 := by
  rw [accept_eq, ← makeRoom_bytesUsed]
  simp only
  split <;> simp

theorem set_bytesUsed (t : MemoryTier) (now : Instant) (key value : String)
    (ttl : Option Duration) :
    (t.set now key value ttl).2.bytesUsed =
      (t.setReleases now key value ttl).foldl (· - ·) t.bytesUsed +
        (set key value ttl).admitted now t := by
  simp only [admitted]
  generalize hset : t.set now key value ttl = result
  unfold MemoryTier.set at hset
  unfold setReleases
  cases hexpiry : now.after? (ttl.getD t.limits.defaultTtl) with
  | none =>
    rw [hexpiry] at hset
    subst hset
    simp
  | some expiresAt =>
    rw [hexpiry] at hset
    simp only at hset
    simp only [Option.isNone_some, Bool.false_eq_true, if_false, List.foldl_append,
      ← remove_bytesUsed]
    split at hset
    · rename_i hdisabled
      rw [if_pos hdisabled, ← hset]
      rfl
    · rename_i hdisabled
      rw [if_neg hdisabled, ← hset]
      exact accept_bytesUsed _ now _

/-- The sizes that are taken off and added are all that changes the account, but for clearing. -/
theorem perform_bytesUsed (now : Instant) (op : MemoryOperation) (t : MemoryTier) :
    (op.perform now t).bytesUsed =
      if op = clear then 0
      else (op.releases now t).foldl (· - ·) t.bytesUsed + op.admitted now t := by
  cases op with
  | get key => exact get_bytesUsed t now key
  | set key value ttl => exact set_bytesUsed t now key value ttl
  | delete key => exact remove_bytesUsed t key
  | removeStart start => exact removeAll_bytesUsed t _
  | purgeExpired => exact removeAll_bytesUsed t _
  | clear | resetStats => rfl

theorem perform_limits (now : Instant) (op : MemoryOperation) (t : MemoryTier) :
    (op.perform now t).limits = t.limits := by
  cases op with
  | get key =>
    simp only [perform, MemoryTier.get]
    split
    · rfl
    · split
      · rfl
      · exact remove_limits t key
  | set key value ttl =>
    simp only [perform, MemoryTier.set]
    split
    · rfl
    · split
      · exact remove_limits t key
      · rw [accept_eq]
        simp only
        split <;> simp
  | delete key => exact remove_limits t key
  | removeStart start => exact removeAll_limits t _
  | purgeExpired => exact removeAll_limits t _
  | clear | resetStats => rfl

end MemoryOperation

/-! ## Runs -/

/-- The cache after operations at some times, empty at first. -/
def MemoryTier.after (limits : MemoryLimits) (ops : List (Instant × MemoryOperation)) :
    MemoryTier :=
  ops.foldl (fun t op => op.2.perform op.1 t) (.make limits)

theorem foldl_wellAccounted {t : MemoryTier} (h : t.WellAccounted)
    (ops : List (Instant × MemoryOperation)) :
    (ops.foldl (fun t op => op.2.perform op.1 t) t).WellAccounted ∧
      (ops.foldl (fun t op => op.2.perform op.1 t) t).limits = t.limits := by
  induction ops generalizing t with
  | nil => exact ⟨h, rfl⟩
  | cons op rest ih =>
    obtain ⟨hrest, hlimits⟩ := ih (op.2.perform_wellAccounted h op.1).2
    exact ⟨hrest, hlimits.trans (op.2.perform_limits op.1 t)⟩

theorem MemoryTier.after_wellAccounted (limits : MemoryLimits)
    (ops : List (Instant × MemoryOperation)) :
    (after limits ops).WellAccounted ∧ (after limits ops).limits = limits :=
  foldl_wellAccounted (t := .make limits) ⟨.nil, Nat.zero_le _⟩ ops

/-- After any operations the account is exact and within the budget. No operation takes off more
than is there, and what is taken off and added is all that changes the account, but for clearing. -/
theorem after_account_exact (config : MemoryConfig) (ops : List (Instant × MemoryOperation)) :
    let t := MemoryTier.after (.ofConfig config) ops
    t.bytesUsed = (t.entries.map CacheEntry.cost).sum ∧ (∀ e ∈ t.entries, e.size = e.cost) ∧
      (t.entries.map (·.key)).Nodup ∧ t.bytesUsed ≤ config.maxBytes ∧
      ∀ now (op : MemoryOperation), TakenOff t.bytesUsed (op.releases now t) ∧
        (op.perform now t).bytesUsed =
          if op = .clear then 0
          else (op.releases now t).foldl (· - ·) t.bytesUsed + op.admitted now t := by
  obtain ⟨h, hlimits⟩ := MemoryTier.after_wellAccounted (.ofConfig config) ops
  refine ⟨h.account.bytes, h.account.sizes, h.account.keys, ?_, fun now op => ?_⟩
  · have hbudget := h.budget
    rw [hlimits] at hbudget
    exact hbudget
  · exact ⟨(op.perform_wellAccounted h now).1, op.perform_bytesUsed now _⟩

end TableQuery
