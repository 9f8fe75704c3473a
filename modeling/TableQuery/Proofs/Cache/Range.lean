import TableQuery.Proofs.Cache.Coherence

/-!
# The range of words and of the clock

A new value is charged with bytes and is given an end. Bytes are counted in words of 64 bits, and
no sum leaves their range as long as what is held and what is new have fewer bytes than that. The
end may be more than the clock can tell; then there is no result at all, and what was there stays.

* `MemoryTier.setWords?`: a new value, with words for all numbers of bytes.
* `MemoryTier.setWords?_eq`: the words are never too small.
* `TieredCache.afterCalls_memory`: both caches use memory as it is used by itself.
* `TieredCache.set_of_tellsEnd`, `set_of_not_tellsEnd`: a new value has a result if the clock can
  tell its end, and none otherwise.
-/

namespace TableQuery

/-! ## Words -/

/-- The sum of two numbers, if it is a word. -/
def addWord? (m n : Nat) : Option Nat := if m + n ≤ maxWord64 then some (m + n) else none

theorem addWord?_eq {m n : Nat} (h : m + n ≤ maxWord64) : addWord? m n = some (m + n) := if_pos h

namespace MemoryTier

/-- Drives entries out as `evictFrom` does, with words for the bytes. -/
def evictWords? (limits : MemoryLimits) (size : Nat) :
    List CacheEntry → (bytes freed : Nat) → Option (List CacheEntry × Nat × Nat)
  | [], bytes, _ => (addWord? bytes size).map fun _ => ([], bytes, 0)
  | e :: rest, bytes, freed => do
    let wanted ← addWord? bytes size
    if limits.maxBytes < wanted ∧ freed < limits.evictionAllowance then
      let freed ← addWord? freed e.size
      let (left, used, count) ← evictWords? limits size rest (bytes - e.size) freed
      some (left, used, count + 1)
    else some (e :: rest, bytes, 0)

/-- Makes room as `makeRoom` does, with words for the bytes. -/
def makeRoomWords? (t : MemoryTier) (now : Instant) (size : Nat) : Option MemoryTier := do
  let wanted ← addWord? t.bytesUsed size
  let t := if t.limits.maxBytes < wanted then (t.purgeExpired now).2 else t
  let (entries, bytesUsed, count) ← evictWords? t.limits size t.entries t.bytesUsed 0
  some { t with entries, bytesUsed, evictions := t.evictions + count }

/-- Takes an entry or turns it away as `accept` does, with words for the bytes. -/
def acceptWords? (t : MemoryTier) (now : Instant) (e : CacheEntry) :
    Option (Admission × MemoryTier) := do
  let t ← t.makeRoomWords? now e.size
  let used ← addWord? t.bytesUsed e.size
  if t.limits.maxBytes < used then
    let enabled := t.enabled && decide (t.bytesUsed < t.limits.reenableBelow)
    some (.rejected, { t with enabled })
  else some (.stored, { t with entries := t.entries ++ [e], bytesUsed := used })

/-- Puts a value under a key as `set` does, with words for the bytes. -/
def setWords? (t : MemoryTier) (now : Instant) (key value : String) (ttl : Option Duration) :
    Option (Admission × MemoryTier) := do
  let size ← addWord? key.utf8ByteSize value.utf8ByteSize
  match now.after? (ttl.getD t.limits.defaultTtl) with
  | none => some (.beyondClock, t)
  | some expiresAt =>
    let t := t.remove key
    if !t.enabled && decide (t.limits.reenableBelow ≤ t.bytesUsed) then some (.disabled, t)
    else acceptWords? { t with enabled := true } now ⟨key, value, size, expiresAt⟩

/-- What is freed and what is left are no more together than what there was. -/
theorem evictWords?_eq {limits : MemoryLimits} {size : Nat} {entries : List CacheEntry}
    {bytes freed : Nat} (h : Accounted entries bytes) (hsize : bytes + size ≤ maxWord64)
    (hfreed : bytes + freed ≤ maxWord64) :
    evictWords? limits size entries bytes freed =
      some (evictFrom limits size entries bytes freed) := by
  induction entries generalizing bytes freed with
  | nil =>
    rw [evictWords?, addWord?_eq hsize]
    rfl
  | cons e rest ih =>
    obtain ⟨hle, hrest⟩ := h.tail
    have hwanted := addWord?_eq hsize
    have htaken : addWord? freed e.size = some (freed + e.size) := addWord?_eq (by omega)
    unfold evictWords? evictFrom
    simp only [hwanted, htaken, Option.bind_eq_bind, Option.bind_some]
    split
    · rw [ih hrest (by omega) (by omega)]
      rfl
    · rfl

theorem makeRoom_le (t : MemoryTier) (now : Instant) (size : Nat) :
    (t.makeRoom now size).bytesUsed ≤ t.bytesUsed := by
  rw [makeRoom_bytesUsed]
  exact foldl_sub_le t.bytesUsed _

theorem makeRoomWords?_eq {t : MemoryTier} (h : Accounted t.entries t.bytesUsed) (now : Instant)
    {size : Nat} (hsize : t.bytesUsed + size ≤ maxWord64) :
    t.makeRoomWords? now size = some (t.makeRoom now size) := by
  have hpurged : (if t.limits.maxBytes < t.bytesUsed + size then (t.purgeExpired now).2 else t) =
      t.purgeIfFull now size := by
    simp [purgeIfFull, isFull]
  have haccount := (purgeIfFull_account h now size).2
  have hfewer : (t.purgeIfFull now size).bytesUsed ≤ t.bytesUsed := by
    rw [purgeIfFull_bytesUsed]
    exact foldl_sub_le t.bytesUsed _
  rw [makeRoomWords?, addWord?_eq hsize]
  simp only [Option.bind_eq_bind, Option.bind_some, hpurged]
  rw [evictWords?_eq haccount (by omega) (by omega)]
  rfl

theorem acceptWords?_eq {t : MemoryTier} (h : Accounted t.entries t.bytesUsed) (now : Instant)
    {e : CacheEntry} (hsize : t.bytesUsed + e.size ≤ maxWord64) :
    t.acceptWords? now e = some (t.accept now e) := by
  have hfewer := t.makeRoom_le now e.size
  rw [acceptWords?, makeRoomWords?_eq h now hsize, accept_eq]
  simp only [Option.bind_eq_bind, Option.bind_some]
  rw [addWord?_eq (by omega)]
  simp only [Option.bind_some, isFull, decide_eq_true_eq]
  split <;> rfl

theorem setWords?_eq {t : MemoryTier} (h : t.WellAccounted) (now : Instant) {key value : String}
    (ttl : Option Duration)
    (hsize : t.bytesUsed + (key.utf8ByteSize + value.utf8ByteSize) ≤ maxWord64) :
    t.setWords? now key value ttl = some (t.set now key value ttl) := by
  rw [setWords?, addWord?_eq (by omega), set]
  simp only [Option.bind_eq_bind, Option.bind_some]
  cases now.after? (ttl.getD t.limits.defaultTtl) with
  | none => rfl
  | some expiresAt =>
    simp only
    split
    · rfl
    · have hleft := (remove_wellAccounted h key).2
      have hfewer : (t.remove key).bytesUsed ≤ t.bytesUsed := by
        rw [remove_bytesUsed]
        exact foldl_sub_le t.bytesUsed _
      exact acceptWords?_eq (t := { t.remove key with enabled := true }) hleft.account now
        ((Nat.add_le_add_right hfewer _).trans hsize)

/-! ## The clock -/

/-- A new value has no result exactly if the clock cannot tell its end. -/
theorem set_eq_beyondClock_iff (t : MemoryTier) (now : Instant) (key value : String)
    (ttl : Option Duration) :
    (t.set now key value ttl).1 = .beyondClock ↔
      Instant.limit ≤ now.nanos + (ttl.getD t.limits.defaultTtl).nanos := by
  unfold set Instant.after?
  split
  · rename_i hexpiry
    simpa using hexpiry
  · rename_i hexpiry
    have hends := (Option.ite_some_none_eq_some.mp hexpiry).1
    refine iff_of_false ?_ (Nat.not_le.mpr hends)
    simp only
    split
    · exact nofun
    · exact accept_ne_beyondClock _ _ _

end MemoryTier

namespace TieredCache

variable {ρ : Type}

/-- A value that is put in memory now, for a span of time or the usual one, ends before the clock
does. Where the caches are not in use nothing is put. -/
def TellsEnd (c : TieredCache ρ) (now : Instant) (ttl : Option Duration) : Prop :=
  c.enabled = true → now.nanos + (ttl.getD c.memory.limits.defaultTtl).nanos < Instant.limit

theorem putInMemory_of_lt {c : TieredCache ρ} {now : Instant} {ttl : Option Duration}
    (h : now.nanos + (ttl.getD c.memory.limits.defaultTtl).nanos < Instant.limit)
    (key value : String) : ∃ stored, (c.putInMemory now key value ttl).1 = .ok stored := by
  refine putInMemory_ok fun hends => ?_
  rw [MemoryTier.set_eq_beyondClock_iff] at hends
  omega

theorem putInMemory_of_le {c : TieredCache ρ} {now : Instant} {ttl : Option Duration}
    (h : Instant.limit ≤ now.nanos + (ttl.getD c.memory.limits.defaultTtl).nanos)
    (key value : String) : (c.putInMemory now key value ttl).1 = .error .clock := by
  have hends := (c.memory.set_eq_beyondClock_iff now key value ttl).mpr h
  unfold putInMemory
  cases hset : c.memory.set now key value ttl with
  | mk admission memory =>
    rw [hset] at hends
    cases hends
    rfl

theorem settle_of_lt {c : TieredCache ρ} {now : Instant}
    (h : now.nanos + c.memory.limits.defaultTtl.nanos < Instant.limit) (key : String)
    (answer : Except CacheFault (Option String)) :
    ∃ found, (c.settle now key answer).1 = .ok found := by
  unfold settle
  split
  · rename_i value
    obtain ⟨stored, hstored⟩ := @putInMemory_of_lt ρ
      { c with counters := { c.counters with sharedHits := c.counters.sharedHits + 1 } } now none h
      key value
    exact ⟨some value, by simp only [hstored, Except.map]⟩
  · exact ⟨none, rfl⟩
  · exact ⟨none, rfl⟩

variable [DistributedTier ρ]

/-- The result of putting a value in both caches is that of putting it in memory. -/
theorem exists_set_eq {c : TieredCache ρ} (henabled : c.enabled = true) (now : Instant)
    (key value : String) (ttl : Option Duration) :
    ∃ (d : TieredCache ρ) (stored : Bool), d.memory.limits = c.memory.limits ∧
      ((set now key value ttl).exec c).1 =
        (d.putInMemory now key value ttl).1.map (stored || ·) := by
  unfold set
  rw [Action.exec_make, if_pos henabled]
  simp only
  split
  · obtain ⟨counters, hshared⟩ := c.putShared_state now key value (ttl.getD c.sharedTtl)
    exact ⟨_, _, by rw [hshared], rfl⟩
  · exact ⟨c, false, rfl, rfl⟩

/-- A value is taken or turned away if the clock can tell its end. -/
theorem set_of_tellsEnd {c : TieredCache ρ} {now : Instant} {ttl : Option Duration}
    (h : c.TellsEnd now ttl) (key value : String) :
    ∃ stored, ((set now key value ttl).exec c).1 = .ok stored := by
  cases henabled : c.enabled with
  | false =>
    rw [set_disabled henabled]
    exact ⟨false, rfl⟩
  | true =>
    obtain ⟨d, stored, hlimits, hset⟩ := exists_set_eq henabled now key value ttl
    obtain ⟨admitted, hadmitted⟩ := putInMemory_of_lt (hlimits ▸ h henabled) key value
    rw [hset, hadmitted]
    exact ⟨_, rfl⟩

theorem set_of_not_tellsEnd {c : TieredCache ρ} {now : Instant} {ttl : Option Duration}
    (h : ¬c.TellsEnd now ttl) (key value : String) :
    ((set now key value ttl).exec c).1 = .error .clock := by
  obtain ⟨henabled, hends⟩ := Classical.not_imp.mp h
  obtain ⟨d, stored, hlimits, hset⟩ := exists_set_eq henabled now key value ttl
  rw [hset, putInMemory_of_le (hlimits ▸ Nat.not_lt.mp hends)]
  rfl

/-- A lookup has a result if the clock can tell the end of what it copies into memory. -/
theorem get_of_tellsEnd {c : TieredCache ρ} {now : Instant} (h : c.TellsEnd now none)
    (key : String) : ∃ found, ((get now key).exec c).1 = .ok found := by
  rcases c.get_cases now key with
    ⟨-, hget⟩ | ⟨-, value, -, hget⟩ | ⟨-, -, hget⟩ | ⟨henabled, -, -, hget⟩
  · exact ⟨none, by rw [hget]⟩
  · exact ⟨some value, by rw [hget]⟩
  · exact ⟨none, by rw [hget]⟩
  · have hlimits : (c.memory.get now key).2.limits = c.memory.limits :=
      (MemoryOperation.get key).perform_limits now c.memory
    rw [hget]
    exact settle_of_lt (hlimits.symm ▸ h henabled) key _

/-- So has a lookup of a value with a form. -/
theorem getDecoded_of_tellsEnd {α : Type} (decode : String → Option α) {c : TieredCache ρ}
    {now : Instant} (h : c.TellsEnd now none) (key : String) :
    ∃ found, ((getDecoded decode now key).exec c).1 = .ok found := by
  obtain ⟨found, hfound⟩ := get_of_tellsEnd h key
  unfold getDecoded
  rw [Action.exec_bind]
  cases hget : (get now key).exec c with
  | mk result d =>
    rw [hget] at hfound
    cases hfound
    cases found with
    | none => exact ⟨none, rfl⟩
    | some text =>
      simp only
      cases decode text with
      | some a => exact ⟨some a, rfl⟩
      | none => exact ⟨none, rfl⟩

end TieredCache

/-! ## Memory of both caches -/

namespace MemoryTier

/-- Operations lead from one state of memory to another. -/
def LeadsTo (t u : MemoryTier) : Prop := ∃ ops, u = t.run ops

namespace LeadsTo

theorem refl (t : MemoryTier) : t.LeadsTo t := ⟨[], rfl⟩

theorem operation (t : MemoryTier) (now : Instant) (op : MemoryOperation) :
    t.LeadsTo (op.perform now t) :=
  ⟨[(now, op)], rfl⟩

theorem trans {t u v : MemoryTier} (h : t.LeadsTo u) (h' : u.LeadsTo v) : t.LeadsTo v := by
  obtain ⟨ops, rfl⟩ := h
  obtain ⟨later, rfl⟩ := h'
  exact ⟨ops ++ later, List.foldl_append.symm⟩

end LeadsTo

end MemoryTier

namespace TieredCache

variable {ρ : Type}

open MemoryTier

theorem settle_leadsTo (now : Instant) (key : String) (answer : Except CacheFault (Option String))
    (c : TieredCache ρ) : c.memory.LeadsTo (c.settle now key answer).2.memory := by
  rcases c.settle_cases now key answer with ⟨value, counters, -, -, hstate⟩ | ⟨-, counters, hstate⟩
  · rw [hstate]
    exact .operation _ now (.set key value none)
  · rw [hstate]
    exact .refl _

variable [DistributedTier ρ]

theorem get_leadsTo (now : Instant) (key : String) (c : TieredCache ρ) :
    c.memory.LeadsTo ((get now key).exec c).2.memory := by
  have hlook : c.memory.LeadsTo (c.lookInMemory now key).2.memory :=
    .operation _ now (.get key)
  rcases c.get_cases now key with ⟨-, hget⟩ | ⟨-, value, -, hget⟩ | ⟨-, -, hget⟩ | ⟨-, -, -, hget⟩
  · rw [hget]
    exact .refl _
  · rw [hget]
    exact hlook
  · rw [hget]
    exact hlook
  · rw [hget]
    exact hlook.trans (settle_leadsTo now key _ _)

theorem delete_leadsTo (now : Instant) (key : String) (c : TieredCache ρ) :
    c.memory.LeadsTo (c.delete now key).2.memory := by
  have hdropped : c.memory.LeadsTo (c.memory.delete key).2 := .operation _ now (.delete key)
  unfold delete
  split
  · simp only
    split
    · obtain ⟨counters, hstate⟩ :=
        { c with memory := (c.memory.delete key).2 }.dropShared_state now [key]
      rw [hstate]
      exact hdropped
    · exact hdropped
  · exact .refl _

theorem getDecoded_leadsTo {α : Type} (decode : String → Option α) (now : Instant) (key : String)
    (c : TieredCache ρ) : c.memory.LeadsTo ((getDecoded decode now key).exec c).2.memory := by
  have hget := c.get_leadsTo now key
  rcases c.getDecoded_state decode now key with hstate | hstate
  · rw [hstate]
    exact hget
  · rw [hstate]
    exact hget.trans (delete_leadsTo now key _)

theorem set_leadsTo (now : Instant) (key value : String) (ttl : Option Duration)
    (c : TieredCache ρ) : c.memory.LeadsTo ((set now key value ttl).exec c).2.memory := by
  cases henabled : c.enabled with
  | false =>
    rw [set_disabled henabled]
    exact .refl _
  | true =>
    obtain ⟨counters, hstate⟩ := set_state now key value ttl henabled
    rw [hstate]
    exact .operation _ now (.set key value ttl)

theorem invalidate_leadsTo (now : Instant) (id : String) (c : TieredCache ρ) :
    c.memory.LeadsTo (c.invalidate now id).2.memory := by
  unfold invalidate
  split
  · simp only [dropSharedStart_memory]
    exact .operation _ now (.removeStart (keyNamespace c.keyPrefix id))
  · exact .refl _

theorem clearAll_leadsTo (now : Instant) (c : TieredCache ρ) :
    c.memory.LeadsTo (c.clearAll now).memory := by
  unfold clearAll
  simp only
  split
  · rw [dropSharedStart_memory]
    exact .operation _ now .clear
  · exact .operation _ now .clear

end TieredCache

open TieredCache in
/-- What an operation of both caches does to memory, operations of memory do. -/
theorem CacheOperation.perform_leadsTo {ρ : Type} [DistributedTier ρ] (now : Instant)
    (op : CacheOperation) (c : TieredCache ρ) : c.memory.LeadsTo (op.perform now c).memory := by
  cases op with
  | get key => exact c.get_leadsTo now key
  | getDecoded accepts key => exact c.getDecoded_leadsTo _ now key
  | set key value ttl => exact c.set_leadsTo now key value ttl
  | delete key => exact c.delete_leadsTo now key
  | invalidate id => exact c.invalidate_leadsTo now id
  | clearAll => exact c.clearAll_leadsTo now
  | purgeExpired => exact .operation _ now .purgeExpired
  | resetStats => exact .operation _ now .resetStats
  | close => exact .operation _ now .clear

namespace TieredCache

variable {ρ : Type} [DistributedTier ρ]

theorem afterCalls_sameSetup (c : TieredCache ρ) (calls : List (Instant × CacheCall)) :
    c.SameSetup (c.afterCalls calls) := by
  induction calls using List.reverseRecOn with
  | nil => exact ⟨rfl, rfl, rfl⟩
  | append_singleton calls last ih =>
    obtain ⟨now, call⟩ := last
    rw [afterCalls_append, call.perform_eq]
    cases call.operation? with
    | none => exact ih
    | some op => exact ih.trans (op.perform_sameSetup now _)

theorem afterCalls_leadsTo (c : TieredCache ρ) (calls : List (Instant × CacheCall)) :
    c.memory.LeadsTo (c.afterCalls calls).memory := by
  induction calls using List.reverseRecOn with
  | nil => exact .refl _
  | append_singleton calls last ih =>
    obtain ⟨now, call⟩ := last
    rw [afterCalls_append, call.perform_eq]
    cases call.operation? with
    | none => exact ih
    | some op => exact ih.trans (op.perform_leadsTo now _)

/-- After any calls of both caches, memory is as after operations of its own. -/
theorem afterCalls_memory (config : CacheConfig) (begun : Instant) (shared : ρ) (attached : Bool)
    (calls : List (Instant × CacheCall)) :
    ∃ ops, ((make config begun shared attached).afterCalls calls).memory =
      MemoryTier.after (.ofConfig config.memory) ops :=
  (make config begun shared attached).afterCalls_leadsTo calls

end TieredCache

end TableQuery
