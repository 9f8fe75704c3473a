import Mathlib.Data.List.Nodup
import TableQuery.Proofs.Cache.Accounting

/-!
# What the cache in memory answers

A lookup answers with the value that was stored last under its key, until the value expires, is
dropped or is driven out. A value that is turned away takes the one before it along.

* `MemoryOperation.stored?`: the entry that an operation adds.
* `MemoryOperation.ends`: the operations that leave nothing of what was under a key.
* `MemoryOperation.evicted`: the keys that an operation drives out.
* `mem_perform`: the live entries after an operation, from those before it.
* `mem_run`: the live entries after operations.
* `get_after_eq_some_iff`: what a lookup answers after any operations on an empty cache.
-/

namespace TableQuery

namespace MemoryTier

variable {t : MemoryTier}

/-- No two entries share a key. -/
theorem eq_of_key_eq (h : (t.entries.map (·.key)).Nodup) {d e : CacheEntry} (hd : d ∈ t.entries)
    (he : e ∈ t.entries) (hkey : d.key = e.key) : d = e :=
  List.inj_on_of_nodup_map h hd he hkey

theorem find?_eq_some (h : (t.entries.map (·.key)).Nodup) {e : CacheEntry} (he : e ∈ t.entries) :
    t.find? e.key = some e := by
  cases hfind : t.find? e.key with
  | none =>
    have hne := List.find?_eq_none.mp hfind e he
    simp at hne
  | some d =>
    obtain ⟨hd, hkey⟩ := mem_of_find? hfind
    rw [eq_of_key_eq h hd he hkey]

/-- A lookup answers with the value of the live entry under the key. -/
theorem get_eq_some_iff (h : (t.entries.map (·.key)).Nodup) {now : Instant} {key value : String} :
    (t.get now key).1 = some value ↔
      ∃ e ∈ t.entries, e.key = key ∧ e.value = value ∧ now.nanos < e.expiresAt.nanos := by
  refine ⟨mem_of_get, ?_⟩
  rintro ⟨e, he, rfl, rfl, hlive⟩
  simp [get, find?_eq_some h he, hlive]

/-! ## What is dropped and driven out -/

/-- The keys that are driven out to make room for so many bytes. -/
def evictedKeys (t : MemoryTier) (size : Nat) : List String :=
  (t.entries.take (evictFrom t.limits size t.entries t.bytesUsed 0).2.2).map (·.key)

theorem mem_evict (h : (t.entries.map (·.key)).Nodup) (size : Nat) {e : CacheEntry} :
    e ∈ (t.evict size).entries ↔ e ∈ t.entries ∧ e.key ∉ t.evictedKeys size := by
  rw [evict_entries, evictedKeys]
  generalize (evictFrom t.limits size t.entries t.bytesUsed 0).2.2 = count
  have hsplit := List.take_append_drop count t.entries
  constructor
  · intro he
    refine ⟨List.mem_of_mem_drop he, fun hgone => ?_⟩
    rw [← hsplit, List.map_append, List.nodup_append] at h
    exact h.2.2 e.key hgone e.key (List.mem_map_of_mem he) rfl
  · rintro ⟨he, hkey⟩
    rw [← hsplit] at he
    rcases List.mem_append.mp he with he | he
    · exact absurd (List.mem_map_of_mem he) hkey
    · exact he

/-- The keys that are driven out by a new value. -/
def setEvictions (t : MemoryTier) (now : Instant) (key value : String) (ttl : Option Duration) :
    List String :=
  if (now.after? (ttl.getD t.limits.defaultTtl)).isNone then []
  else
    let left := t.remove key
    if !left.enabled && decide (left.limits.reenableBelow ≤ left.bytesUsed) then []
    else
      let size := key.utf8ByteSize + value.utf8ByteSize
      (purgeIfFull { left with enabled := true } now size).evictedKeys size

/-! ## What stays -/

section

variable (h : (t.entries.map (·.key)).Nodup) {now later : Instant}
  (hle : now.nanos ≤ later.nanos) {e : CacheEntry} (hlive : later.nanos < e.expiresAt.nanos)

include h hle hlive

/-- What is live later has not expired now. -/
theorem mem_purgeExpired :
    e ∈ (t.purgeExpired now).2.entries ↔ e ∈ t.entries := by
  refine ⟨purgeExpired_subset t now e, fun he => ?_⟩
  have hkey : e.key ∉ t.expiredKeys now := by
    intro hmem
    obtain ⟨d, hd, hkey⟩ := List.mem_map.mp hmem
    obtain ⟨hd, hexpired⟩ := List.mem_filter.mp hd
    cases eq_of_key_eq h hd he hkey
    have hexpired := of_decide_eq_true hexpired
    omega
  rw [purgeExpired, removeAll_entries, List.mem_filter]
  exact ⟨he, by simpa using hkey⟩

/-- A lookup drops nothing that is live later. -/
theorem mem_get (key : String) : e ∈ (t.get now key).2.entries ↔ e ∈ t.entries := by
  refine ⟨(get_spec t now key).2 e, fun he => ?_⟩
  unfold get
  split
  · exact he
  · rename_i d hfind
    obtain ⟨hd, hkey⟩ := mem_of_find? hfind
    split
    · have hperm := (perm_of_find? hfind h).trans (List.perm_append_singleton d _).symm
      exact hperm.mem_iff.mp he
    · rename_i hexpired
      refine mem_remove.mpr ⟨he, ?_⟩
      rintro rfl
      cases eq_of_key_eq h hd he hkey
      omega

/-- Of what is live later, all stays that is not driven out. -/
theorem mem_makeRoom (size : Nat) :
    e ∈ (t.makeRoom now size).entries ↔
      e ∈ t.entries ∧ e.key ∉ (t.purgeIfFull now size).evictedKeys size := by
  have hpurged : ((t.purgeIfFull now size).entries.map (·.key)).Nodup ∧
      (e ∈ (t.purgeIfFull now size).entries ↔ e ∈ t.entries) := by
    unfold purgeIfFull
    split
    · refine ⟨?_, mem_purgeExpired h hle hlive⟩
      rw [purgeExpired, removeAll_entries]
      exact h.sublist (List.filter_sublist.map _)
    · exact ⟨h, Iff.rfl⟩
  rw [makeRoom, mem_evict hpurged.1, hpurged.2]

theorem mem_accept (new : CacheEntry) :
    e ∈ (t.accept now new).2.entries ↔
      (t.accept now new).1 = .stored ∧ e = new ∨
        e ∈ t.entries ∧ e.key ∉ (t.purgeIfFull now new.size).evictedKeys new.size := by
  rw [← mem_makeRoom h hle hlive, accept_eq]
  simp only
  split
  · simp
  · simp [or_comm]

end

end MemoryTier

/-! ## Operations -/

namespace MemoryOperation

open MemoryTier

/-- The entry that an operation adds. -/
def stored? (now : Instant) : MemoryOperation → MemoryTier → Option CacheEntry
  | set key value ttl, t =>
    if (t.set now key value ttl).1 = .stored then
      (now.after? (ttl.getD t.limits.defaultTtl)).map fun expiresAt =>
        ⟨key, value, key.utf8ByteSize + value.utf8ByteSize, expiresAt⟩
    else none
  | _, _ => none

/-- The operation leaves nothing of what was under the key. A new value does so whether it is taken
or not, unless its end is beyond the clock: then nothing happens at all. -/
def ends (limits : MemoryLimits) (now : Instant) (key : String) : MemoryOperation → Bool
  | set k _ ttl => k == key && (now.after? (ttl.getD limits.defaultTtl)).isSome
  | delete k => k == key
  | removeStart start => beginsWith start key
  | clear => true
  | get _ | purgeExpired | resetStats => false

/-- The keys that an operation drives out. -/
def evicted (now : Instant) : MemoryOperation → MemoryTier → List String
  | set key value ttl, t => t.setEvictions now key value ttl
  | _, _ => []

variable {t : MemoryTier}

section

variable (h : (t.entries.map (·.key)).Nodup) {now later : Instant}
  (hle : now.nanos ≤ later.nanos) {e : CacheEntry} (hlive : later.nanos < e.expiresAt.nanos)

include h hle hlive

theorem mem_set (key value : String) (ttl : Option Duration) :
    e ∈ (t.set now key value ttl).2.entries ↔
      (set key value ttl).stored? now t = some e ∨
        e ∈ t.entries ∧ (set key value ttl).ends t.limits now e.key = false ∧
          e.key ∉ t.setEvictions now key value ttl := by
  simp only [stored?, ends]
  generalize hset : t.set now key value ttl = result
  unfold MemoryTier.set at hset
  unfold setEvictions
  cases hexpiry : now.after? (ttl.getD t.limits.defaultTtl) with
  | none =>
    rw [hexpiry] at hset
    subst hset
    simp
  | some expiresAt =>
    rw [hexpiry] at hset
    simp only at hset
    simp only [Option.isNone_some, Option.isSome_some, Option.map_some, Bool.false_eq_true, if_false,
      Bool.and_true, beq_eq_false_iff_ne]
    split at hset
    · rename_i hdisabled
      rw [if_pos hdisabled, ← hset, mem_remove]
      simp [eq_comm]
    · rename_i hdisabled
      have hleft : ((t.remove key).entries.map (·.key)).Nodup := by
        rw [remove_entries]
        exact h.sublist (List.filter_sublist.map _)
      have haccept := mem_accept (t := { t.remove key with enabled := true }) hleft hle hlive
        ⟨key, value, key.utf8ByteSize + value.utf8ByteSize, expiresAt⟩
      rw [if_neg hdisabled, ← hset, haccept, mem_remove, Option.ite_none_right_eq_some,
        Option.some.injEq, and_assoc, ne_comm, eq_comm (a := e)]

/-- What is live after an operation is the entry that it adds, or was there before and has neither
been ended nor driven out. -/
theorem mem_perform (op : MemoryOperation) :
    e ∈ (op.perform now t).entries ↔
      op.stored? now t = some e ∨
        e ∈ t.entries ∧ op.ends t.limits now e.key = false ∧ e.key ∉ op.evicted now t := by
  cases op with
  | get key => simpa [perform, stored?, ends, evicted] using mem_get h hle hlive key
  | set key value ttl => exact mem_set h hle hlive key value ttl
  | delete key =>
    have hothers : e ∈ (t.remove key).entries ↔ e ∈ t.entries ∧ key ≠ e.key := by
      rw [mem_remove, ne_comm]
    simpa [perform, MemoryTier.delete, stored?, ends, evicted] using hothers
  | removeStart start => simp [stored?, ends, evicted, perform, removeStart_entries]
  | purgeExpired => simpa [perform, stored?, ends, evicted] using mem_purgeExpired h hle hlive
  | clear => simp [stored?, ends, perform, MemoryTier.clear]
  | resetStats => simp [stored?, ends, evicted, perform, MemoryTier.resetStats]

end

/-- A new value whose end is on the clock ends what was under its key. -/
theorem exists_after?_of_set {now : Instant} {key value : String} {ttl : Option Duration}
    (h : (t.set now key value ttl).1 ≠ .beyondClock) :
    ∃ expiresAt, now.after? (ttl.getD t.limits.defaultTtl) = some expiresAt ∧
      expiresAt.nanos = now.nanos + (ttl.getD t.limits.defaultTtl).nanos := by
  unfold MemoryTier.set at h
  cases hexpiry : now.after? (ttl.getD t.limits.defaultTtl) with
  | none => simp [hexpiry] at h
  | some expiresAt =>
    simp only [Instant.after?, Option.ite_none_right_eq_some, Option.some.injEq] at hexpiry
    exact ⟨expiresAt, rfl, by rw [← hexpiry.2]⟩

/-- A new value that is taken is added, with the end that its span leads to. -/
theorem exists_stored? {now : Instant} {key value : String} {ttl : Option Duration}
    (h : (t.set now key value ttl).1 = .stored) :
    ∃ e, (set key value ttl).stored? now t = some e ∧ e.key = key ∧ e.value = value ∧
      e.expiresAt.nanos = now.nanos + (ttl.getD t.limits.defaultTtl).nanos := by
  obtain ⟨expiresAt, hexpiry, hnanos⟩ := exists_after?_of_set (t := t) (by rw [h]; decide)
  exact ⟨⟨key, value, _, expiresAt⟩, by rw [stored?, if_pos h, hexpiry]; rfl, rfl, rfl, hnanos⟩

/-- Nothing else is added. -/
theorem stored?_eq_some {now : Instant} {op : MemoryOperation} {e : CacheEntry}
    (h : op.stored? now t = some e) :
    ∃ ttl, op = set e.key e.value ttl ∧ (t.set now e.key e.value ttl).1 = .stored ∧
      e.expiresAt.nanos = now.nanos + (ttl.getD t.limits.defaultTtl).nanos := by
  cases op with
  | set key value ttl =>
    have hstored : (t.set now key value ttl).1 = .stored := by
      by_contra hnot
      rw [stored?, if_neg hnot] at h
      cases h
    obtain ⟨d, hadded, rfl, rfl, hexpiry⟩ := exists_stored? hstored
    cases hadded.symm.trans h
    exact ⟨ttl, rfl, hstored, hexpiry⟩
  | _ => cases h

end MemoryOperation

/-! ## Runs -/

namespace MemoryTier

open MemoryOperation

variable {t : MemoryTier}

/-- The cache after operations at some times. -/
def run (t : MemoryTier) (ops : List (Instant × MemoryOperation)) : MemoryTier :=
  ops.foldl (fun t op => op.2.perform op.1 t) t

/-- The keys that operations drive out, one after another. -/
def evictedBy (t : MemoryTier) : List (Instant × MemoryOperation) → List String
  | [] => []
  | op :: rest => op.2.evicted op.1 t ++ (op.2.perform op.1 t).evictedBy rest

/-- Nothing among the operations ends what is under the key or drives it out. -/
structure Spares (t : MemoryTier) (key : String) (ops : List (Instant × MemoryOperation)) :
    Prop where
  ends : ∀ op ∈ ops, op.2.ends t.limits op.1 key = false
  evicted : key ∉ t.evictedBy ops

theorem spares_cons {key : String} {op : Instant × MemoryOperation}
    {rest : List (Instant × MemoryOperation)} :
    t.Spares key (op :: rest) ↔
      (op.2.ends t.limits op.1 key = false ∧ key ∉ op.2.evicted op.1 t) ∧
        (op.2.perform op.1 t).Spares key rest := by
  constructor
  · rintro ⟨hends, hevicted⟩
    rw [evictedBy, List.mem_append, not_or] at hevicted
    rw [List.forall_mem_cons] at hends
    refine ⟨⟨hends.1, hevicted.1⟩, ?_, hevicted.2⟩
    rw [perform_limits]
    exact hends.2
  · rintro ⟨⟨hends, hevicted⟩, hrest, hlater⟩
    rw [perform_limits] at hrest
    refine ⟨List.forall_mem_cons.mpr ⟨hends, hrest⟩, ?_⟩
    rw [evictedBy, List.mem_append, not_or]
    exact ⟨hevicted, hlater⟩

/-- What is live after operations has been there all the while, or has been added by one of them
and been there ever since. -/
theorem mem_run (h : t.WellAccounted) {later : Instant} {e : CacheEntry}
    (hlive : later.nanos < e.expiresAt.nanos) {ops : List (Instant × MemoryOperation)}
    (htimes : ∀ op ∈ ops, op.1.nanos ≤ later.nanos) :
    e ∈ (t.run ops).entries ↔
      (e ∈ t.entries ∧ t.Spares e.key ops) ∨
        ∃ before op after, ops = before ++ op :: after ∧
          op.2.stored? op.1 (t.run before) = some e ∧
          (t.run (before ++ [op])).Spares e.key after := by
  induction ops generalizing t with
  | nil =>
    have hnone : t.Spares e.key [] := ⟨by simp, by simp [evictedBy]⟩
    simp [run, hnone]
  | cons op rest ih =>
    rw [List.forall_mem_cons] at htimes
    have hrest := ih (op.2.perform_wellAccounted h op.1).2 htimes.2
    have hstep := mem_perform h.account.keys htimes.1 hlive op.2
    rw [show t.run (op :: rest) = (op.2.perform op.1 t).run rest from rfl, hrest, hstep,
      spares_cons]
    constructor
    · rintro (⟨hstored | ⟨he, hkept⟩, hspares⟩ | ⟨before, d, after, rfl, hstored, hspares⟩)
      · exact .inr ⟨[], op, rest, rfl, hstored, hspares⟩
      · exact .inl ⟨he, hkept, hspares⟩
      · exact .inr ⟨op :: before, d, after, rfl, hstored, hspares⟩
    · rintro (⟨he, hkept, hspares⟩ | ⟨before, d, after, hsplit, hstored, hspares⟩)
      · exact .inl ⟨.inr ⟨he, hkept⟩, hspares⟩
      · cases before with
        | nil =>
          cases hsplit
          exact .inl ⟨.inl hstored, hspares⟩
        | cons first before =>
          cases hsplit
          exact .inr ⟨before, d, after, rfl, hstored, hspares⟩

/-- What is live after operations on an empty cache was added by one of them. -/
theorem mem_after {limits : MemoryLimits} {ops : List (Instant × MemoryOperation)}
    {later : Instant} {e : CacheEntry} (hlive : later.nanos < e.expiresAt.nanos)
    (htimes : ∀ op ∈ ops, op.1.nanos ≤ later.nanos) :
    e ∈ (after limits ops).entries ↔
      ∃ before op rest, ops = before ++ op :: rest ∧
        op.2.stored? op.1 (after limits before) = some e ∧
        (after limits (before ++ [op])).Spares e.key rest := by
  have hrun := mem_run (t := .make limits) ⟨.nil, Nat.zero_le _⟩ hlive htimes
  have hempty : e ∉ (make limits).entries := List.not_mem_nil
  exact hrun.trans (by simp only [hempty, false_and, false_or]; rfl)

/-- A lookup answers with a value if a new value was taken that is still live, and nothing has
ended or driven it out since. -/
theorem get_after_eq_some_iff {limits : MemoryLimits} {ops : List (Instant × MemoryOperation)}
    {now : Instant} (htimes : ∀ op ∈ ops, op.1.nanos ≤ now.nanos) {key value : String} :
    ((after limits ops).get now key).1 = some value ↔
      ∃ before time ttl rest, ops = before ++ (time, .set key value ttl) :: rest ∧
        ((after limits before).set time key value ttl).1 = .stored ∧
        now.nanos < time.nanos + (ttl.getD limits.defaultTtl).nanos ∧
        (after limits (before ++ [(time, .set key value ttl)])).Spares key rest := by
  rw [get_eq_some_iff (after_wellAccounted limits ops).1.account.keys]
  constructor
  · rintro ⟨e, he, rfl, rfl, hlive⟩
    obtain ⟨before, ⟨time, op⟩, rest, rfl, hadded, hspares⟩ := (mem_after hlive htimes).mp he
    obtain ⟨ttl, rfl, hstored, hexpiry⟩ := stored?_eq_some hadded
    rw [hexpiry, (after_wellAccounted limits before).2] at hlive
    exact ⟨before, time, ttl, rest, rfl, hstored, hlive, hspares⟩
  · rintro ⟨before, time, ttl, rest, rfl, hstored, hlive, hspares⟩
    obtain ⟨e, hadded, rfl, rfl, hexpiry⟩ := exists_stored? hstored
    rw [← (after_wellAccounted limits before).2, ← hexpiry] at hlive
    exact ⟨e, (mem_after hlive htimes).mpr ⟨before, _, rest, rfl, hadded, hspares⟩, rfl, rfl, hlive⟩

/-- A value that was turned away has taken the one before it along: whatever is answered later has
been stored since. -/
theorem get_after_turned_away {limits : MemoryLimits} {before rest : List (Instant × MemoryOperation)}
    {now time : Instant} {key value : String} {ttl : Option Duration} {answer : String}
    (htimes : ∀ op ∈ before ++ (time, .set key value ttl) :: rest, op.1.nanos ≤ now.nanos)
    (haway : ((after limits before).set time key value ttl).1 ∈ [.disabled, .rejected])
    (hget : ((after limits (before ++ (time, .set key value ttl) :: rest)).get now key).1 =
      some answer) :
    ∃ between time' ttl' rest', rest = between ++ (time', .set key answer ttl') :: rest' ∧
      ((after limits (before ++ (time, .set key value ttl) :: between)).set time' key answer
        ttl').1 = .stored := by
  have hnot : ((after limits before).set time key value ttl).1 ≠ .stored ∧
      ((after limits before).set time key value ttl).1 ≠ .beyondClock := by
    constructor <;> intro h <;> rw [h] at haway <;> simp at haway
  obtain ⟨before', time', ttl', rest', hsplit, hstored, -, hspares⟩ :=
    (get_after_eq_some_iff htimes).mp hget
  -- The value that is answered was stored at the same place, later or earlier.
  rcases List.append_eq_append_iff.mp hsplit with ⟨between, rfl, hrest⟩ | ⟨between, rfl, hrest⟩
  · cases between with
    | nil =>
      cases hrest
      rw [List.append_nil] at hstored
      exact absurd hstored hnot.1
    | cons op between =>
      cases hrest
      exact ⟨between, time', ttl', rest', rfl, hstored⟩
  · cases between with
    | nil =>
      cases hrest
      rw [List.append_nil] at hnot
      exact absurd hstored hnot.1
    | cons op between =>
      cases hrest
      have hspared := hspares.ends (time, .set key value ttl) (by simp)
      obtain ⟨expiresAt, hexpiry, -⟩ := exists_after?_of_set hnot.2
      rw [(after_wellAccounted limits _).2] at hspared hexpiry
      simp [MemoryOperation.ends, hexpiry] at hspared

end MemoryTier

/-! ## Answers -/

/-- The cache in memory answers with the last value that was stored, and with no other. At a time
after some operations a lookup gives a value exactly if it was stored in one of them, has not
expired, and was not ended or driven out since; and what it gives after a value was turned away has
been stored later. -/
theorem get_after_exact (config : MemoryConfig) {ops : List (Instant × MemoryOperation)}
    (now : Instant) (htimes : ∀ op ∈ ops, op.1.nanos ≤ now.nanos) (key : String) :
    let after := MemoryTier.after (.ofConfig config)
    (∀ value, ((after ops).get now key).1 = some value ↔
      ∃ before time ttl rest, ops = before ++ (time, .set key value ttl) :: rest ∧
        ((after before).set time key value ttl).1 = .stored ∧
        now.nanos < time.nanos + (ttl.getD config.defaultTtl).nanos ∧
        (after (before ++ [(time, .set key value ttl)])).Spares key rest) ∧
    ∀ before time value ttl rest, ops = before ++ (time, .set key value ttl) :: rest →
      ((after before).set time key value ttl).1 ∈ [.disabled, .rejected] →
      ∀ answer, ((after ops).get now key).1 = some answer →
        ∃ between time' ttl' rest', rest = between ++ (time', .set key answer ttl') :: rest' ∧
          ((after (before ++ (time, .set key value ttl) :: between)).set time' key answer
            ttl').1 = .stored := by
  refine ⟨fun value => MemoryTier.get_after_eq_some_iff htimes, ?_⟩
  rintro before time value ttl rest rfl haway answer hget
  exact MemoryTier.get_after_turned_away htimes haway hget

/-- A small cache. -/
def smallCache : MemoryConfig := { MemoryConfig.default with maxBytes := 16 }

/-- A value that is stored, one that is too large, and a value that is stored after it. -/
def smallRun : List (Instant × MemoryOperation) := [
  (⟨0⟩, .set "page" "first" none),
  (⟨1⟩, .set "page" "far too many rows" none),
  (⟨2⟩, .set "page" "second" (some (.ofSeconds 1))),
  (⟨3⟩, .removeStart "other:")]

theorem get_after_exact_small :
    (∀ op ∈ smallRun, op.1.nanos ≤ 4) ∧
      ((MemoryTier.after (.ofConfig smallCache) smallRun).get ⟨4⟩ "page").1 = some "second" ∧
      ((MemoryTier.after (.ofConfig smallCache) (smallRun.take 2)).get ⟨4⟩ "page").1 = none := by
  have htimes : ∀ op ∈ smallRun, op.1.nanos ≤ 4 := by decide
  have hearlier : ∀ op ∈ smallRun.take 2, op.1.nanos ≤ 4 := by decide
  refine ⟨htimes, ?_, ?_⟩
  · refine ((get_after_exact smallCache ⟨4⟩ htimes "page").1 "second").mpr
      ⟨smallRun.take 2, ⟨2⟩, some (.ofSeconds 1), smallRun.drop 3, rfl, by decide +kernel,
        by decide, by decide +kernel, by decide +kernel⟩
  · have haway := (get_after_exact smallCache ⟨4⟩ hearlier "page").2 (smallRun.take 1) ⟨1⟩
      "far too many rows" none [] rfl (by decide +kernel)
    rw [Option.eq_none_iff_forall_ne_some]
    intro answer hget
    obtain ⟨between, _, _, _, hrest, -⟩ := haway answer hget
    simp at hrest

end TableQuery
