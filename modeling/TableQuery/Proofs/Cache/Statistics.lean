import Mathlib.Data.List.DropRight
import TableQuery.Proofs.Cache.Range
import TableQuery.Query.ResultPage

/-!
# What the caches count

Every lookup is counted once as such, once in memory, once in the shared cache if that was asked,
and as a miss if neither had the key. Nothing else is counted among them, so the counts add up over
any calls since they were last reset.

* `LookupCounts`: the counts of lookups, and those that lookups with some ends come to.
* `CacheLookup`: a lookup with the caches as it found them.
* `CacheCall.perform_lookupCounts`: what a call adds to the counts.
* `TieredCache.afterCalls_lookupCounts`: the counts after any calls.
* `lookups_add_up`: how the counts that are told hang together.
* `typed_lookups_counted`: the answers to lookups of values with a form. A value that cannot be read
  is answered like a miss and counted like a hit (`unreadable_counted_as_hit`).
-/

namespace TableQuery

/-! ## Counts -/

/-- Where a lookup ends. -/
inductive LookupEnd where
  /-- Memory has the key. -/
  | memory
  /-- The shared cache alone has it. -/
  | shared
  /-- The shared cache was asked, in vain. -/
  | asked
  /-- There is no shared cache. -/
  | unasked
deriving DecidableEq, Repr

/-- What is counted of lookups. -/
structure LookupCounts where
  lookups : Nat
  misses : Nat
  memoryHits : Nat
  memoryMisses : Nat
  sharedHits : Nat
  sharedMisses : Nat
deriving DecidableEq, Repr

namespace LookupCounts

/-- The counts of lookups with some ends. -/
def ofEnds (ends : List LookupEnd) : LookupCounts where
  lookups := ends.length
  misses := ends.count .asked + ends.count .unasked
  memoryHits := ends.count .memory
  memoryMisses := ends.count .shared + ends.count .asked + ends.count .unasked
  sharedHits := ends.count .shared
  sharedMisses := ends.count .asked

/-- One lookup more. -/
def add (n : LookupCounts) : LookupEnd → LookupCounts
  | .memory => { n with lookups := n.lookups + 1, memoryHits := n.memoryHits + 1 }
  | .shared => { n with
      lookups := n.lookups + 1
      memoryMisses := n.memoryMisses + 1
      sharedHits := n.sharedHits + 1 }
  | .asked => { n with
      lookups := n.lookups + 1
      misses := n.misses + 1
      memoryMisses := n.memoryMisses + 1
      sharedMisses := n.sharedMisses + 1 }
  | .unasked => { n with
      lookups := n.lookups + 1
      misses := n.misses + 1
      memoryMisses := n.memoryMisses + 1 }

theorem ofEnds_append (ends : List LookupEnd) (e : LookupEnd) :
    ofEnds (ends ++ [e]) = (ofEnds ends).add e := by
  cases e <;> simp [ofEnds, add] <;> omega

/-- A lookup ends in one of four ways. -/
theorem length_eq (ends : List LookupEnd) :
    ends.length =
      ends.count .memory + ends.count .shared + ends.count .asked + ends.count .unasked := by
  induction ends with
  | nil => rfl
  | cons e rest ih => cases e <;> simp [ih] <;> omega

theorem countP_ne_memory (ends : List LookupEnd) :
    ends.countP (· != .memory) = (ofEnds ends).memoryMisses := by
  induction ends with
  | nil => rfl
  | cons e rest ih => cases e <;> simp_all [ofEnds] <;> omega

theorem countP_shared_or_asked (ends : List LookupEnd) :
    ends.countP (fun e => e == .shared || e == .asked) =
      (ofEnds ends).sharedHits + (ofEnds ends).sharedMisses := by
  induction ends with
  | nil => rfl
  | cons e rest ih => cases e <;> simp_all [ofEnds] <;> omega

end LookupCounts

namespace MemoryTier

/-! ## Memory -/

/-- The lookups that memory has counted are the same. -/
structure SameLookups (t u : MemoryTier) : Prop where
  hits : u.hits = t.hits
  misses : u.misses = t.misses

namespace SameLookups

theorem refl (t : MemoryTier) : t.SameLookups t := ⟨rfl, rfl⟩

theorem trans {t u v : MemoryTier} (h : t.SameLookups u) (h' : u.SameLookups v) : t.SameLookups v :=
  ⟨h'.hits.trans h.hits, h'.misses.trans h.misses⟩

end SameLookups

theorem remove_sameLookups (t : MemoryTier) (key : String) : t.SameLookups (t.remove key) := by
  unfold remove
  split <;> exact ⟨rfl, rfl⟩

theorem removeAll_sameLookups (t : MemoryTier) (keys : List String) :
    t.SameLookups (t.removeAll keys) := by
  induction keys generalizing t with
  | nil => exact .refl t
  | cons key rest ih => exact (t.remove_sameLookups key).trans (ih (t.remove key))

theorem makeRoom_sameLookups (t : MemoryTier) (now : Instant) (size : Nat) :
    t.SameLookups (t.makeRoom now size) := by
  obtain ⟨keys, hkeys⟩ := exists_purgeIfFull_eq t now size
  have hpurged := t.removeAll_sameLookups keys
  rw [← hkeys] at hpurged
  exact hpurged.trans ⟨rfl, rfl⟩

theorem accept_sameLookups (t : MemoryTier) (now : Instant) (e : CacheEntry) :
    t.SameLookups (t.accept now e).2 := by
  have hroom := t.makeRoom_sameLookups now e.size
  rw [accept_eq]
  simp only
  split <;> exact hroom.trans ⟨rfl, rfl⟩

theorem set_sameLookups (t : MemoryTier) (now : Instant) (key value : String)
    (ttl : Option Duration) : t.SameLookups (t.set now key value ttl).2 := by
  have hleft := t.remove_sameLookups key
  unfold set
  split
  · exact .refl t
  · rename_i expiresAt _
    simp only
    split
    · exact hleft
    · have htaken := { t.remove key with enabled := true }.accept_sameLookups now
        ⟨key, value, key.utf8ByteSize + value.utf8ByteSize, expiresAt⟩
      exact ⟨htaken.hits.trans hleft.hits, htaken.misses.trans hleft.misses⟩

/-- A lookup is a hit or a miss. -/
theorem get_counts (t : MemoryTier) (now : Instant) (key : String) :
    (t.get now key).2.hits = t.hits + (t.get now key).1.isSome.toNat ∧
      (t.get now key).2.misses = t.misses + (t.get now key).1.isNone.toNat := by
  unfold get
  split
  · exact ⟨rfl, rfl⟩
  · split
    · exact ⟨rfl, rfl⟩
    · have hremoved := t.remove_sameLookups key
      exact ⟨hremoved.hits, congrArg (· + 1) hremoved.misses⟩

end MemoryTier

namespace TieredCache

variable {ρ : Type}

/-- What the caches have counted of lookups. -/
def lookupCounts (c : TieredCache ρ) : LookupCounts where
  lookups := c.counters.lookups
  misses := c.counters.misses
  memoryHits := c.memory.hits
  memoryMisses := c.memory.misses
  sharedHits := c.counters.sharedHits
  sharedMisses := c.counters.sharedMisses

/-- Where memory counts the same lookups, so do both caches. -/
theorem lookupCounts_memory {c : TieredCache ρ} {memory : MemoryTier}
    (h : c.memory.SameLookups memory) : { c with memory }.lookupCounts = c.lookupCounts := by
  simp [lookupCounts, h.hits, h.misses]

theorem putInMemory_lookupCounts (now : Instant) (key value : String) (ttl : Option Duration)
    (c : TieredCache ρ) : (c.putInMemory now key value ttl).2.lookupCounts = c.lookupCounts := by
  rw [putInMemory_state]
  exact lookupCounts_memory (c.memory.set_sameLookups now key value ttl)

/-- Memory counts a lookup as a hit or as a miss. -/
theorem lookInMemory_lookupCounts (now : Instant) (key : String) (c : TieredCache ρ) :
    let found := (c.lookInMemory now key).1
    (c.lookInMemory now key).2.lookupCounts =
      { c.lookupCounts with
        lookups := c.lookupCounts.lookups + 1
        memoryHits := c.lookupCounts.memoryHits + found.isSome.toNat
        memoryMisses := c.lookupCounts.memoryMisses + found.isNone.toNat } := by
  obtain ⟨hhits, hmisses⟩ := c.memory.get_counts now key
  simp only [lookInMemory, lookupCounts, hhits, hmisses]

theorem countMiss_lookupCounts (c : TieredCache ρ) :
    c.countMiss.lookupCounts = { c.lookupCounts with misses := c.lookupCounts.misses + 1 } := rfl

/-- A value that the shared cache had is counted, whether it can be copied into memory or not. -/
theorem settle_some_lookupCounts (now : Instant) (key value : String) (c : TieredCache ρ) :
    (c.settle now key (.ok (some value))).2.lookupCounts =
      { c.lookupCounts with sharedHits := c.lookupCounts.sharedHits + 1 } :=
  putInMemory_lookupCounts _ _ _ _ _

theorem settle_some_ne (now : Instant) (key value : String) (c : TieredCache ρ) :
    (c.settle now key (.ok (some value))).1 ≠ .ok none := by
  intro h
  obtain ⟨_, -, hvalue⟩ := map_eq_ok.mp h
  cases hvalue

/-- A shared cache that has nothing, and one that fails, are counted alike. -/
theorem settle_lookupCounts {now : Instant} {key : String}
    {answer : Except CacheFault (Option String)} (h : ∀ value, answer ≠ .ok (some value))
    (c : TieredCache ρ) :
    (c.settle now key answer).2.lookupCounts =
        { c.lookupCounts with
          misses := c.lookupCounts.misses + 1
          sharedMisses := c.lookupCounts.sharedMisses + 1 } ∧
      (c.settle now key answer).1 = .ok none := by
  cases answer with
  | error fault => exact ⟨rfl, rfl⟩
  | ok found =>
    cases found with
    | none => exact ⟨rfl, rfl⟩
    | some value => exact absurd rfl (h value)

variable [DistributedTier ρ]

/-! ## Calls that are no lookups -/

theorem putShared_lookupCounts (now : Instant) (key value : String) (ttl : Duration)
    (c : TieredCache ρ) : (c.putShared now key value ttl).2.lookupCounts = c.lookupCounts := by
  unfold putShared
  cases DistributedTier.setEx now key value ttl c.shared with
  | mk outcome shared => cases outcome <;> rfl

theorem set_lookupCounts (now : Instant) (key value : String) (ttl : Option Duration)
    (c : TieredCache ρ) : ((set now key value ttl).exec c).2.lookupCounts = c.lookupCounts := by
  unfold set
  rw [Action.exec_make]
  split
  · simp only
    split
    · exact (putInMemory_lookupCounts _ _ _ _ _).trans (putShared_lookupCounts _ _ _ _ _)
    · exact putInMemory_lookupCounts _ _ _ _ _
  · rfl

theorem dropShared_lookupCounts (now : Instant) (keys : List String) (c : TieredCache ρ) :
    (c.dropShared now keys).2.lookupCounts = c.lookupCounts := by
  unfold dropShared
  cases DistributedTier.del now keys c.shared with
  | mk outcome shared => cases outcome <;> rfl

theorem dropSharedStart_lookupCounts (now : Instant) (start : String) (c : TieredCache ρ) :
    (c.dropSharedStart now start).2.lookupCounts = c.lookupCounts := by
  unfold dropSharedStart
  split
  · simp only
    split
    · exact dropShared_lookupCounts now _ _
    · rfl
  · rfl

theorem delete_lookupCounts (now : Instant) (key : String) (c : TieredCache ρ) :
    (c.delete now key).2.lookupCounts = c.lookupCounts := by
  have hmemory : { c with memory := (c.memory.delete key).2 }.lookupCounts = c.lookupCounts :=
    lookupCounts_memory (c.memory.remove_sameLookups key)
  unfold delete
  split
  · simp only
    split
    · exact (dropShared_lookupCounts now _ _).trans hmemory
    · exact hmemory
  · rfl

theorem invalidate_lookupCounts (now : Instant) (id : String) (c : TieredCache ρ) :
    (c.invalidate now id).2.lookupCounts = c.lookupCounts := by
  unfold invalidate
  split
  · exact (dropSharedStart_lookupCounts now _ _).trans
      (lookupCounts_memory (c.memory.removeAll_sameLookups _))
  · rfl

theorem clearAll_lookupCounts (now : Instant) (c : TieredCache ρ) :
    (c.clearAll now).lookupCounts = c.lookupCounts := by
  unfold clearAll
  simp only
  split
  · exact dropSharedStart_lookupCounts now _ _
  · rfl

end TieredCache

/-! ## Lookups -/

/-- A lookup, with the caches as it finds them. -/
structure CacheLookup (ρ : Type) where
  caches : TieredCache ρ
  now : Instant
  key : String
  /-- The texts that can be read; a plain lookup reads all. -/
  accepts : String → Bool

namespace CacheLookup

variable {ρ : Type} [DistributedTier ρ] (l : CacheLookup ρ)

/-- Memory does not have the key. -/
def missesMemory : Bool := (l.caches.lookInMemory l.now l.key).1.isNone

/-- Memory does not have the key, and there is a shared cache. -/
def asksShared : Bool := l.missesMemory && l.caches.attached

/-- What is found, whether it can be read or not. -/
def found : Except QueryError (Option String) :=
  ((TieredCache.get l.now l.key).exec l.caches).1

/-- What the caller gets. -/
def answer : Except QueryError (Option String) :=
  ((TieredCache.getDecoded (Option.guard l.accepts) l.now l.key).exec l.caches).1

/-- The caller gets a value. -/
def isAnswered : Bool := l.answer matches .ok (some _)

/-- The caller gets nothing. -/
def isUnanswered : Bool := l.answer matches .ok none

/-- A value is found that cannot be copied into memory, since the clock cannot tell its end. -/
def isStopped : Bool := l.answer matches .error _

/-- A value is found that cannot be read. -/
def isUnreadable : Bool :=
  match l.found with
  | .ok (some text) => !l.accepts text
  | _ => false

/-- Where the lookup ends. -/
def ending : LookupEnd :=
  match (l.caches.lookInMemory l.now l.key).1 with
  | some _ => .memory
  | none =>
    if l.caches.attached then
      match (DistributedTier.get l.now l.key l.caches.shared).1 with
      | .ok (some _) => .shared
      | _ => .asked
    else .unasked

theorem missesMemory_eq : l.missesMemory = (l.ending != .memory) := by
  unfold missesMemory ending
  split
  · rename_i hfound
    rw [hfound]
    rfl
  · rename_i hfound
    rw [hfound]
    split
    · split <;> rfl
    · rfl

theorem asksShared_eq : l.asksShared = (l.ending == .shared || l.ending == .asked) := by
  unfold asksShared missesMemory ending
  split
  · rename_i hfound
    rw [hfound]
    rfl
  · rename_i hfound
    rw [hfound]
    split
    · rename_i hattached
      rw [hattached]
      split <;> rfl
    · rename_i hattached
      rw [Bool.eq_false_iff.mpr hattached]
      rfl

/-- A lookup is counted by where it ends, and finds nothing exactly if that is in neither cache. -/
theorem get_counted (henabled : l.caches.enabled = true) :
    ((TieredCache.get l.now l.key).exec l.caches).2.lookupCounts =
        l.caches.lookupCounts.add l.ending ∧
      (l.found = .ok none ↔ l.ending = .asked ∨ l.ending = .unasked) := by
  have hlooked := l.caches.lookInMemory_lookupCounts l.now l.key
  unfold found ending TieredCache.get
  rw [Action.exec_make, if_pos henabled]
  simp only
  cases hmemory : (l.caches.lookInMemory l.now l.key).1 with
  | some value =>
    rw [hmemory] at hlooked
    exact ⟨hlooked, by simp⟩
  | none =>
    rw [hmemory] at hlooked
    simp only
    have hsame : (l.caches.lookInMemory l.now l.key).2.attached = l.caches.attached := rfl
    rw [hsame]
    cases l.caches.attached with
    | false =>
      refine ⟨?_, by simp⟩
      rw [if_neg Bool.false_ne_true, TieredCache.countMiss_lookupCounts, hlooked]
      rfl
    | true =>
      have hasked : ((l.caches.lookInMemory l.now l.key).2.askShared l.now l.key).2.lookupCounts =
          (l.caches.lookInMemory l.now l.key).2.lookupCounts := rfl
      have hanswer : ((l.caches.lookInMemory l.now l.key).2.askShared l.now l.key).1 =
          (DistributedTier.get l.now l.key l.caches.shared).1 := rfl
      rw [if_pos rfl, if_pos rfl, hanswer]
      split
      · rename_i value hshared
        rw [hshared, TieredCache.settle_some_lookupCounts, hasked, hlooked]
        exact ⟨rfl, by simp [TieredCache.settle_some_ne]⟩
      · rename_i hshared
        obtain ⟨hcounts, hnone⟩ := TieredCache.settle_lookupCounts hshared
          ((l.caches.lookInMemory l.now l.key).2.askShared l.now l.key).2
        rw [hcounts, hnone, hasked, hlooked]
        exact ⟨rfl, by simp⟩

/-- The caller gets what is found if it can be read. -/
theorem answer_eq : l.answer = l.found.map (·.filter l.accepts) := by
  unfold answer found TieredCache.getDecoded
  rw [Action.exec_bind]
  cases (TieredCache.get l.now l.key).exec l.caches with
  | mk result caches =>
    cases result with
    | error fault => rfl
    | ok found =>
      cases found with
      | none => rfl
      | some text =>
        cases haccepts : l.accepts text <;>
          simp [Option.guard, Option.filter, haccepts, Except.map]

/-- The caller gets nothing if neither cache has the key, or if the value cannot be read. -/
theorem isUnanswered_toNat (henabled : l.caches.enabled = true) :
    l.isUnanswered.toNat =
      (l.ending == .asked || l.ending == .unasked).toNat + l.isUnreadable.toNat := by
  have hvain : (l.found matches .ok none) = (l.ending == .asked || l.ending == .unasked) := by
    rw [Bool.eq_iff_iff, Bool.or_eq_true, beq_iff_eq, beq_iff_eq, ← (l.get_counted henabled).2]
    rcases l.found with fault | _ | text <;> simp
  rw [← hvain]
  unfold isUnanswered isUnreadable
  rw [answer_eq]
  rcases l.found with fault | _ | text
  · rfl
  · rfl
  · cases haccepts : l.accepts text <;> simp [Except.map, Option.filter, haccepts]

/-- A lookup is stopped only where the clock cannot tell the end of a copy. -/
theorem isStopped_eq_false (h : l.caches.TellsEnd l.now none) : l.isStopped = false := by
  obtain ⟨found, hfound⟩ := TieredCache.getDecoded_of_tellsEnd (Option.guard l.accepts) h l.key
  unfold isStopped answer
  rw [hfound]

theorem answers_toNat :
    l.isAnswered.toNat + l.isUnanswered.toNat + l.isStopped.toNat = 1 := by
  unfold isAnswered isUnanswered isStopped
  rcases l.answer with fault | _ | text <;> rfl

theorem countP_isUnanswered {lookups : List (CacheLookup ρ)}
    (henabled : ∀ l ∈ lookups, l.caches.enabled = true) :
    lookups.countP (·.isUnanswered) =
      (LookupCounts.ofEnds (lookups.map ending)).misses + lookups.countP (·.isUnreadable) := by
  induction lookups with
  | nil => rfl
  | cons l rest ih =>
    rw [List.forall_mem_cons] at henabled
    have hl := l.isUnanswered_toNat henabled.1
    have hrest := ih henabled.2
    simp only [LookupCounts.ofEnds] at hrest
    simp only [LookupCounts.ofEnds, List.map_cons, List.countP_cons, List.count_cons]
    cases hending : l.ending <;> simp [Bool.toNat, cond_eq_ite, hending] at hl ⊢ <;> omega

theorem length_eq_countP (lookups : List (CacheLookup ρ)) :
    lookups.length = lookups.countP (·.isAnswered) + lookups.countP (·.isUnanswered) +
      lookups.countP (·.isStopped) := by
  induction lookups with
  | nil => rfl
  | cons l rest ih =>
    have hl := l.answers_toNat
    simp only [Bool.toNat, cond_eq_ite] at hl
    simp only [List.length_cons, List.countP_cons]
    omega

end CacheLookup

namespace CacheOperation

/-- The lookup that an operation is, if it is one. -/
def lookup? {ρ : Type} (now : Instant) (c : TieredCache ρ) : CacheOperation → Option (CacheLookup ρ)
  | get key => some ⟨c, now, key, fun _ => true⟩
  | getDecoded accepts key => some ⟨c, now, key, accepts⟩
  | _ => none

/-- The operation counts from zero again. -/
def isReset : CacheOperation → Bool
  | resetStats => true
  | _ => false

variable {ρ : Type} [DistributedTier ρ]

/-- A lookup is counted by where it ends, and nothing else is counted. -/
theorem perform_lookupCounts (now : Instant) {op : CacheOperation} (hop : op.isReset = false)
    {c : TieredCache ρ} (henabled : c.enabled = true) :
    (op.perform now c).lookupCounts =
      (op.lookup? now c).elim c.lookupCounts (c.lookupCounts.add ·.ending) := by
  cases op with
  | get key => exact (CacheLookup.get_counted ⟨c, now, key, fun _ => true⟩ henabled).1
  | getDecoded accepts key =>
    have hget := (CacheLookup.get_counted ⟨c, now, key, accepts⟩ henabled).1
    rcases c.getDecoded_state (Option.guard accepts) now key with hstate | hstate
    · exact (congrArg _ hstate).trans hget
    · exact ((congrArg _ hstate).trans (TieredCache.delete_lookupCounts now key _)).trans hget
  | set key value ttl => exact TieredCache.set_lookupCounts now key value ttl c
  | delete key => exact TieredCache.delete_lookupCounts now key c
  | invalidate id => exact TieredCache.invalidate_lookupCounts now id c
  | clearAll => exact TieredCache.clearAll_lookupCounts now c
  | purgeExpired => exact TieredCache.lookupCounts_memory (c.memory.removeAll_sameLookups _)
  | resetStats => cases hop
  | close => rfl

end CacheOperation

namespace CacheCall

variable {ρ : Type} [DistributedTier ρ]

/-- The lookup that a call is, if it is one. -/
def lookup? (now : Instant) (c : TieredCache ρ) (call : CacheCall) : Option (CacheLookup ρ) :=
  call.operation?.bind (·.lookup? now c)

/-- The call is a lookup. -/
def isLookup (call : CacheCall) : Bool := (call.operation?.bind CacheOperation.lookedUp?).isSome

/-- The call counts from zero again. -/
def isReset (call : CacheCall) : Bool := call.operation?.any CacheOperation.isReset

omit [DistributedTier ρ] in
theorem length_lookup? (now : Instant) (c : TieredCache ρ) (call : CacheCall) :
    (call.lookup? now c).toList.length = call.isLookup.toNat := by
  unfold lookup? isLookup
  cases call.operation? with
  | none => rfl
  | some op => cases op <;> rfl

omit [DistributedTier ρ] in
theorem lookup?_caches {now : Instant} {c : TieredCache ρ} {call : CacheCall} {l : CacheLookup ρ}
    (hl : l ∈ (call.lookup? now c).toList) : l.caches = c := by
  unfold lookup? at hl
  cases hop : call.operation? with
  | none => simp [hop] at hl
  | some op => cases op <;> simp [hop, CacheOperation.lookup?] at hl <;> rw [hl]

/-- A lookup is counted by where it ends, and nothing else is counted. -/
theorem perform_lookupCounts (now : Instant) {call : CacheCall} (hcall : call.isReset = false)
    {c : TieredCache ρ} (henabled : c.enabled = true) :
    (call.perform now c).lookupCounts =
      (call.lookup? now c).elim c.lookupCounts (c.lookupCounts.add ·.ending) := by
  unfold isReset at hcall
  unfold lookup?
  rw [perform_eq]
  cases hop : call.operation? with
  | none => rfl
  | some op =>
    rw [hop] at hcall
    exact op.perform_lookupCounts now hcall henabled

theorem perform_reset (now : Instant) {call : CacheCall} (hcall : call.isReset = true)
    (c : TieredCache ρ) : (call.perform now c).lookupCounts = .ofEnds [] := by
  unfold isReset at hcall
  rw [perform_eq]
  cases hop : call.operation? with
  | none => simp [hop] at hcall
  | some op =>
    rw [hop] at hcall
    cases op with
    | resetStats => rfl
    | _ => cases hcall

end CacheCall

/-! ## Runs -/

/-- The calls since the counts were last reset. -/
def sinceReset (calls : List (Instant × CacheCall)) : List (Instant × CacheCall) :=
  calls.rtakeWhile fun call => !call.2.isReset

/-- The calls up to the last reset. -/
def untilReset (calls : List (Instant × CacheCall)) : List (Instant × CacheCall) :=
  calls.rdropWhile fun call => !call.2.isReset

namespace TieredCache

variable {ρ : Type} [DistributedTier ρ]

/-- The lookups among calls. -/
def lookupsAmong : TieredCache ρ → List (Instant × CacheCall) → List (CacheLookup ρ)
  | _, [] => []
  | c, (now, call) :: rest =>
    (call.lookup? now c).toList ++ (call.perform now c).lookupsAmong rest

/-- The lookups since the counts were last reset. -/
def lookupsSinceReset (c : TieredCache ρ) (calls : List (Instant × CacheCall)) :
    List (CacheLookup ρ) :=
  (c.afterCalls (untilReset calls)).lookupsAmong (sinceReset calls)

theorem lookupsAmong_append (c : TieredCache ρ) (calls : List (Instant × CacheCall))
    (now : Instant) (call : CacheCall) :
    c.lookupsAmong (calls ++ [(now, call)]) =
      c.lookupsAmong calls ++ (call.lookup? now (c.afterCalls calls)).toList := by
  induction calls generalizing c with
  | nil => exact List.append_nil _
  | cons first rest ih =>
    rw [List.cons_append, lookupsAmong, ih, lookupsAmong, List.append_assoc]
    rfl

theorem length_lookupsAmong (c : TieredCache ρ) (calls : List (Instant × CacheCall)) :
    (c.lookupsAmong calls).length = calls.countP (·.2.isLookup) := by
  induction calls generalizing c with
  | nil => rfl
  | cons first rest ih =>
    rw [lookupsAmong, List.length_append, ih, CacheCall.length_lookup?, List.countP_cons]
    cases first.2.isLookup <;> simp [Nat.add_comm]

theorem afterCalls_sinceReset (c : TieredCache ρ) (calls : List (Instant × CacheCall)) :
    (c.afterCalls (untilReset calls)).afterCalls (sinceReset calls) = c.afterCalls calls := by
  unfold afterCalls untilReset sinceReset
  rw [← List.foldl_append, List.rdropWhile_append_rtakeWhile]

/-- What is counted are the lookups since the last reset. -/
theorem afterCalls_lookupCounts {c : TieredCache ρ} (henabled : c.enabled = true)
    (hnew : c.lookupCounts = .ofEnds []) (calls : List (Instant × CacheCall)) :
    (c.afterCalls calls).lookupCounts =
      .ofEnds ((c.lookupsSinceReset calls).map CacheLookup.ending) := by
  induction calls using List.reverseRecOn with
  | nil => exact hnew
  | append_singleton calls last ih =>
    obtain ⟨now, call⟩ := last
    rw [afterCalls_append]
    cases hcall : call.isReset with
    | true =>
      -- Nothing comes after the reset.
      rw [call.perform_reset now hcall]
      unfold lookupsSinceReset sinceReset
      rw [List.rtakeWhile_concat_neg _ _ _ (by simp [hcall])]
      rfl
    | false =>
      have hlater : c.lookupsSinceReset (calls ++ [(now, call)]) =
          c.lookupsSinceReset calls ++ (call.lookup? now (c.afterCalls calls)).toList := by
        unfold lookupsSinceReset sinceReset untilReset
        rw [List.rtakeWhile_concat_pos _ _ _ (by simp [hcall]),
          List.rdropWhile_concat_pos _ _ _ (by simp [hcall]), lookupsAmong_append]
        have hcalls := c.afterCalls_sinceReset calls
        unfold sinceReset untilReset at hcalls
        rw [hcalls]
      have hinUse := (c.afterCalls_sameSetup calls).enabled.trans henabled
      rw [call.perform_lookupCounts now hcall hinUse, ih, hlater]
      cases call.lookup? now (c.afterCalls calls) with
      | none => simp
      | some l =>
        rw [List.map_append]
        exact (LookupCounts.ofEnds_append _ _).symm

/-- Every lookup finds the caches as they were set up. -/
theorem sameSetup_of_mem_lookupsAmong {c : TieredCache ρ} {calls : List (Instant × CacheCall)}
    {l : CacheLookup ρ} (hl : l ∈ c.lookupsAmong calls) : c.SameSetup l.caches := by
  induction calls generalizing c with
  | nil => cases hl
  | cons first rest ih =>
    obtain ⟨now, call⟩ := first
    rcases List.mem_append.mp hl with hl | hl
    · rw [call.lookup?_caches hl]
      exact ⟨rfl, rfl, rfl⟩
    · exact (c.afterCalls_sameSetup [(now, call)]).trans (ih hl)

theorem sameSetup_of_mem_lookupsSinceReset {c : TieredCache ρ} {calls : List (Instant × CacheCall)}
    {l : CacheLookup ρ} (hl : l ∈ c.lookupsSinceReset calls) : c.SameSetup l.caches :=
  (c.afterCalls_sameSetup (untilReset calls)).trans (sameSetup_of_mem_lookupsAmong hl)

end TieredCache

/-- Since the counts were last reset, every lookup is told of once, as a hit or as a miss of both
caches, and as a hit or as a miss of memory. The hits are those of memory and those of the shared
cache, and of this are told, as a hit or as a miss, just the lookups that memory could not answer
while there was a shared cache. -/
theorem lookups_add_up {ρ : Type} [DistributedTier ρ] (config : CacheConfig)
    (henabled : config.enabled = true) (begun : Instant) (shared : ρ) (attached : Bool)
    (calls : List (Instant × CacheCall)) :
    let new := TieredCache.make config begun shared attached
    let told := (new.afterCalls calls).stats
    let lookups := new.lookupsSinceReset calls
    told.overall.lookups = (sinceReset calls).countP (·.2.isLookup) ∧
      told.overall.hits + told.overall.misses = told.overall.lookups ∧
      told.overall.hits = told.memory.hits + told.shared.hits ∧
      told.memory.hits + told.memory.misses = told.overall.lookups ∧
      told.shared.hits + told.shared.misses = lookups.countP (·.asksShared) ∧
      lookups.countP (·.missesMemory) = told.memory.misses ∧
      lookups.countP (·.asksShared) ≤ told.memory.misses := by
  intro new told lookups
  let c := new.afterCalls calls
  have hcounts : c.lookupCounts = .ofEnds (lookups.map CacheLookup.ending) :=
    TieredCache.afterCalls_lookupCounts henabled rfl calls
  have hmissed : lookups.countP (·.missesMemory) = c.lookupCounts.memoryMisses := by
    simp only [CacheLookup.missesMemory_eq]
    rw [hcounts, ← LookupCounts.countP_ne_memory, List.countP_map]
    rfl
  have hasked : lookups.countP (·.asksShared) =
      c.lookupCounts.sharedHits + c.lookupCounts.sharedMisses := by
    simp only [CacheLookup.asksShared_eq]
    rw [hcounts, ← LookupCounts.countP_shared_or_asked, List.countP_map]
    rfl
  have hfewer : lookups.countP (·.asksShared) ≤ lookups.countP (·.missesMemory) :=
    List.countP_mono_left fun l _ h => ((Bool.and_eq_true _ _).mp h).1
  -- The six counts by where lookups end, and all lookups by the same.
  have hall : told.overall.lookups = _ := congrArg LookupCounts.lookups hcounts
  have hmisses : told.overall.misses = _ := congrArg LookupCounts.misses hcounts
  have hmemoryHits : told.memory.hits = _ := congrArg LookupCounts.memoryHits hcounts
  have hmemoryMisses : told.memory.misses = _ := congrArg LookupCounts.memoryMisses hcounts
  have hsharedHits : told.shared.hits = _ := congrArg LookupCounts.sharedHits hcounts
  have hhits : told.overall.hits = told.overall.lookups - told.overall.misses := rfl
  have hends := LookupCounts.length_eq (lookups.map CacheLookup.ending)
  simp only [LookupCounts.ofEnds] at hall hmisses hmemoryHits hmemoryMisses hsharedHits
  have hnumber : lookups.length = (sinceReset calls).countP (·.2.isLookup) :=
    TieredCache.length_lookupsAmong _ _
  refine ⟨?_, ?_, ?_, ?_, hasked.symm, hmissed, hfewer.trans_eq hmissed⟩
  · rw [hall, List.length_map, hnumber]
  · omega
  · omega
  · omega

/-- The texts that pages are read from. -/
def isPageText (text : String) : Bool := (ResultPage.ofText? text).isSome

/-- A page that memory turns away is looked for while the shared cache cannot be asked, then copied
in vain, and then dropped since it cannot be read. A list is looked for in memory, and once more
after both caches were let go. All of this comes after a reset. -/
def countedCalls : List (Instant × CacheCall) := [
  (⟨0⟩, .operation (.get "page")),
  (⟨1⟩, .operation .resetStats),
  (⟨2⟩, .operation (.set "page" "far too many rows" none)),
  (⟨3⟩, .operation (.get "page")),
  (⟨4⟩, .operation (.get "page")),
  (⟨5⟩, .operation (.getDecoded isPageText "page")),
  (⟨6⟩, .setEncoded "list" (some "[]") none),
  (⟨7⟩, .operation (.get "list")),
  (⟨8⟩, .operation .close),
  (⟨9⟩, .operation (.get "list"))]

theorem lookups_add_up_interrupted :
    let new := TieredCache.make narrowCache ⟨0⟩ interruptedTier true
    let told := (new.afterCalls countedCalls).stats
    let lookups := new.lookupsSinceReset countedCalls
    narrowCache.enabled = true ∧
      (told.overall.lookups, told.overall.hits, told.overall.misses) = (5, 3, 2) ∧
      (told.memory.hits, told.memory.misses) = (1, 4) ∧
      (told.shared.hits, told.shared.misses, told.shared.errors) = (2, 1, 1) ∧
      told.overall.hits = told.memory.hits + told.shared.hits ∧
      told.shared.hits + told.shared.misses = lookups.countP (·.asksShared) ∧
      lookups.countP (·.asksShared) ≤ told.memory.misses := by
  obtain ⟨-, -, hhits, -, hasked, -, hfewer⟩ :=
    lookups_add_up narrowCache rfl ⟨0⟩ interruptedTier true countedCalls
  exact ⟨rfl, by decide +kernel, by decide +kernel, by decide +kernel, hhits, hasked, hfewer⟩

/-- What is told, laid out without the time. -/
example :
    (((TieredCache.make narrowCache ⟨0⟩ interruptedTier true).afterCalls countedCalls).statsJson
      fun _ => "").compact =
      "\x7b\"enabled\":true,\"memory\":\x7b\"enabled\":true,\"hits\":1,\"misses\":4," ++
      "\"hitRate\":20.0,\"bytesUsed\":0,\"maxBytes\":16,\"usagePercent\":0.0,\"entries\":0," ++
      "\"evictions\":0\x7d,\"distributed\":\x7b\"enabled\":false,\"connected\":false,\"hits\":2," ++
      "\"misses\":1,\"errors\":1,\"hitRate\":66.66666666666666,\"bytesUsed\":null\x7d," ++
      "\"overall\":\x7b\"totalQueries\":5,\"hits\":3,\"misses\":2,\"hitRate\":60.0," ++
      "\"lastReset\":\"\"\x7d\x7d" := by
  decide +kernel

/-- Since the counts were last reset, the lookups that have given nothing to their callers are those
that are told of as misses and those whose value could not be read. The latter are told of as hits,
as are those that gave a value. So the number of misses is right exactly if all values could be
read. No lookup is left without a result but where the clock cannot tell the end of a copy. -/
theorem typed_lookups_counted {ρ : Type} [DistributedTier ρ] (config : CacheConfig)
    (henabled : config.enabled = true) (begun : Instant) (shared : ρ) (attached : Bool)
    (calls : List (Instant × CacheCall)) :
    let new := TieredCache.make config begun shared attached
    let told := (new.afterCalls calls).stats.overall
    let lookups := new.lookupsSinceReset calls
    lookups.countP (·.isUnanswered) = told.misses + lookups.countP (·.isUnreadable) ∧
      told.hits = lookups.countP (·.isAnswered) + lookups.countP (·.isUnreadable) +
        lookups.countP (·.isStopped) ∧
      (told.misses = lookups.countP (·.isUnanswered) ↔ ∀ l ∈ lookups, l.isUnreadable = false) ∧
      ∀ l ∈ lookups, l.isStopped = true →
        Instant.limit ≤ l.now.nanos + config.memory.defaultTtl.nanos := by
  intro new told lookups
  let c := new.afterCalls calls
  have hcounts : c.lookupCounts = .ofEnds (lookups.map CacheLookup.ending) :=
    TieredCache.afterCalls_lookupCounts henabled rfl calls
  have hsetup : ∀ l ∈ lookups, new.SameSetup l.caches :=
    fun _ hl => TieredCache.sameSetup_of_mem_lookupsSinceReset hl
  have hunanswered : lookups.countP (·.isUnanswered) =
      told.misses + lookups.countP (·.isUnreadable) := by
    rw [CacheLookup.countP_isUnanswered fun l hl => (hsetup l hl).enabled.trans henabled, ← hcounts]
    rfl
  have hlookups : told.lookups = lookups.length :=
    (congrArg LookupCounts.lookups hcounts).trans (List.length_map _)
  have hhits : told.hits = told.lookups - told.misses := rfl
  have hlength := CacheLookup.length_eq_countP lookups
  refine ⟨hunanswered, ?_, ?_, fun l hl hstopped => ?_⟩
  · omega
  · rw [hunanswered, left_eq_add, List.countP_eq_zero]
    simp
  · by_contra hclock
    have htells : l.caches.TellsEnd l.now none := by
      intro _
      rw [Option.getD_none, (hsetup l hl).limits]
      exact Nat.not_le.mp hclock
    rw [l.isStopped_eq_false htells] at hstopped
    cases hstopped

theorem typed_lookups_counted_interrupted :
    let new := TieredCache.make narrowCache ⟨0⟩ interruptedTier true
    let told := (new.afterCalls countedCalls).stats.overall
    let lookups := new.lookupsSinceReset countedCalls
    narrowCache.enabled = true ∧ told.misses = 2 ∧ lookups.countP (·.isUnreadable) = 1 ∧
      lookups.countP (·.isAnswered) = 2 ∧
      lookups.countP (·.isUnanswered) = told.misses + lookups.countP (·.isUnreadable) ∧
      told.hits = lookups.countP (·.isAnswered) + lookups.countP (·.isUnreadable) +
        lookups.countP (·.isStopped) := by
  have hcounted := typed_lookups_counted narrowCache rfl ⟨0⟩ interruptedTier true countedCalls
  exact ⟨rfl, by decide +kernel, by decide +kernel, by decide +kernel, hcounted.1, hcounted.2.1⟩

/-- A page that cannot be read is put in memory and looked for. -/
def unreadableCalls : List (Instant × CacheCall) := [
  (⟨0⟩, .operation (.set "page" "no rows" none)),
  (⟨1⟩, .operation (.getDecoded isPageText "page"))]

/-- The misses that are told of are fewer than the lookups that give nothing where a value cannot be
read, and the hits are more than those that give one. -/
theorem unreadable_counted_as_hit :
    ¬∀ config : CacheConfig, config.enabled = true → ∀ (begun : Instant) (shared : SwitchableTier)
      (attached : Bool) (calls : List (Instant × CacheCall)),
      (∀ call ∈ calls, ∀ key, call.2.operation? ≠ some (.get key)) →
      let new := TieredCache.make config begun shared attached
      let told := (new.afterCalls calls).stats.overall
      let lookups := new.lookupsSinceReset calls
      told.misses = lookups.countP (·.isUnanswered) ∧
        told.hits = lookups.countP (·.isAnswered) := by
  intro h
  have hread : ∀ call ∈ unreadableCalls, ∀ key, call.2.operation? ≠ some (.get key) := by
    simp [unreadableCalls, CacheCall.operation?]
  have hmisses := (h .default rfl ⟨0⟩ .empty false unreadableCalls hread).1
  exact absurd hmisses (by decide +kernel)

end TableQuery
