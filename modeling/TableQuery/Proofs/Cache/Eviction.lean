import TableQuery.Proofs.Cache.Hysteresis

/-!
# What a new entry drives out

Where a new entry does not fit, what has expired goes first. Then other entries are driven out, the
one whose last use lies furthest back first, until the new entry fits, the allowance is used up or
nothing is left.

* `MemoryOperation.used?`: the key that an operation uses, where it stores a value or finds one.
* `UsedBefore`: the last use of one key comes before that of another.
* `MemoryTier.after_ordered`: the entries stand in the order of their last use.
* `Eviction`: the entries that are driven out to make room, and those that are kept.
* `set_evicts_least`: what is left of the entries when a value is put among them.
-/

namespace TableQuery

/-! ## The order of the last use -/

/-- A key is used, and another key is used after every use of it. -/
def UsedBefore (uses : List String) (k k' : String) : Prop :=
  ∃ before after, uses = before ++ k' :: after ∧ k ∈ before ∧ k ∉ k' :: after

theorem UsedBefore.append {uses : List String} {k k' x : String} (h : UsedBefore uses k k')
    (hne : k ≠ x) : UsedBefore (uses ++ [x]) k k' := by
  obtain ⟨before, after, rfl, hbefore, hafter⟩ := h
  refine ⟨before, after ++ [x], by simp, hbefore, ?_⟩
  rw [← List.cons_append, List.mem_append, List.mem_singleton, not_or]
  exact ⟨hafter, hne⟩

theorem usedBefore_concat {uses : List String} {k x : String} (h : k ∈ uses) (hne : k ≠ x) :
    UsedBefore (uses ++ [x]) k x :=
  ⟨uses, [], rfl, h, by simpa using hne⟩

/-- The entries have been used, and stand in the order of their last use. -/
structure Ordered (uses : List String) (entries : List CacheEntry) : Prop where
  used : ∀ e ∈ entries, e.key ∈ uses
  order : entries.Pairwise fun d e => UsedBefore uses d.key e.key

namespace Ordered

variable {uses : List String} {entries kept : List CacheEntry}

theorem sublist (h : Ordered uses entries) (hkept : kept.Sublist entries) : Ordered uses kept :=
  ⟨fun e he => h.used e (hkept.subset he), h.order.sublist hkept⟩

/-- An entry that is used stands behind the entries under other keys. -/
theorem use (h : Ordered uses entries) (hkept : kept.Sublist entries) {e : CacheEntry}
    (hkeys : ∀ d ∈ kept, d.key ≠ e.key) : Ordered (uses ++ [e.key]) (kept ++ [e]) where
  used := by
    rw [List.forall_mem_append, List.forall_mem_singleton]
    exact ⟨fun d hd => List.mem_append_left _ (h.used d (hkept.subset hd)), by simp⟩
  order := by
    rw [List.pairwise_append]
    refine ⟨?_, List.pairwise_singleton _ _, fun d hd d' hd' => ?_⟩
    · refine (h.order.sublist hkept).imp_of_mem fun hd _ hbefore => ?_
      exact hbefore.append (hkeys _ hd)
    · rw [List.mem_singleton.mp hd']
      exact usedBefore_concat (h.used d (hkept.subset hd)) (hkeys d hd)

end Ordered

/-- The key under which an operation stores a value or finds one. -/
def MemoryOperation.used? (now : Instant) : MemoryOperation → MemoryTier → Option String
  | get key, t => if (t.get now key).1.isSome then some key else none
  | set key value ttl, t => if (t.set now key value ttl).1 = .stored then some key else none
  | _, _ => none

namespace MemoryTier

variable {t : MemoryTier}

/-- The keys that operations use, one after another. -/
def uses (t : MemoryTier) : List (Instant × MemoryOperation) → List String
  | [] => []
  | op :: rest => (op.2.used? op.1 t).toList ++ (op.2.perform op.1 t).uses rest

theorem uses_concat (t : MemoryTier) (ops : List (Instant × MemoryOperation)) (now : Instant)
    (op : MemoryOperation) :
    t.uses (ops ++ [(now, op)]) = t.uses ops ++ (op.used? now (t.run ops)).toList := by
  induction ops generalizing t with
  | nil => simp [uses, run]
  | cons first rest ih =>
    rw [List.cons_append, uses, uses, ih, List.append_assoc]
    rfl

theorem makeRoom_sublist (t : MemoryTier) (now : Instant) (size : Nat) :
    (t.makeRoom now size).entries.Sublist t.entries := by
  obtain ⟨keys, hkeys⟩ := exists_purgeIfFull_eq t now size
  rw [makeRoom, evict_entries, hkeys, removeAll_entries]
  exact (List.drop_sublist _ _).trans List.filter_sublist

theorem get_ordered {uses : List String} (h : Ordered uses t.entries) (now : Instant)
    (key : String) :
    Ordered (uses ++ ((MemoryOperation.get key).used? now t).toList) (t.get now key).2.entries := by
  rw [MemoryOperation.used?]
  cases hfind : t.find? key with
  | none =>
    have hmiss : (t.get now key).1 = none ∧ (t.get now key).2.entries = t.entries := by
      simp [get, hfind]
    simpa [hmiss] using h
  | some e =>
    obtain ⟨-, rfl⟩ := mem_of_find? hfind
    by_cases hlive : now.nanos < e.expiresAt.nanos
    · have hhit : (t.get now e.key).1 = some e.value ∧
          (t.get now e.key).2.entries = t.entries.filter (·.key != e.key) ++ [e] := by
        simp [get, hfind, hlive]
      have hothers : ∀ d ∈ t.entries.filter (·.key != e.key), d.key ≠ e.key := by simp
      simpa [hhit] using h.use List.filter_sublist hothers
    · have hmiss : (t.get now e.key).1 = none ∧
          (t.get now e.key).2.entries = t.entries.filter (·.key != e.key) := by
        simp [get, hfind, hlive, remove_entries]
      simpa [hmiss] using h.sublist (List.filter_sublist (p := (·.key != e.key)))

/-- An entry that is stored stands last, and the others keep their order. -/
theorem accept_ordered {uses : List String} (h : Ordered uses t.entries) (now : Instant)
    {e : CacheEntry} (hothers : ∀ d ∈ t.entries, d.key ≠ e.key) :
    Ordered (uses ++ (if (t.accept now e).1 = .stored then some e.key else none).toList)
      (t.accept now e).2.entries := by
  have hroom := makeRoom_sublist t now e.size
  rw [accept_eq]
  by_cases hfull : (t.makeRoom now e.size).isFull e.size = true
  · simpa [hfull] using h.sublist hroom
  · simpa [hfull] using h.use hroom fun d hd => hothers d (hroom.subset hd)

theorem set_ordered {uses : List String} (h : Ordered uses t.entries) (hpressed : t.IsPressed)
    (now : Instant) (key value : String) (ttl : Option Duration) :
    Ordered (uses ++ ((MemoryOperation.set key value ttl).used? now t).toList)
      (t.set now key value ttl).2.entries := by
  rw [MemoryOperation.used?]
  cases hexpiry : now.after? (ttl.getD t.limits.defaultTtl) with
  | none => simpa [set_beyondClock hexpiry] using h
  | some expiresAt =>
    have hleft : Ordered uses (t.remove key).entries := by
      rw [remove_entries]
      exact h.sublist List.filter_sublist
    rw [set_eq hpressed hexpiry]
    cases henabled : (t.remove key).enabled with
    | true =>
      have hothers : ∀ d ∈ (t.remove key).entries, d.key ≠ key := fun d hd => (mem_remove.mp hd).2
      exact accept_ordered hleft now (e := newEntry key value expiresAt) hothers
    | false => simpa using hleft

theorem perform_ordered {uses : List String} (h : Ordered uses t.entries) (hpressed : t.IsPressed)
    (now : Instant) (op : MemoryOperation) :
    Ordered (uses ++ (op.used? now t).toList) (op.perform now t).entries := by
  have hkept {kept : List CacheEntry} (hsub : kept.Sublist t.entries) :
      Ordered (uses ++ []) kept := by
    rw [List.append_nil]
    exact h.sublist hsub
  cases op with
  | get key => exact get_ordered h now key
  | set key value ttl => exact set_ordered h hpressed now key value ttl
  | delete key =>
    refine hkept ?_
    rw [MemoryOperation.perform, MemoryTier.delete, remove_entries]
    exact List.filter_sublist
  | removeStart start =>
    refine hkept ?_
    rw [MemoryOperation.perform, removeStart_entries]
    exact List.filter_sublist
  | purgeExpired =>
    refine hkept ?_
    rw [MemoryOperation.perform, MemoryTier.purgeExpired, removeAll_entries]
    exact List.filter_sublist
  | clear => exact hkept (List.nil_sublist _)
  | resetStats => exact hkept (.refl _)

/-- After any operations the entries stand in the order of their last use. -/
theorem after_ordered (limits : MemoryLimits) (ops : List (Instant × MemoryOperation)) :
    Ordered ((make limits).uses ops) (after limits ops).entries := by
  induction ops using List.reverseRecOn with
  | nil => exact ⟨nofun, .nil⟩
  | append_singleton ops op ih =>
    have hrun : after limits (ops ++ [op]) = op.2.perform op.1 (after limits ops) :=
      run_concat (make limits) ops op.1 op.2
    rw [uses_concat, hrun]
    exact perform_ordered ih (after_isPressed limits ops) op.1 op.2

end MemoryTier

/-! ## Room -/

@[simp] theorem costOf_nil : costOf [] = 0 := rfl

@[simp] theorem costOf_cons (e : CacheEntry) (rest : List CacheEntry) :
    costOf (e :: rest) = e.cost + costOf rest := by
  rw [costOf, List.map_cons, List.sum_cons, costOf]

@[simp] theorem costOf_append (xs ys : List CacheEntry) :
    costOf (xs ++ ys) = costOf xs + costOf ys := by
  rw [costOf, List.map_append, List.sum_append, costOf, costOf]

/-- The entries that are driven out to make room for so many bytes among others, and those that are
kept. -/
structure Eviction (limits : MemoryLimits) (now : Instant) (size : Nat)
    (others evicted kept : List CacheEntry) : Prop where
  /-- What has expired goes first, but only if the new entry does not fit. Of what is left, the
  entries that are driven out stand in front. -/
  left : evicted ++ kept =
    if costOf others + size ≤ limits.maxBytes then others
    else others.filter fun e => decide (now.nanos < e.expiresAt.nanos)
  /-- Nothing is driven out while an entry is held that has expired. -/
  live : evicted ≠ [] → ∀ e ∈ evicted ++ kept, now.nanos < e.expiresAt.nanos
  /-- The new entry fits, the allowance is used up, or nothing is left. -/
  enough : costOf kept + size ≤ limits.maxBytes ∨
    limits.evictionAllowance ≤ costOf evicted ∨ kept = []
  /-- None of this is so where fewer are driven out. -/
  least : ∀ fewer more, evicted = fewer ++ more → more ≠ [] →
    limits.maxBytes < costOf (more ++ kept) + size ∧ costOf fewer < limits.evictionAllowance

namespace Eviction

variable {limits : MemoryLimits} {now : Instant} {size : Nat}
  {others evicted kept : List CacheEntry}

/-- Nothing is driven out while an entry is held that has expired: it would have gone before. -/
theorem of_least
    (hleft : evicted ++ kept =
      if costOf others + size ≤ limits.maxBytes then others
      else others.filter fun e => decide (now.nanos < e.expiresAt.nanos))
    (henough : costOf kept + size ≤ limits.maxBytes ∨
      limits.evictionAllowance ≤ costOf evicted ∨ kept = [])
    (hleast : ∀ fewer more, evicted = fewer ++ more → more ≠ [] →
      limits.maxBytes < costOf (more ++ kept) + size ∧
        costOf fewer < limits.evictionAllowance) :
    Eviction limits now size others evicted kept where
  left := hleft
  live := by
    intro hne e he
    have hfull := (hleast [] evicted rfl hne).1
    by_cases hfits : costOf others + size ≤ limits.maxBytes
    · rw [hleft, if_pos hfits] at hfull
      omega
    · rw [hleft, if_neg hfits, List.mem_filter] at he
      exact of_decide_eq_true he.2
  enough := henough
  least := hleast

/-- Less is freed than the allowance and the last entry that is driven out. -/
theorem costOf_lt (h : Eviction limits now size others evicted kept) {first : List CacheEntry}
    {last : CacheEntry} (hlast : evicted = first ++ [last]) :
    costOf evicted < limits.evictionAllowance + last.cost := by
  have hfirst := (h.least first [last] hlast (List.cons_ne_nil _ _)).2
  rw [hlast, costOf_append, costOf_cons, costOf_nil]
  omega

end Eviction

namespace MemoryTier

variable {t : MemoryTier}

/-- Entries are driven out from the first on, so many bytes having been freed before, and not one
more than it takes. -/
theorem exists_evictFrom (limits : MemoryLimits) (size : Nat) {entries : List CacheEntry}
    {bytes : Nat} (h : Accounted entries bytes) (freed : Nat) :
    ∃ evicted, entries = evicted ++ (evictFrom limits size entries bytes freed).1 ∧
      (evictFrom limits size entries bytes freed).2.2 = evicted.length ∧
      (costOf (evictFrom limits size entries bytes freed).1 + size ≤ limits.maxBytes ∨
        limits.evictionAllowance ≤ freed + costOf evicted ∨
          (evictFrom limits size entries bytes freed).1 = []) ∧
      ∀ fewer more, evicted = fewer ++ more → more ≠ [] →
        limits.maxBytes <
            costOf (more ++ (evictFrom limits size entries bytes freed).1) + size ∧
          freed + costOf fewer < limits.evictionAllowance := by
  induction entries generalizing bytes freed with
  | nil => exact ⟨[], rfl, rfl, .inr (.inr rfl), fun _ _ hsplit hmore => by simp_all⟩
  | cons e rest ih =>
    have hbytes : bytes = costOf (e :: rest) := h.bytes
    have hcost : e.size = e.cost := h.sizes e (by simp)
    unfold evictFrom
    split
    · rename_i hgoes
      obtain ⟨evicted, hrest, hlength, henough, hleast⟩ := ih h.tail.2 (freed + e.size)
      refine ⟨e :: evicted, congrArg (e :: ·) hrest, congrArg (· + 1) hlength, ?_, ?_⟩
      · rw [costOf_cons, ← hcost, ← Nat.add_assoc]
        exact henough
      · intro fewer more hsplit hmore
        cases fewer with
        | nil =>
          -- Nothing is driven out yet: the new entry does not fit among all of them.
          obtain rfl : e :: evicted = more := hsplit
          rw [List.cons_append, ← hrest, ← hbytes, costOf_nil, Nat.add_zero]
          exact hgoes
        | cons d fewer =>
          obtain ⟨rfl, hevicted⟩ := List.cons.inj hsplit
          rw [costOf_cons, ← hcost, ← Nat.add_assoc]
          exact hleast fewer more hevicted hmore
    · rename_i hstops
      refine ⟨[], rfl, rfl, ?_, fun _ _ hsplit hmore => by simp_all⟩
      rw [costOf_nil, Nat.add_zero, ← hbytes]
      omega

@[simp] theorem removeAll_evictions (t : MemoryTier) (keys : List String) :
    (t.removeAll keys).evictions = t.evictions := by
  induction keys generalizing t with
  | nil => rfl
  | cons key rest ih =>
    refine (ih (t.remove key)).trans ?_
    unfold remove
    split <;> rfl

/-- What has expired goes if the new entry does not fit. -/
theorem purgeIfFull_entries (h : Accounted t.entries t.bytesUsed) (now : Instant) (size : Nat) :
    (t.purgeIfFull now size).entries =
      if costOf t.entries + size ≤ t.limits.maxBytes then t.entries
      else t.entries.filter fun e => decide (now.nanos < e.expiresAt.nanos) := by
  have hbytes : t.bytesUsed = costOf t.entries := h.bytes
  rw [purgeIfFull, isFull, hbytes]
  by_cases hfits : costOf t.entries + size ≤ t.limits.maxBytes
  · simp [hfits, Nat.not_lt.mpr hfits]
  · simp [hfits, Nat.not_le.mp hfits, purgeExpired_entries h.keys]

theorem purgeIfFull_evictions (t : MemoryTier) (now : Instant) (size : Nat) :
    (t.purgeIfFull now size).evictions = t.evictions := by
  obtain ⟨keys, hkeys⟩ := exists_purgeIfFull_eq t now size
  rw [hkeys, removeAll_evictions]

/-- Making room drives entries out, and counts them. -/
theorem exists_eviction (h : Accounted t.entries t.bytesUsed) (now : Instant) (size : Nat) :
    ∃ evicted, Eviction t.limits now size t.entries evicted (t.makeRoom now size).entries ∧
      (t.makeRoom now size).evictions = t.evictions + evicted.length := by
  obtain ⟨evicted, hsplit, hcount, henough, hleast⟩ :=
    exists_evictFrom (t.purgeIfFull now size).limits size (purgeIfFull_account h now size).2 0
  have hkept : (evictFrom (t.purgeIfFull now size).limits size (t.purgeIfFull now size).entries
      (t.purgeIfFull now size).bytesUsed 0).1 = (t.makeRoom now size).entries := rfl
  rw [hkept] at hsplit henough
  simp only [hkept] at hleast
  rw [purgeIfFull_limits, Nat.zero_add] at henough
  simp only [purgeIfFull_limits, Nat.zero_add] at hleast
  have hleft := hsplit.symm.trans (purgeIfFull_entries h now size)
  refine ⟨evicted, .of_least hleft henough hleast, ?_⟩
  have hevictions := purgeIfFull_evictions t now size
  rw [← hcount, ← hevictions]
  rfl

/-- What becomes of an entry, from the entries that are kept for it. -/
theorem accept_kept (h : Accounted t.entries t.bytesUsed) (now : Instant) (e : CacheEntry) :
    ∃ evicted kept, Eviction t.limits now e.size t.entries evicted kept ∧
      (t.accept now e).2.evictions = t.evictions + evicted.length ∧
      (costOf kept + e.size ≤ t.limits.maxBytes →
        (t.accept now e).1 = .stored ∧ (t.accept now e).2.entries = kept ++ [e]) ∧
      (t.limits.maxBytes < costOf kept + e.size →
        (t.accept now e).1 = .rejected ∧ (t.accept now e).2.entries = kept) := by
  obtain ⟨evicted, heviction, hcount⟩ := exists_eviction h now e.size
  have hbytes : (t.makeRoom now e.size).bytesUsed = costOf (t.makeRoom now e.size).entries :=
    (makeRoom_account h now e.size).2.bytes
  have hfull : (t.makeRoom now e.size).isFull e.size =
      decide (t.limits.maxBytes < costOf (t.makeRoom now e.size).entries + e.size) := by
    rw [isFull, makeRoom_limits, hbytes]
  refine ⟨evicted, (t.makeRoom now e.size).entries, heviction, ?_, fun hfits => ?_, fun hnot => ?_⟩
  · rw [accept_eq, ← hcount]
    simp only
    split <;> rfl
  · rw [decide_eq_false (Nat.not_lt.mpr hfits)] at hfull
    simp [accept_eq, hfull]
  · rw [decide_eq_true hnot] at hfull
    simp [accept_eq, hfull]

theorem remove_evictions (t : MemoryTier) (key : String) :
    (t.remove key).evictions = t.evictions :=
  removeAll_evictions t [key]

end MemoryTier

/-- **What a new value drives out.** After any operations the entries stand in the order of their
last use. A value that finds a cache that takes entries drives out the least row of those in front
after which there is room for it, the allowance is used up or nothing is left, and only after what
has expired has gone. It is stored exactly if it fits then, behind the entries that are kept. A
cache that has stopped loses only what the value replaces. -/
theorem set_evicts_least (config : MemoryConfig) (ops : List (Instant × MemoryOperation))
    {now expiresAt : Instant} (key value : String) (ttl : Option Duration)
    (h : now.after? (ttl.getD config.defaultTtl) = some expiresAt) :
    let limits := MemoryLimits.ofConfig config
    let t := MemoryTier.after limits ops
    let others := t.entries.filter (·.key != key)
    let size := key.utf8ByteSize + value.utf8ByteSize
    let result := t.set now key value ttl
    (t.entries.Pairwise fun d e => UsedBefore ((MemoryTier.make limits).uses ops) d.key e.key) ∧
    ((t.remove key).enabled = false →
      result.1 = .disabled ∧ result.2.entries = others ∧ result.2.evictions = t.evictions) ∧
    ((t.remove key).enabled = true →
      ∃ evicted kept, Eviction limits now size others evicted kept ∧
        (∀ first last, evicted = first ++ [last] →
          costOf evicted < limits.evictionAllowance + last.cost) ∧
        result.2.evictions = t.evictions + evicted.length ∧
        (costOf kept + size ≤ limits.maxBytes →
          result.1 = .stored ∧ result.2.entries = kept ++ [⟨key, value, size, expiresAt⟩]) ∧
        (limits.maxBytes < costOf kept + size →
          result.1 = .rejected ∧ result.2.entries = kept)) := by
  intro limits t others size result
  obtain ⟨haccount, hlimits⟩ := MemoryTier.after_wellAccounted limits ops
  have hspan : t.limits.defaultTtl = config.defaultTtl := by rw [hlimits]; rfl
  have hset : result = _ :=
    MemoryTier.set_eq (MemoryTier.after_isPressed limits ops) (by rw [hspan]; exact h)
  refine ⟨(MemoryTier.after_ordered limits ops).order, fun hstopped => ?_, fun henabled => ?_⟩
  · rw [hset, if_neg (by simp [t, hstopped])]
    exact ⟨rfl, MemoryTier.remove_entries t key, MemoryTier.remove_evictions t key⟩
  · have hremoved := MemoryTier.remove_account haccount.account key
    obtain ⟨evicted, kept, heviction, hcount, hfits, hfull⟩ :=
      MemoryTier.accept_kept hremoved.2 now (MemoryTier.newEntry key value expiresAt)
    rw [MemoryTier.remove_limits, hlimits] at heviction hfits hfull
    rw [MemoryTier.remove_entries] at heviction
    rw [MemoryTier.remove_evictions] at hcount
    rw [hset, if_pos henabled]
    exact ⟨evicted, kept, heviction, fun _ _ hlast => heviction.costOf_lt hlast, hcount, hfits,
      hfull⟩

/-- A cache of sixteen bytes of which one entry may drive out half. -/
def smallCrowd : MemoryConfig :=
  { MemoryConfig.default with
    maxBytes := 16
    evictionAllowance := Decimal.toBinary64 ⟨false, 5, -1⟩ }

/-- Four values that fill the cache, the first for a second only, and a use of the second. -/
def crowdingRun : List (Instant × MemoryOperation) := [
  (⟨0⟩, .set "a" "one" (some (.ofSeconds 1))),
  (⟨0⟩, .set "b" "two" none),
  (⟨0⟩, .set "c" "six" none),
  (⟨0⟩, .set "d" "ten" none),
  (⟨1⟩, .get "b")]

/-- The first has expired then and goes. Of the others, the third is the one to be driven out. -/
theorem set_evicts_least_crowding :
    (Instant.mk 2000000000).after? smallCrowd.defaultTtl = some ⟨302000000000⟩ ∧
      ∃ evicted kept,
        Eviction (.ofConfig smallCrowd) ⟨2000000000⟩ 8
          ((MemoryTier.after (.ofConfig smallCrowd) crowdingRun).entries.filter (·.key != "e"))
          evicted kept ∧
        evicted.length = 1 ∧
        ((MemoryTier.after (.ofConfig smallCrowd) crowdingRun).set ⟨2000000000⟩ "e" "seventh"
          none).2.entries.map (·.key) = ["d", "b", "e"] := by
  have hexpiry : (Instant.mk 2000000000).after? smallCrowd.defaultTtl = some ⟨302000000000⟩ := by
    decide
  obtain ⟨evicted, kept, heviction, -, hcount, -, -⟩ :=
    (set_evicts_least smallCrowd crowdingRun "e" "seventh" none hexpiry).2.2 (by decide +kernel)
  have hnone : (MemoryTier.after (.ofConfig smallCrowd) crowdingRun).evictions = 0 := by
    decide +kernel
  have hone : ((MemoryTier.after (.ofConfig smallCrowd) crowdingRun).set ⟨2000000000⟩ "e" "seventh"
      none).2.evictions = 1 := by decide +kernel
  rw [hone, hnone, Nat.zero_add] at hcount
  exact ⟨hexpiry, evicted, kept, heviction, hcount.symm, by decide +kernel⟩

end TableQuery
