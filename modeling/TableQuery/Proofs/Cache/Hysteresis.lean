import Mathlib.Data.List.Induction
import TableQuery.Proofs.Cache.History

/-!
# When the cache in memory takes entries

A cache that turns an entry away with much of its budget in use stops taking entries. It takes them
again as soon as an operation brings the bytes in use below a mark, and no sooner.

* `MemoryTier.IsPressed`: a cache that has stopped has the mark in use.
* `MemoryTier.Relieves`: bytes are given back, and the cache goes on if they are enough.
* `MemoryTier.set_eq`: a new value finds a cache that has stopped, or it is put among the others.
* `hysteresis_exact`: when a cache stops and goes on, after any operations.
* `refused_under_load`: what is in use where a new value is refused. Entries that have expired count
  among it (`refused_by_expired`), unless they are dropped first.
-/

namespace TableQuery

namespace MemoryTier

variable {t u v : MemoryTier}

/-- A cache that has stopped taking entries has the mark in use. -/
def IsPressed (t : MemoryTier) : Prop := t.enabled = false → t.limits.reenableBelow ≤ t.bytesUsed

/-! ## Bytes that are given back -/

/-- Bytes are given back, and the cache takes entries again if few enough are in use. -/
structure Relieves (t u : MemoryTier) : Prop where
  limits : u.limits = t.limits
  bytes : u.bytesUsed ≤ t.bytesUsed
  enabled : u.enabled = (t.enabled || decide (u.bytesUsed < t.limits.reenableBelow))

namespace Relieves

theorem refl (h : t.IsPressed) : t.Relieves t := by
  refine ⟨rfl, Nat.le_refl _, ?_⟩
  cases henabled : t.enabled with
  | true => rfl
  | false => simpa using h henabled

theorem trans (h : t.Relieves u) (h' : u.Relieves v) : t.Relieves v := by
  have hle := h'.bytes
  refine ⟨h'.limits.trans h.limits, Nat.le_trans hle h.bytes, ?_⟩
  rw [h'.enabled, h.enabled, h.limits, Bool.or_assoc]
  congr 1
  rw [← Bool.decide_or, decide_eq_decide]
  omega

theorem isPressed (h : t.Relieves u) : u.IsPressed := by
  intro hstopped
  rw [h.enabled, Bool.or_eq_false_iff, decide_eq_false_iff_not, Nat.not_lt] at hstopped
  rw [h.limits]
  exact hstopped.2

/-- A cache that takes entries goes on taking them. -/
theorem enabled_of_enabled (h : t.Relieves u) (henabled : t.enabled = true) : u.enabled = true := by
  rw [h.enabled, henabled, Bool.true_or]

/-- A cache that has stopped goes on exactly if fewer bytes than the mark are left. -/
theorem enabled_iff (h : t.Relieves u) (hstopped : t.enabled = false) :
    u.enabled = true ↔ u.bytesUsed < t.limits.reenableBelow := by
  rw [h.enabled, hstopped, Bool.false_or, decide_eq_true_iff]

end Relieves

theorem remove_relieves (h : t.IsPressed) (key : String) : t.Relieves (t.remove key) := by
  unfold remove
  split
  · exact .refl h
  · exact ⟨rfl, Nat.sub_le _ _, rfl⟩

theorem removeAll_relieves (h : t.IsPressed) (keys : List String) :
    t.Relieves (t.removeAll keys) := by
  induction keys generalizing t with
  | nil => exact .refl h
  | cons key rest ih =>
    have hfirst := remove_relieves h key
    exact hfirst.trans (ih hfirst.isPressed)

theorem get_relieves (h : t.IsPressed) (now : Instant) (key : String) :
    t.Relieves (t.get now key).2 := by
  have hsame := Relieves.refl h
  unfold get
  split
  · exact ⟨rfl, hsame.bytes, hsame.enabled⟩
  · split
    · exact ⟨rfl, hsame.bytes, hsame.enabled⟩
    · have hremoved := remove_relieves h key
      exact ⟨hremoved.limits, hremoved.bytes, hremoved.enabled⟩

/-! ## New values -/

/-- The entry that a value becomes. -/
def newEntry (key value : String) (expiresAt : Instant) : CacheEntry :=
  ⟨key, value, key.utf8ByteSize + value.utf8ByteSize, expiresAt⟩

theorem set_beyondClock {now : Instant} {key value : String} {ttl : Option Duration}
    (h : now.after? (ttl.getD t.limits.defaultTtl) = none) :
    t.set now key value ttl = (.beyondClock, t) := by
  rw [set, h]

/-- A new value gives back what it replaces. If the cache has stopped even so, that is all; if not,
the value is put among the other entries. -/
theorem set_eq (hpressed : t.IsPressed) {now expiresAt : Instant} {key value : String}
    {ttl : Option Duration} (h : now.after? (ttl.getD t.limits.defaultTtl) = some expiresAt) :
    t.set now key value ttl =
      if (t.remove key).enabled then (t.remove key).accept now (newEntry key value expiresAt)
      else (.disabled, t.remove key) := by
  rw [set, h]
  simp only
  cases henabled : (t.remove key).enabled with
  | true =>
    rw [show { t.remove key with enabled := true } = t.remove key by rw [← henabled]]
    simp [newEntry]
  | false =>
    have hmark := (remove_relieves hpressed key).isPressed henabled
    rw [Bool.not_false, Bool.true_and, decide_eq_true hmark]
    rfl

theorem evict_enabled (t : MemoryTier) (size : Nat) : (t.evict size).enabled = t.enabled := rfl

theorem makeRoom_enabled (h : t.enabled = true) (now : Instant) (size : Nat) :
    (t.makeRoom now size).enabled = true := by
  have hpressed : t.IsPressed := by simp [IsPressed, h]
  obtain ⟨keys, hkeys⟩ := exists_purgeIfFull_eq t now size
  rw [makeRoom, evict_enabled, hkeys]
  exact (removeAll_relieves hpressed keys).enabled_of_enabled h

theorem makeRoom_bytesUsed_le (t : MemoryTier) (now : Instant) (size : Nat) :
    (t.makeRoom now size).bytesUsed ≤ t.bytesUsed := by
  rw [makeRoom_bytesUsed]
  exact foldl_sub_le _ _

/-- An entry is rejected if there is no room for it, and stored if there is. -/
theorem accept_answer (t : MemoryTier) (now : Instant) (e : CacheEntry) :
    (t.accept now e).1 = if (t.makeRoom now e.size).isFull e.size then .rejected else .stored := by
  rw [accept_eq]
  simp only
  split <;> rfl

/-- A cache stops where an entry is rejected with the mark in use. -/
theorem accept_enabled_eq_false (h : t.enabled = true) (now : Instant) (e : CacheEntry) :
    (t.accept now e).2.enabled = false ↔
      (t.accept now e).1 = .rejected ∧ t.limits.reenableBelow ≤ (t.accept now e).2.bytesUsed := by
  rw [accept_eq]
  simp only [makeRoom_enabled h, makeRoom_limits]
  split <;> simp

/-- An entry that is rejected has nothing added. -/
theorem accept_bytesUsed_le {now : Instant} {e : CacheEntry}
    (h : (t.accept now e).1 = .rejected) : (t.accept now e).2.bytesUsed ≤ t.bytesUsed := by
  have hbytes := MemoryOperation.accept_bytesUsed t now e
  rw [h, if_neg (by decide), Nat.add_zero] at hbytes
  rw [hbytes]
  exact foldl_sub_le _ _

theorem accept_limits (t : MemoryTier) (now : Instant) (e : CacheEntry) :
    (t.accept now e).2.limits = t.limits := by
  rw [accept_eq]
  simp only
  split <;> exact makeRoom_limits t now e.size

theorem accept_isPressed (h : t.enabled = true) (now : Instant) (e : CacheEntry) :
    (t.accept now e).2.IsPressed := by
  intro hstopped
  rw [accept_limits]
  exact ((accept_enabled_eq_false h now e).mp hstopped).2

/-- A cache that an entry finds below the mark does not stop. -/
theorem accept_enabled_of_lt (h : t.enabled = true) (hlow : t.bytesUsed < t.limits.reenableBelow)
    (now : Instant) (e : CacheEntry) : (t.accept now e).2.enabled = true := by
  by_contra hstopped
  rw [Bool.not_eq_true, accept_enabled_eq_false h] at hstopped
  have hle := accept_bytesUsed_le hstopped.1
  omega

end MemoryTier

/-! ## Operations -/

namespace MemoryOperation

open MemoryTier

variable {t : MemoryTier}

/-- The bytes that are in use when an operation has given back what it gives back, before it adds
anything. A new value gives back what it replaces. -/
def lowest (now : Instant) : MemoryOperation → MemoryTier → Nat
  | set key _ ttl, t =>
    if (now.after? (ttl.getD t.limits.defaultTtl)).isSome then (t.remove key).bytesUsed
    else t.bytesUsed
  | op, t => (op.perform now t).bytesUsed

/-- The operation ends the pressure: it brings the bytes in use below the mark, or it drops
everything. -/
def Lifts (now : Instant) (op : MemoryOperation) (t : MemoryTier) : Prop :=
  op = clear ∨ op.lowest now t < t.limits.reenableBelow

/-- An operation puts a value in, it drops everything, or it does nothing but give back. -/
theorem perform_cases (h : t.IsPressed) (now : Instant) (op : MemoryOperation) :
    (∃ key value ttl, op = set key value ttl) ∨ op = clear ∨
      (op ≠ clear ∧ t.Relieves (op.perform now t) ∧
        op.lowest now t = (op.perform now t).bytesUsed) := by
  cases op with
  | get key => exact .inr (.inr ⟨nofun, get_relieves h now key, rfl⟩)
  | set key value ttl => exact .inl ⟨key, value, ttl, rfl⟩
  | delete key => exact .inr (.inr ⟨nofun, remove_relieves h key, rfl⟩)
  | removeStart start => exact .inr (.inr ⟨nofun, removeAll_relieves h _, rfl⟩)
  | purgeExpired => exact .inr (.inr ⟨nofun, removeAll_relieves h _, rfl⟩)
  | clear => exact .inr (.inl rfl)
  | resetStats =>
    have hsame := Relieves.refl h
    exact .inr (.inr ⟨nofun, ⟨rfl, hsame.bytes, hsame.enabled⟩, rfl⟩)

/-- A cache that has stopped goes on with a new value if the one that it replaces takes the bytes in
use below the mark. -/
theorem set_resumes (hpressed : t.IsPressed) {now expiresAt : Instant} {key value : String}
    {ttl : Option Duration} (h : now.after? (ttl.getD t.limits.defaultTtl) = some expiresAt)
    (hstopped : t.enabled = false) :
    (t.set now key value ttl).2.enabled = true ↔
      (t.remove key).bytesUsed < t.limits.reenableBelow := by
  have hremoved := remove_relieves hpressed key
  rw [set_eq hpressed h, ← hremoved.enabled_iff hstopped]
  cases henabled : (t.remove key).enabled with
  | false => simp [henabled]
  | true =>
    have hlow := (hremoved.enabled_iff hstopped).mp henabled
    rw [← hremoved.limits] at hlow
    simp [accept_enabled_of_lt henabled hlow]

/-- A cache that takes entries stops with a new value if that is rejected with the mark in use. -/
theorem set_stops (hpressed : t.IsPressed) (now : Instant) (key value : String)
    (ttl : Option Duration) (henabled : t.enabled = true) :
    (t.set now key value ttl).2.enabled = false ↔
      (t.set now key value ttl).1 = .rejected ∧
        t.limits.reenableBelow ≤ (t.set now key value ttl).2.bytesUsed := by
  cases hexpiry : now.after? (ttl.getD t.limits.defaultTtl) with
  | none => simp [set_beyondClock hexpiry, henabled]
  | some expiresAt =>
    have hremoved := remove_relieves hpressed key
    have hleft := hremoved.enabled_of_enabled henabled
    rw [set_eq hpressed hexpiry, if_pos hleft, accept_enabled_eq_false hleft, hremoved.limits]

theorem set_isPressed (h : t.IsPressed) (now : Instant) (key value : String)
    (ttl : Option Duration) : (t.set now key value ttl).2.IsPressed := by
  cases hexpiry : now.after? (ttl.getD t.limits.defaultTtl) with
  | none => rwa [set_beyondClock hexpiry]
  | some expiresAt =>
    rw [set_eq h hexpiry]
    split
    · rename_i henabled
      exact accept_isPressed henabled now _
    · exact (remove_relieves h key).isPressed

theorem perform_isPressed (h : t.IsPressed) (now : Instant) (op : MemoryOperation) :
    (op.perform now t).IsPressed := by
  rcases perform_cases h now op with ⟨key, value, ttl, rfl⟩ | rfl | ⟨-, hrelieves, -⟩
  · exact set_isPressed h now key value ttl
  · exact nofun
  · exact hrelieves.isPressed

/-- A cache stops where a value is rejected with the mark in use, and nowhere else. -/
theorem perform_stops (h : t.IsPressed) (now : Instant) (op : MemoryOperation)
    (henabled : t.enabled = true) :
    (op.perform now t).enabled = false ↔
      ∃ key value ttl, op = set key value ttl ∧ (t.set now key value ttl).1 = .rejected ∧
        t.limits.reenableBelow ≤ (t.set now key value ttl).2.bytesUsed := by
  constructor
  · intro hstopped
    rcases perform_cases h now op with ⟨key, value, ttl, rfl⟩ | rfl | ⟨-, hrelieves, -⟩
    · exact ⟨key, value, ttl, rfl, (set_stops h now key value ttl henabled).mp hstopped⟩
    · cases hstopped
    · rw [hrelieves.enabled_of_enabled henabled] at hstopped
      cases hstopped
  · rintro ⟨key, value, ttl, rfl, hrejected⟩
    exact (set_stops h now key value ttl henabled).mpr hrejected

/-- A cache that has stopped goes on with the operation that ends the pressure. -/
theorem perform_resumes (h : t.IsPressed) (now : Instant) (op : MemoryOperation)
    (hstopped : t.enabled = false) : (op.perform now t).enabled = true ↔ op.Lifts now t := by
  rcases perform_cases h now op with ⟨key, value, ttl, rfl⟩ | rfl | ⟨hclear, hrelieves, hlowest⟩
  · cases hexpiry : now.after? (ttl.getD t.limits.defaultTtl) with
    | none => simp [perform, set_beyondClock hexpiry, Lifts, lowest, hexpiry, hstopped, h hstopped]
    | some expiresAt =>
      rw [perform, set_resumes h hexpiry hstopped]
      simp [Lifts, lowest, hexpiry]
  · exact ⟨fun _ => .inl rfl, fun _ => rfl⟩
  · rw [hrelieves.enabled_iff hstopped, Lifts, hlowest]
    simp [hclear]

end MemoryOperation

/-! ## States -/

namespace MemoryTier

variable {t : MemoryTier}

theorem foldl_isPressed (h : t.IsPressed) (ops : List (Instant × MemoryOperation)) :
    (t.run ops).IsPressed := by
  induction ops generalizing t with
  | nil => exact h
  | cons op rest ih => exact ih (op.2.perform_isPressed h op.1)

theorem after_isPressed (limits : MemoryLimits) (ops : List (Instant × MemoryOperation)) :
    (after limits ops).IsPressed :=
  foldl_isPressed (t := make limits) nofun ops

theorem run_concat (t : MemoryTier) (ops : List (Instant × MemoryOperation)) (now : Instant)
    (op : MemoryOperation) : t.run (ops ++ [(now, op)]) = op.perform now (t.run ops) := by
  rw [run, List.foldl_append]
  rfl

/-- Once a cache has stopped, it goes on with the first operation that ends the pressure. -/
theorem stopped_iff (h : t.IsPressed) (hstopped : t.enabled = false)
    (later : List (Instant × MemoryOperation)) :
    (∀ before, before <+: later → (t.run before).enabled = false) ↔
      ∀ before now op rest, later = before ++ (now, op) :: rest → ¬op.Lifts now (t.run before) := by
  constructor
  · rintro hall before now op rest rfl
    have hbefore := hall before (List.prefix_append _ _)
    have hafter := hall (before ++ [(now, op)]) (by simp)
    rw [run_concat] at hafter
    rw [← op.perform_resumes (foldl_isPressed h before) now hbefore, hafter]
    decide
  · intro hnone before
    induction before using List.reverseRecOn with
    | nil => exact fun _ => hstopped
    | append_singleton before op ih =>
      rintro ⟨rest, rfl⟩
      have hbefore := ih (by simp)
      have hnot := hnone before op.1 op.2 rest (by simp)
      rw [run_concat, ← Bool.not_eq_true,
        op.2.perform_resumes (foldl_isPressed h before) op.1 hbefore]
      exact hnot

/-- How a cache stops taking entries and goes on, whatever is done with it. -/
structure Switches (t : MemoryTier) : Prop where
  /-- A cache that has stopped has the mark in use. -/
  pressed : t.enabled = false → t.limits.reenableBelow ≤ t.bytesUsed
  /-- A cache stops where a value is rejected with the mark in use, and nowhere else. -/
  stops : t.enabled = true → ∀ now (op : MemoryOperation),
    (op.perform now t).enabled = false ↔
      ∃ key value ttl, op = .set key value ttl ∧ (t.set now key value ttl).1 = .rejected ∧
        t.limits.reenableBelow ≤ (t.set now key value ttl).2.bytesUsed
  /-- It goes on with an operation that ends the pressure, and with no other. -/
  resumes : t.enabled = false → ∀ now (op : MemoryOperation),
    (op.perform now t).enabled = true ↔ op.Lifts now t
  /-- It goes on with the first operation that does. -/
  stopped : t.enabled = false → ∀ later : List (Instant × MemoryOperation),
    (∀ before, before <+: later → (t.run before).enabled = false) ↔
      ∀ before now op rest, later = before ++ (now, op) :: rest → ¬op.Lifts now (t.run before)
  /-- A new value is refused and nothing is added, unless what it replaces ends the pressure. Then
  the cache goes on, even where it has no room for the value. -/
  values : t.enabled = false → ∀ now key value ttl,
    (t.set now key value ttl).1 ≠ .beyondClock →
      (t.limits.reenableBelow ≤ (t.remove key).bytesUsed →
        t.set now key value ttl = (.disabled, t.remove key)) ∧
      ((t.remove key).bytesUsed < t.limits.reenableBelow →
        (t.set now key value ttl).1 ≠ .disabled ∧ (t.set now key value ttl).2.enabled = true)
  /-- What is live can be read all the while. -/
  reads : t.enabled = false → ∀ now, ∀ e ∈ t.entries, now.nanos < e.expiresAt.nanos →
    (t.get now e.key).1 = some e.value

theorem accept_ne_disabled (t : MemoryTier) (now : Instant) (e : CacheEntry) :
    (t.accept now e).1 ≠ .disabled := by
  rw [accept_answer]
  split <;> exact nofun

theorem set_of_stopped (h : t.IsPressed) (hstopped : t.enabled = false) {now : Instant}
    {key value : String} {ttl : Option Duration}
    (hclock : (t.set now key value ttl).1 ≠ .beyondClock) :
    (t.limits.reenableBelow ≤ (t.remove key).bytesUsed →
      t.set now key value ttl = (.disabled, t.remove key)) ∧
    ((t.remove key).bytesUsed < t.limits.reenableBelow →
      (t.set now key value ttl).1 ≠ .disabled ∧ (t.set now key value ttl).2.enabled = true) := by
  obtain ⟨expiresAt, hexpiry, -⟩ := MemoryOperation.exists_after?_of_set hclock
  have hremoved := (remove_relieves h key).enabled_iff hstopped
  constructor
  · intro hmark
    rw [set_eq h hexpiry, if_neg (mt hremoved.mp (Nat.not_lt.mpr hmark))]
  · intro hlow
    refine ⟨?_, (MemoryOperation.set_resumes h hexpiry hstopped).mpr hlow⟩
    rw [set_eq h hexpiry, if_pos (hremoved.mpr hlow)]
    exact accept_ne_disabled _ now _

theorem switches (h : t.IsPressed) (hkeys : (t.entries.map (·.key)).Nodup) : t.Switches where
  pressed := h
  stops henabled now op := op.perform_stops h now henabled
  resumes hstopped now op := op.perform_resumes h now hstopped
  stopped hstopped later := stopped_iff h hstopped later
  values hstopped _ _ _ _ hclock := set_of_stopped h hstopped hclock
  reads _ _ e he hlive := (get_eq_some_iff hkeys).mpr ⟨e, he, rfl, rfl, hlive⟩

end MemoryTier

/-- **When the cache takes entries.** After any operations a cache that has stopped has the mark in
use. It stops where a value is rejected with the mark in use and nowhere else, and goes on with the
first operation that brings the bytes in use below the mark or drops everything. Until then it
refuses new values, and what it holds can be read. -/
theorem hysteresis_exact (config : MemoryConfig) (ops : List (Instant × MemoryOperation)) :
    let t := MemoryTier.after (.ofConfig config) ops
    t.limits = .ofConfig config ∧ t.Switches := by
  obtain ⟨haccount, hlimits⟩ := MemoryTier.after_wellAccounted (.ofConfig config) ops
  exact ⟨hlimits, MemoryTier.switches (MemoryTier.after_isPressed _ ops) haccount.account.keys⟩

/-- A cache of ten bytes that drives nothing out. -/
def rigidCache : MemoryConfig :=
  { MemoryConfig.default with maxBytes := 10, evictionAllowance := .zero }

/-- A value for a second, and one for which there is no room. -/
def rigidRun : List (Instant × MemoryOperation) := [
  (⟨0⟩, .set "a" "nine less" (some (.ofSeconds 1))),
  (⟨1⟩, .set "b" "rows" none)]

theorem hysteresis_exact_rigid :
    let t := MemoryTier.after (.ofConfig rigidCache) rigidRun
    t.enabled = false ∧ (t.set ⟨2⟩ "b" "rows" none).1 = .disabled ∧
      (t.get ⟨2⟩ "a").1 = some "nine less" ∧
      ((MemoryOperation.set "a" "" none).perform ⟨2⟩ t).enabled = true := by
  intro t
  have hswitches : t.Switches := (hysteresis_exact rigidCache rigidRun).2
  have hstopped : t.enabled = false := by decide +kernel
  have hrefused := (hswitches.values hstopped ⟨2⟩ "b" "rows" none (by decide +kernel)).1
    (by decide +kernel)
  refine ⟨hstopped, congrArg Prod.fst hrefused, ?_, ?_⟩
  · exact hswitches.reads hstopped ⟨2⟩ ⟨"a", "nine less", 10, ⟨1000000000⟩⟩ (by decide +kernel)
      (by decide)
  · exact (hswitches.resumes hstopped ⟨2⟩ _).mpr (.inr (by decide +kernel))

/-! ## What is in use where a value is refused -/

/-- The bytes of entries. -/
def costOf (entries : List CacheEntry) : Nat := (entries.map CacheEntry.cost).sum

/-- The bytes of the entries that have not expired. -/
def liveBytes (now : Instant) (entries : List CacheEntry) : Nat :=
  costOf (entries.filter fun e => decide (now.nanos < e.expiresAt.nanos))

namespace MemoryTier

variable {t : MemoryTier}

/-- What has not expired stays. -/
theorem purgeExpired_entries (h : (t.entries.map (·.key)).Nodup) (now : Instant) :
    (t.purgeExpired now).2.entries =
      t.entries.filter fun e => decide (now.nanos < e.expiresAt.nanos) := by
  rw [purgeExpired, removeAll_entries]
  refine List.filter_congr fun e he => ?_
  have hgone : e.key ∈ t.expiredKeys now ↔ e.expiresAt.nanos ≤ now.nanos := by
    rw [expiredKeys, List.mem_map]
    constructor
    · rintro ⟨d, hd, hkey⟩
      rw [List.mem_filter, decide_eq_true_iff] at hd
      rw [← eq_of_key_eq h hd.1 he hkey]
      exact hd.2
    · exact fun hexpired => ⟨e, List.mem_filter.mpr ⟨he, decide_eq_true hexpired⟩, rfl⟩
  by_cases hexpired : e.expiresAt.nanos ≤ now.nanos
  · simp [hgone.mpr hexpired, hexpired]
  · simp [mt hgone.mp hexpired, Nat.not_le.mp hexpired]

/-- A new value is refused by a cache that has stopped and has the mark in use even without what
the value replaces. -/
theorem set_eq_disabled_iff (h : t.IsPressed) {now : Instant} {key value : String}
    {ttl : Option Duration} :
    (t.set now key value ttl).1 = .disabled ↔
      (now.after? (ttl.getD t.limits.defaultTtl)).isSome ∧ t.enabled = false ∧
        t.limits.reenableBelow ≤ (t.remove key).bytesUsed := by
  cases hexpiry : now.after? (ttl.getD t.limits.defaultTtl) with
  | none => simp [set_beyondClock hexpiry]
  | some expiresAt =>
    have hremoved := (remove_relieves h key).enabled
    rw [set_eq h hexpiry]
    cases henabled : (t.remove key).enabled with
    | true =>
      rw [henabled, eq_comm, Bool.or_eq_true, decide_eq_true_iff] at hremoved
      have hgoes : t.enabled = false → ¬t.limits.reenableBelow ≤ (t.remove key).bytesUsed := by
        intro hstopped
        rw [hstopped] at hremoved
        simpa using hremoved
      simpa [accept_ne_disabled] using hgoes
    | false =>
      rw [henabled, eq_comm, Bool.or_eq_false_iff, decide_eq_false_iff_not, Nat.not_lt] at hremoved
      simpa using hremoved

theorem remove_bytesUsed_eq (h : Accounted t.entries t.bytesUsed) (key : String) :
    (t.remove key).bytesUsed = costOf (t.entries.filter (·.key != key)) := by
  rw [← remove_entries]
  exact (remove_account h key).2.bytes

/-- An entry is rejected among others that are live. -/
theorem live_of_rejected (h : (t.entries.map (·.key)).Nodup) {now : Instant} {e : CacheEntry}
    (hrejected : (t.accept now e).1 = .rejected) :
    ∀ d ∈ (t.accept now e).2.entries, now.nanos < d.expiresAt.nanos := by
  have hfull : (t.makeRoom now e.size).isFull e.size = true := by
    rw [accept_answer] at hrejected
    by_contra hroom
    rw [if_neg hroom] at hrejected
    cases hrejected
  -- There was no room at first either, so what had expired has been dropped.
  have hfirst : t.isFull e.size = true := by
    have hle := makeRoom_bytesUsed_le t now e.size
    rw [isFull, decide_eq_true_iff, makeRoom_limits] at hfull
    rw [isFull, decide_eq_true_iff]
    omega
  intro d hd
  rw [accept_eq] at hd
  simp only [hfull, if_true] at hd
  have hpurged := evict_subset _ e.size d hd
  rw [purgeIfFull, if_pos hfirst, purgeExpired_entries h, List.mem_filter] at hpurged
  exact of_decide_eq_true hpurged.2

theorem liveBytes_eq (h : Accounted t.entries t.bytesUsed) {now : Instant}
    (hlive : ∀ e ∈ t.entries, now.nanos < e.expiresAt.nanos) :
    liveBytes now t.entries = t.bytesUsed := by
  rw [liveBytes, List.filter_eq_self.mpr fun e he => decide_eq_true (hlive e he)]
  exact h.bytes.symm

/-- A cache stops with live entries that have the mark in use. -/
theorem mark_le_liveBytes_of_stops (h : t.WellAccounted) (hpressed : t.IsPressed) {now : Instant}
    {key value : String} {ttl : Option Duration} (henabled : t.enabled = true)
    (hstopped : (t.set now key value ttl).2.enabled = false) :
    t.limits.reenableBelow ≤ liveBytes now (t.set now key value ttl).2.entries := by
  obtain ⟨hrejected, hmark⟩ :=
    (MemoryOperation.set_stops hpressed now key value ttl henabled).mp hstopped
  have haccount := (set_wellAccounted h now key value ttl).2.account
  rw [liveBytes_eq haccount]
  · exact hmark
  · cases hexpiry : now.after? (ttl.getD t.limits.defaultTtl) with
    | none => simp [set_beyondClock hexpiry] at hrejected
    | some expiresAt =>
      have hleft := (remove_relieves hpressed key).enabled_of_enabled henabled
      have hkeys := (remove_wellAccounted h key).2.account.keys
      rw [set_eq hpressed hexpiry, if_pos hleft] at hrejected ⊢
      exact live_of_rejected hkeys hrejected

end MemoryTier

/-- **What is in use where a new value is refused.** After any operations a cache stops only with
live entries that have the mark in use. From then on it refuses a value exactly if the entries under
other keys have the mark in use, whether they have expired or not. Where what has expired is dropped
before, live entries have the mark in use. -/
theorem refused_under_load (config : MemoryConfig) (ops : List (Instant × MemoryOperation))
    (now : Instant) (key value : String) (ttl : Option Duration) :
    let t := MemoryTier.after (.ofConfig config) ops
    let mark := (MemoryLimits.ofConfig config).reenableBelow
    let others := t.entries.filter (·.key != key)
    ((t.set now key value ttl).1 = .disabled ↔
      (now.after? (ttl.getD config.defaultTtl)).isSome ∧ t.enabled = false ∧
        mark ≤ costOf others) ∧
    (((t.purgeExpired now).2.set now key value ttl).1 = .disabled → mark ≤ liveBytes now others) ∧
    (t.enabled = true → (t.set now key value ttl).2.enabled = false →
      mark ≤ liveBytes now (t.set now key value ttl).2.entries) := by
  intro t mark others
  obtain ⟨haccount, hlimits⟩ := MemoryTier.after_wellAccounted (.ofConfig config) ops
  have hpressed : t.IsPressed := MemoryTier.after_isPressed _ ops
  have hmark : t.limits.reenableBelow = mark := by rw [hlimits]
  have hspan : t.limits.defaultTtl = config.defaultTtl := by rw [hlimits]; rfl
  refine ⟨?_, fun hrefused => ?_, fun henabled hstopped => ?_⟩
  · rw [MemoryTier.set_eq_disabled_iff hpressed, MemoryTier.remove_bytesUsed_eq haccount.account,
      hmark, hspan]
  · have hpurged := MemoryTier.removeAll_relieves hpressed (t.expiredKeys now)
    have hleft := (MemoryTier.removeAll_wellAccounted haccount (t.expiredKeys now)).2
    obtain ⟨-, -, hle⟩ := (MemoryTier.set_eq_disabled_iff hpurged.isPressed).mp hrefused
    rw [MemoryTier.remove_bytesUsed_eq hleft.account, hpurged.limits, hmark] at hle
    have hentries := MemoryTier.purgeExpired_entries haccount.account.keys now
    rw [liveBytes, List.filter_comm, ← hentries]
    exact hle
  · rw [← hmark]
    exact MemoryTier.mark_le_liveBytes_of_stops haccount hpressed henabled hstopped

theorem refused_under_load_rigid :
    let t := MemoryTier.after (.ofConfig rigidCache) rigidRun
    let others := t.entries.filter (·.key != "b")
    (t.set ⟨2⟩ "b" "rows" none).1 = .disabled ∧
      ((t.purgeExpired ⟨2⟩).2.set ⟨2⟩ "b" "rows" none).1 = .disabled ∧
      (MemoryLimits.ofConfig rigidCache).reenableBelow ≤ liveBytes ⟨2⟩ others := by
  intro t others
  obtain ⟨hrefused, hpurged, -⟩ := refused_under_load rigidCache rigidRun ⟨2⟩ "b" "rows" none
  have hdisabled : ((t.purgeExpired ⟨2⟩).2.set ⟨2⟩ "b" "rows" none).1 = .disabled := by
    decide +kernel
  exact ⟨hrefused.mpr (by decide +kernel), hdisabled, hpurged hdisabled⟩

/-- What has expired keeps a value out on its own: a second later, nothing live is held. -/
theorem refused_by_expired :
    let t := MemoryTier.after (.ofConfig rigidCache) rigidRun
    (t.set (.mk 2500000000) "b" "rows" none).1 = .disabled ∧
      liveBytes (.mk 2500000000) (t.entries.filter (·.key != "b")) <
        (MemoryLimits.ofConfig rigidCache).reenableBelow := by
  decide +kernel

end TableQuery
