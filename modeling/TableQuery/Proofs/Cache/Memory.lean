import TableQuery.Cache.Memory

/-!
# What the cache in memory holds

The entries that each operation leaves, whatever the cache held before.

* `remove_entries`, `removeAll_entries`, `removeStart_entries`: what stays when keys are dropped.
* `evictFrom_eq_drop`: what is driven out stands before what stays.
* `get_spec`, `set_cases`: lookups add nothing, and a new entry is all that is added.
-/

namespace TableQuery

namespace MemoryTier

theorem mem_of_find? {t : MemoryTier} {key : String} {e : CacheEntry} (h : t.find? key = some e) :
    e ∈ t.entries ∧ e.key = key :=
  ⟨List.mem_of_find?_eq_some h, by simpa using List.find?_some h⟩

/-! ## Fewer entries -/

theorem filter_of_find?_eq_none {t : MemoryTier} {key : String} (h : t.find? key = none) :
    t.entries.filter (·.key != key) = t.entries := by
  rw [List.filter_eq_self]
  intro e he
  simpa using List.find?_eq_none.mp h e he

/-- The entries with other keys stay when a key is dropped. -/
theorem remove_entries (t : MemoryTier) (key : String) :
    (t.remove key).entries = t.entries.filter (·.key != key) := by
  unfold remove
  split
  · rename_i h
    exact (filter_of_find?_eq_none h).symm
  · rfl

theorem mem_remove {t : MemoryTier} {key : String} {e : CacheEntry} :
    e ∈ (t.remove key).entries ↔ e ∈ t.entries ∧ e.key ≠ key := by
  rw [remove_entries, List.mem_filter, bne_iff_ne]

@[simp] theorem remove_limits (t : MemoryTier) (key : String) :
    (t.remove key).limits = t.limits := by
  unfold remove
  split <;> rfl

theorem removeAll_entries (t : MemoryTier) (keys : List String) :
    (t.removeAll keys).entries = t.entries.filter fun e => !keys.contains e.key := by
  induction keys generalizing t with
  | nil => exact (List.filter_eq_self.mpr fun e _ => rfl).symm
  | cons key rest ih =>
    have hrest := ih (t.remove key)
    rw [remove_entries, List.filter_filter] at hrest
    rw [show t.removeAll (key :: rest) = (t.remove key).removeAll rest from rfl, hrest]
    refine List.filter_congr fun e _ => ?_
    rw [List.contains_cons, Bool.not_or, Bool.and_comm]
    rfl

@[simp] theorem removeAll_limits (t : MemoryTier) (keys : List String) :
    (t.removeAll keys).limits = t.limits := by
  induction keys generalizing t with
  | nil => rfl
  | cons key rest ih => exact (ih (t.remove key)).trans (remove_limits t key)

/-- The entries under other keys stay when the keys are dropped that begin with a text. -/
theorem removeStart_entries (t : MemoryTier) (start : String) :
    (t.removeStart start).2.entries = t.entries.filter fun e => !beginsWith start e.key := by
  refine (removeAll_entries t _).trans (List.filter_congr fun e he => ?_)
  cases hstart : beginsWith start e.key with
  | true =>
    have hmem : e.key ∈ (t.entries.filter fun e => beginsWith start e.key).map (·.key) :=
      List.mem_map_of_mem (List.mem_filter.mpr ⟨he, hstart⟩)
    simpa using hmem
  | false =>
    have hmem : e.key ∉ (t.entries.filter fun e => beginsWith start e.key).map (·.key) := by
      intro hkey
      obtain ⟨d, hd, hkey⟩ := List.mem_map.mp hkey
      have hstart' := (List.mem_filter.mp hd).2
      rw [hkey, hstart] at hstart'
      cases hstart'
    simpa using hmem

theorem mem_removeStart {t : MemoryTier} {start : String} {e : CacheEntry} :
    e ∈ (t.removeStart start).2.entries ↔ e ∈ t.entries ∧ beginsWith start e.key = false := by
  rw [removeStart_entries, List.mem_filter, Bool.not_eq_true']

theorem purgeExpired_subset (t : MemoryTier) (now : Instant) :
    ∀ e ∈ (t.purgeExpired now).2.entries, e ∈ t.entries := by
  intro e he
  rw [purgeExpired, removeAll_entries] at he
  exact (List.mem_filter.mp he).1

/-- What is driven out stands before what stays. -/
theorem evictFrom_eq_drop (limits : MemoryLimits) (size : Nat) (entries : List CacheEntry)
    (bytes freed : Nat) :
    (evictFrom limits size entries bytes freed).1 =
      entries.drop (evictFrom limits size entries bytes freed).2.2 := by
  induction entries generalizing bytes freed with
  | nil => rfl
  | cons e rest ih =>
    unfold evictFrom
    split
    · exact ih (bytes - e.size) (freed + e.size)
    · rfl

theorem evict_entries (t : MemoryTier) (size : Nat) :
    (t.evict size).entries =
      t.entries.drop (evictFrom t.limits size t.entries t.bytesUsed 0).2.2 :=
  evictFrom_eq_drop t.limits size t.entries t.bytesUsed 0

theorem evict_subset (t : MemoryTier) (size : Nat) :
    ∀ e ∈ (t.evict size).entries, e ∈ t.entries := by
  intro e he
  rw [evict_entries] at he
  exact List.mem_of_mem_drop he

/-! ## Lookups -/

/-- What a lookup gives is held under the key by an entry that has not expired. -/
theorem mem_of_get {t : MemoryTier} {now : Instant} {key value : String}
    (h : (t.get now key).1 = some value) :
    ∃ e ∈ t.entries, e.key = key ∧ e.value = value ∧ now.nanos < e.expiresAt.nanos := by
  unfold get at h
  split at h
  · cases h
  · rename_i e hfind
    obtain ⟨he, hkey⟩ := mem_of_find? hfind
    split at h
    · rename_i hlive
      exact ⟨e, he, hkey, Option.some.inj h, hlive⟩
    · cases h

/-- A lookup gives what an entry holds under the key and adds no entry. -/
theorem get_spec (t : MemoryTier) (now : Instant) (key : String) :
    (∀ value, (t.get now key).1 = some value → ∃ e ∈ t.entries, e.key = key ∧ e.value = value) ∧
      ∀ e ∈ (t.get now key).2.entries, e ∈ t.entries := by
  constructor
  · intro value h
    obtain ⟨e, he, hkey, hvalue, -⟩ := mem_of_get h
    exact ⟨e, he, hkey, hvalue⟩
  · unfold get
    split
    · exact fun _ he => he
    · rename_i e h
      obtain ⟨he, -⟩ := mem_of_find? h
      split
      · intro d hd
        rcases List.mem_append.mp hd with hd | hd
        · exact (List.mem_filter.mp hd).1
        · rw [List.mem_singleton.mp hd]
          exact he
      · exact fun d hd => (mem_remove.mp hd).1

/-! ## New entries -/

/-- A full cache without what has expired. -/
def purgeIfFull (t : MemoryTier) (now : Instant) (size : Nat) : MemoryTier :=
  if t.isFull size then (t.purgeExpired now).2 else t

/-- The cache with room for so many bytes, as far as that could be made. -/
def makeRoom (t : MemoryTier) (now : Instant) (size : Nat) : MemoryTier :=
  (t.purgeIfFull now size).evict size

theorem accept_eq (t : MemoryTier) (now : Instant) (e : CacheEntry) :
    t.accept now e =
      let room := t.makeRoom now e.size
      if room.isFull e.size then
        (.rejected,
          { room with enabled := room.enabled && decide (room.bytesUsed < room.limits.reenableBelow) })
      else
        (.stored, { room with entries := room.entries ++ [e], bytesUsed := room.bytesUsed + e.size }) :=
  rfl

theorem makeRoom_subset (t : MemoryTier) (now : Instant) (size : Nat) :
    ∀ e ∈ (t.makeRoom now size).entries, e ∈ t.entries := by
  intro e he
  have he := evict_subset _ size e he
  unfold purgeIfFull at he
  split at he
  · exact purgeExpired_subset t now e he
  · exact he

theorem accept_ne_beyondClock (t : MemoryTier) (now : Instant) (e : CacheEntry) :
    (t.accept now e).1 ≠ .beyondClock := by
  rw [accept_eq]
  simp only
  split <;> exact nofun

/-- An entry is accepted among those that stay, or it is not. -/
theorem accept_spec (t : MemoryTier) (now : Instant) (e : CacheEntry) :
    ∀ d ∈ (t.accept now e).2.entries, d ∈ t.entries ∨ d = e := by
  intro d hd
  rw [accept_eq] at hd
  simp only at hd
  split at hd
  · exact .inl (makeRoom_subset t now e.size d hd)
  · rcases List.mem_append.mp hd with hd | hd
    · exact .inl (makeRoom_subset t now e.size d hd)
    · exact .inr (List.mem_singleton.mp hd)

/-- A new value is all that is added, with the end that its span leads to, and whatever else stays
is under other keys. Where the clock cannot tell that end, nothing changes. -/
theorem set_cases (t : MemoryTier) (now : Instant) (key value : String) (ttl : Option Duration) :
    t.set now key value ttl = (.beyondClock, t) ∨
      (t.set now key value ttl).1 ≠ .beyondClock ∧
        ∀ e ∈ (t.set now key value ttl).2.entries, e ∈ t.entries ∧ e.key ≠ key ∨
          e.key = key ∧ e.value = value ∧
            e.expiresAt.nanos = now.nanos + (ttl.getD t.limits.defaultTtl).nanos := by
  unfold set
  cases hexpiry : now.after? (ttl.getD t.limits.defaultTtl) with
  | none => exact .inl rfl
  | some expiresAt =>
    have hnanos : expiresAt.nanos = now.nanos + (ttl.getD t.limits.defaultTtl).nanos := by
      simp only [Instant.after?, Option.ite_none_right_eq_some, Option.some.injEq] at hexpiry
      rw [← hexpiry.2]
    right
    simp only
    split
    · exact ⟨nofun, fun e he => .inl (mem_remove.mp he)⟩
    · refine ⟨accept_ne_beyondClock _ _ _, fun e he => ?_⟩
      rcases accept_spec _ _ _ e he with he | rfl
      · exact .inl (mem_remove.mp he)
      · exact .inr ⟨rfl, rfl, hnanos⟩

/-- A new value is all that is added. -/
theorem set_spec (t : MemoryTier) (now : Instant) (key value : String) (ttl : Option Duration) :
    ∀ e ∈ (t.set now key value ttl).2.entries, e ∈ t.entries ∨ e.key = key ∧ e.value = value := by
  intro e he
  rcases t.set_cases now key value ttl with hsame | ⟨-, hentries⟩
  · rw [hsame] at he
    exact .inl he
  · rcases hentries e he with ⟨he, -⟩ | ⟨hkey, hvalue, -⟩
    · exact .inl he
    · exact .inr ⟨hkey, hvalue⟩

end MemoryTier

end TableQuery
