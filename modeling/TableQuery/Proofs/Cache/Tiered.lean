import TableQuery.Cache.Tiered
import TableQuery.Dataset.Table
import TableQuery.Proofs.Cache.Accounting
import TableQuery.Proofs.Result

/-!
# What both caches hold

Values get into the caches by `set` only, and once the pages of a dataset are dropped neither
cache has one of them, provided that the shared cache lists its keys and drops them.

* `TieredCache.Reduces`: nothing is put into the caches, whatever a shared cache does. One lemma for
  each operation that puts nothing.
* `LawfulTier`: what is expected of a shared cache. Lookups and new values may fail.
* `ListsStart`: the starts of keys that it lists in full, plain ones among them.
* `TieredCache.Holds`: a value that one of the caches may have under a key.
* `getDecoded_spec`, `set_spec`, `invalidate_spec`: what the operations leave of it.
-/

namespace TableQuery

/-! ## Nothing new -/

/-- What is left of a shared cache by commands that put nothing into it. -/
inductive DistributedTier.Drains {ρ : Type} [DistributedTier ρ] (r : ρ) : ρ → Prop where
  | refl : Drains r r
  | get {s : ρ} (now : Instant) (key : String) :
    Drains r s → Drains r (DistributedTier.get now key s).2
  | del {s : ρ} (now : Instant) (keys : List String) :
    Drains r s → Drains r (DistributedTier.del now keys s).2
  | keys {s : ρ} (now : Instant) (pattern : String) :
    Drains r s → Drains r (DistributedTier.keys now pattern s).2

theorem DistributedTier.Drains.trans {ρ : Type} [DistributedTier ρ] {r s t : ρ} (h : Drains r s)
    (h' : Drains s t) : Drains r t := by
  induction h' with
  | refl => exact h
  | get now key _ ih => exact ih.get now key
  | del now keys _ ih => exact ih.del now keys
  | keys now pattern _ ih => exact ih.keys now pattern

namespace TieredCache

variable {ρ : Type} [DistributedTier ρ]

/-- The caches after an operation that puts nothing into either of them. -/
structure Reduces (c d : TieredCache ρ) : Prop where
  enabled : d.enabled = c.enabled
  keyPrefix : d.keyPrefix = c.keyPrefix
  attached : d.attached = c.attached
  sharedTtl : d.sharedTtl = c.sharedTtl
  limits : d.memory.limits = c.memory.limits
  memory : ∀ e ∈ d.memory.entries, e ∈ c.memory.entries
  shared : DistributedTier.Drains c.shared d.shared

namespace Reduces

theorem refl (c : TieredCache ρ) : c.Reduces c := ⟨rfl, rfl, rfl, rfl, rfl, fun _ h => h, .refl⟩

theorem trans {c d e : TieredCache ρ} (h : c.Reduces d) (h' : d.Reduces e) : c.Reduces e where
  enabled := h'.enabled.trans h.enabled
  keyPrefix := h'.keyPrefix.trans h.keyPrefix
  attached := h'.attached.trans h.attached
  sharedTtl := h'.sharedTtl.trans h.sharedTtl
  limits := h'.limits.trans h.limits
  memory e he := h.memory e (h'.memory e he)
  shared := h.shared.trans h'.shared

/-- Only the memory changes, and it has nothing new. -/
theorem of_memory {c : TieredCache ρ} {memory : MemoryTier}
    (hlimits : memory.limits = c.memory.limits) (hmemory : ∀ e ∈ memory.entries, e ∈ c.memory.entries) :
    c.Reduces { c with memory } :=
  ⟨rfl, rfl, rfl, rfl, hlimits, hmemory, .refl⟩

/-- Only the shared cache changes, by commands that put nothing into it. -/
theorem of_shared {c : TieredCache ρ} {shared : ρ} {counters : CacheCounters}
    (h : DistributedTier.Drains c.shared shared) : c.Reduces { c with shared, counters } :=
  ⟨rfl, rfl, rfl, rfl, rfl, fun _ he => he, h⟩

end Reduces

section

variable (now : Instant) (c : TieredCache ρ)

theorem lookInMemory_reduces (key : String) : c.Reduces (c.lookInMemory now key).2 :=
  ⟨rfl, rfl, rfl, rfl, (MemoryOperation.get key).perform_limits now c.memory,
    (c.memory.get_spec now key).2, .refl⟩

theorem askShared_reduces (key : String) : c.Reduces (c.askShared now key).2 :=
  .of_shared (.get now key .refl)

omit now in
theorem countMiss_reduces : c.Reduces c.countMiss := .of_shared .refl

theorem dropShared_state (keys : List String) :
    ∃ counters, (c.dropShared now keys).2 =
      { c with shared := (DistributedTier.del now keys c.shared).2, counters } := by
  unfold dropShared
  cases DistributedTier.del now keys c.shared with
  | mk outcome shared => cases outcome <;> exact ⟨_, rfl⟩

theorem dropShared_reduces (keys : List String) : c.Reduces (c.dropShared now keys).2 := by
  obtain ⟨counters, hstate⟩ := c.dropShared_state now keys
  rw [hstate]
  exact .of_shared (.del now keys .refl)

theorem matchShared_reduces (start : String) : c.Reduces (c.matchShared now start).2 :=
  .of_shared (.keys now (start ++ "*") .refl)

theorem dropSharedStart_reduces (start : String) : c.Reduces (c.dropSharedStart now start).2 := by
  unfold dropSharedStart
  split
  · simp only
    split
    · exact (c.matchShared_reduces now start).trans (dropShared_reduces now _ _)
    · exact (c.matchShared_reduces now start).trans (.of_shared .refl)
  · exact .refl c

theorem delete_reduces (key : String) : c.Reduces (c.delete now key).2 := by
  have hmemory : c.Reduces { c with memory := (c.memory.delete key).2 } :=
    .of_memory (c.memory.remove_limits key) fun _ he => (MemoryTier.mem_remove.mp he).1
  unfold delete
  split
  · simp only
    split
    · exact hmemory.trans (dropShared_reduces now _ _)
    · exact hmemory
  · exact .refl c

omit now in
theorem dropInMemory_reduces (start : String) : c.Reduces (c.dropInMemory start).2 :=
  .of_memory (c.memory.removeAll_limits _) fun _ he => (MemoryTier.mem_removeStart.mp he).1

theorem invalidate_reduces (id : String) : c.Reduces (c.invalidate now id).2 := by
  unfold invalidate
  split
  · exact (c.dropInMemory_reduces _).trans (dropSharedStart_reduces now _ _)
  · exact .refl c

theorem clearAll_reduces : c.Reduces (c.clearAll now) := by
  have hclear : c.Reduces { c with memory := c.memory.clear } := .of_memory rfl nofun
  unfold clearAll
  simp only
  split
  · exact hclear.trans (dropSharedStart_reduces now _ _)
  · exact hclear

theorem purgeExpired_reduces : c.Reduces (c.purgeExpired now).2 :=
  .of_memory (c.memory.removeAll_limits _) (c.memory.purgeExpired_subset now)

theorem resetStats_reduces : c.Reduces (c.resetStats now) :=
  ⟨rfl, rfl, rfl, rfl, rfl, fun _ h => h, .refl⟩

end

end TieredCache

/-! ## Shared caches -/

/-- Characters that have a meaning in the patterns of a shared cache. -/
def globCharacters : List Char := ['*', '?', '[', ']', '\\']

/-- A text that stands for itself in patterns. -/
def IsPlainPattern (text : String) : Prop := ∀ c ∈ text.toList, c ∉ globCharacters

instance (text : String) : Decidable (IsPlainPattern text) :=
  decidable_of_iff (text.toList.all (!globCharacters.contains ·) = true) (by simp [IsPlainPattern])

theorem isPlainPattern_of_isDatasetId {id : String} (hid : isDatasetId id = true) :
    IsPlainPattern id := by
  intro c hc hglob
  unfold isDatasetId at hid
  rw [Bool.and_eq_true] at hid
  have hdigit := List.all_eq_true.mp hid.2 c hc
  have hnone : globCharacters.all (!isHexDigit ·) = true := by decide
  have hc := List.all_eq_true.mp hnone c hglob
  rw [hdigit] at hc
  cases hc

theorem IsPlainPattern.keyNamespace {start id : String} (hstart : IsPlainPattern start)
    (hid : IsPlainPattern id) : IsPlainPattern (keyNamespace start id) := by
  intro c hc
  unfold TableQuery.keyNamespace at hc
  rw [String.toList_append, String.toList_append, List.mem_append, List.mem_append] at hc
  rcases hc with (hc | hc) | hc
  · exact hstart c hc
  · exact hid c hc
  · cases List.mem_singleton.mp hc
    decide

theorem isPlainPattern_keyNamespace {start id : String} (hstart : IsPlainPattern start)
    (hid : isDatasetId id = true) : IsPlainPattern (keyNamespace start id) :=
  hstart.keyNamespace (isPlainPattern_of_isDatasetId hid)

/-- A shared cache that nobody else writes to. While it `Answers`, keys can be listed and
dropped; the other commands may fail at any time, and any command may lose values that have
expired. -/
class LawfulTier (ρ : Type) [DistributedTier ρ] where
  /-- A value that may be found under a key. -/
  Holds : ρ → String → String → Prop
  /-- From now on keys are listed and dropped without fail. -/
  Answers : ρ → Prop
  get_value : ∀ {r : ρ} {now key value}, (DistributedTier.get now key r).1 = .ok (some value) →
    Holds r key value
  get_holds : ∀ {r : ρ} {now key k v}, Holds (DistributedTier.get now key r).2 k v → Holds r k v
  get_answers : ∀ {r : ρ} {now key}, Answers r → Answers (DistributedTier.get now key r).2
  setEx_holds : ∀ {r : ρ} {now key value ttl k v},
    Holds (DistributedTier.setEx now key value ttl r).2 k v → Holds r k v ∨ k = key ∧ v = value
  setEx_answers : ∀ {r : ρ} {now key value ttl}, Answers r →
    Answers (DistributedTier.setEx now key value ttl r).2
  del_ok : ∀ {r : ρ} {now keys}, Answers r →
    ∃ n, (DistributedTier.del now keys r).1 = .ok n ∧
      ∀ k ∈ keys, ∀ v, ¬Holds (DistributedTier.del now keys r).2 k v
  del_holds : ∀ {r : ρ} {now keys k v}, Holds (DistributedTier.del now keys r).2 k v → Holds r k v
  del_answers : ∀ {r : ρ} {now keys}, Answers r → Answers (DistributedTier.del now keys r).2
  keys_ok : ∀ {r : ρ} {now start}, Answers r → IsPlainPattern start →
    ∃ found, (DistributedTier.keys now (start ++ "*") r).1 = .ok found ∧
      ∀ k v, Holds (DistributedTier.keys now (start ++ "*") r).2 k v → beginsWith start k = true →
        k ∈ found
  keys_holds : ∀ {r : ρ} {now pattern k v},
    Holds (DistributedTier.keys now pattern r).2 k v → Holds r k v
  keys_answers : ∀ {r : ρ} {now pattern}, Answers r →
    Answers (DistributedTier.keys now pattern r).2

/-- A shared cache that is asked for the keys with a start lists them all. -/
def ListsStart (ρ : Type) [DistributedTier ρ] [LawfulTier ρ] (start : String) : Prop :=
  ∀ (r : ρ) (now : Instant), LawfulTier.Answers r →
    ∃ found, (DistributedTier.keys now (start ++ "*") r).1 = .ok found ∧
      ∀ k v, LawfulTier.Holds (DistributedTier.keys now (start ++ "*") r).2 k v →
        beginsWith start k = true → k ∈ found

theorem IsPlainPattern.listsStart {ρ : Type} [DistributedTier ρ] [LawfulTier ρ] {start : String}
    (h : IsPlainPattern start) : ListsStart ρ start :=
  fun _ _ hanswers => LawfulTier.keys_ok hanswers h

namespace DistributedTier.Drains

variable {ρ : Type} [DistributedTier ρ] [LawfulTier ρ] {r s : ρ}

theorem answers (h : Drains r s) (hr : LawfulTier.Answers r) : LawfulTier.Answers s := by
  induction h with
  | refl => exact hr
  | get now key _ ih => exact LawfulTier.get_answers ih
  | del now keys _ ih => exact LawfulTier.del_answers ih
  | keys now pattern _ ih => exact LawfulTier.keys_answers ih

theorem holds {k v : String} (h : Drains r s) (hs : LawfulTier.Holds s k v) :
    LawfulTier.Holds r k v := by
  induction h with
  | refl => exact hs
  | get now key _ ih => exact ih (LawfulTier.get_holds hs)
  | del now keys _ ih => exact ih (LawfulTier.del_holds hs)
  | keys now pattern _ ih => exact ih (LawfulTier.keys_holds hs)

end DistributedTier.Drains

namespace TieredCache

variable {ρ : Type} [DistributedTier ρ] [LawfulTier ρ]

/-- A value that one of the caches may have under a key. -/
def Holds (c : TieredCache ρ) (key value : String) : Prop :=
  (∃ e ∈ c.memory.entries, e.key = key ∧ e.value = value) ∨
    c.attached = true ∧ LawfulTier.Holds c.shared key value

/-- A shared cache that is in use lists its keys and drops them. -/
def Answers (c : TieredCache ρ) : Prop := c.attached = true → LawfulTier.Answers c.shared

/-- Neither cache has a page of the dataset. -/
def Lacks (c : TieredCache ρ) (id : String) : Prop :=
  ∀ page limit filter value, ¬c.Holds (c.keyFor id page limit filter) value

/-- The caches after an operation are used as before. -/
structure Follows (c d : TieredCache ρ) : Prop where
  enabled : d.enabled = c.enabled
  keyPrefix : d.keyPrefix = c.keyPrefix
  attached : d.attached = c.attached
  answers : c.Answers → d.Answers

namespace Follows

theorem refl (c : TieredCache ρ) : c.Follows c := ⟨rfl, rfl, rfl, id⟩

theorem trans {c d e : TieredCache ρ} (h : c.Follows d) (h' : d.Follows e) : c.Follows e :=
  ⟨h'.enabled.trans h.enabled, h'.keyPrefix.trans h.keyPrefix, h'.attached.trans h.attached,
    h'.answers ∘ h.answers⟩

end Follows

/-- The caches after an operation are used as before and hold nothing new. -/
structure Shrinks (c d : TieredCache ρ) : Prop extends c.Follows d where
  holds : ∀ k v, d.Holds k v → c.Holds k v

namespace Shrinks

theorem refl (c : TieredCache ρ) : c.Shrinks c := ⟨.refl c, fun _ _ h => h⟩

theorem trans {c d e : TieredCache ρ} (h : c.Shrinks d) (h' : d.Shrinks e) : c.Shrinks e :=
  ⟨h.toFollows.trans h'.toFollows, fun k v hv => h.holds k v (h'.holds k v hv)⟩

end Shrinks

/-- Nothing new is held where nothing is put. -/
theorem Reduces.shrinks {c d : TieredCache ρ} (h : c.Reduces d) : c.Shrinks d := by
  refine ⟨⟨h.enabled, h.keyPrefix, h.attached, fun hc hin => ?_⟩, fun k v hv => ?_⟩
  · exact h.shared.answers (hc (h.attached ▸ hin))
  · rcases hv with ⟨e, he, hkey⟩ | ⟨hin, hv⟩
    · exact .inl ⟨e, h.memory e he, hkey⟩
    · exact .inr ⟨h.attached ▸ hin, h.shared.holds hv⟩

/-! ## Lookups -/

omit [DistributedTier ρ] [LawfulTier ρ] in
theorem putInMemory_state (now : Instant) (key value : String) (ttl : Option Duration)
    (c : TieredCache ρ) :
    (c.putInMemory now key value ttl).2 =
      { c with memory := (c.memory.set now key value ttl).2 } := by
  unfold putInMemory
  cases c.memory.set now key value ttl with
  | mk admission memory => cases admission <;> rfl

omit [DistributedTier ρ] [LawfulTier ρ] in
/-- A lookup ends with a value of the shared cache in memory, or with nothing. -/
theorem settle_cases (now : Instant) (key : String) (answer : Except CacheFault (Option String))
    (c : TieredCache ρ) :
    (∃ value counters, answer = .ok (some value) ∧ (c.settle now key answer).1 ≠ .ok none ∧
      (c.settle now key answer).2 =
        { c with memory := (c.memory.set now key value none).2, counters }) ∨
      (∀ value, answer ≠ .ok (some value)) ∧ ∃ counters,
        c.settle now key answer = (.ok none, { c with counters }) := by
  cases answer with
  | error fault => exact .inr ⟨fun _ h => (nomatch h), _, rfl⟩
  | ok found =>
    cases found with
    | none => exact .inr ⟨fun _ h => (nomatch h), _, rfl⟩
    | some value =>
      refine .inl ⟨value, _, rfl, fun h => ?_, putInMemory_state now key value none _⟩
      obtain ⟨_, -, hnone⟩ := map_eq_ok.mp h
      cases hnone

omit [DistributedTier ρ] [LawfulTier ρ] in
/-- A lookup that ends changes memory and the counters. -/
theorem settle_state (now : Instant) (key : String) (answer : Except CacheFault (Option String))
    (c : TieredCache ρ) : ∃ memory counters,
      (c.settle now key answer).2 = { c with memory, counters } ∧
        memory.limits = c.memory.limits := by
  rcases c.settle_cases now key answer with ⟨value, _, -, -, hstate⟩ | ⟨-, _, hstate⟩
  · exact ⟨_, _, hstate, (MemoryOperation.set key value none).perform_limits now c.memory⟩
  · rw [hstate]
    exact ⟨_, _, rfl, rfl⟩

omit [DistributedTier ρ] [LawfulTier ρ] in
theorem settle_shared (now : Instant) (key : String) (answer : Except CacheFault (Option String))
    (c : TieredCache ρ) : (c.settle now key answer).2.shared = c.shared := by
  obtain ⟨_, _, hstate, -⟩ := c.settle_state now key answer
  rw [hstate]

omit [DistributedTier ρ] [LawfulTier ρ] in
/-- The result of a lookup that has got to the shared cache is the value that this had. -/
theorem settle_answer {now : Instant} {key value : String}
    {answer : Except CacheFault (Option String)} {c : TieredCache ρ}
    (h : (c.settle now key answer).1 = .ok (some value)) : answer = .ok (some value) := by
  unfold settle at h
  split at h
  · obtain ⟨_, -, hvalue⟩ := map_eq_ok.mp h
    rw [hvalue]
  · cases h
  · cases h

omit [DistributedTier ρ] [LawfulTier ρ] in
/-- Memory takes a value or not, where the clock can tell its end. -/
theorem putInMemory_ok {now : Instant} {key value : String} {ttl : Option Duration}
    {c : TieredCache ρ} (h : (c.memory.set now key value ttl).1 ≠ .beyondClock) :
    ∃ taken, (c.putInMemory now key value ttl).1 = .ok taken := by
  unfold putInMemory
  cases hset : c.memory.set now key value ttl with
  | mk admission memory =>
    rw [hset] at h
    cases admission with
    | beyondClock => exact absurd rfl h
    | _ => exact ⟨_, rfl⟩

omit [DistributedTier ρ] [LawfulTier ρ] in
/-- A lookup puts its own result into memory for the usual time, or nothing. -/
theorem settle_memory (now : Instant) (key : String) (answer : Except CacheFault (Option String))
    (c : TieredCache ρ) : ∀ e ∈ (c.settle now key answer).2.memory.entries,
      e ∈ c.memory.entries ∨ e.key = key ∧ answer = .ok (some e.value) ∧
        (c.settle now key answer).1 = .ok (some e.value) ∧
        e.expiresAt.nanos = now.nanos + c.memory.limits.defaultTtl.nanos := by
  intro e he
  rcases c.settle_cases now key answer with
    ⟨value, counters, rfl, -, hstate⟩ | ⟨-, counters, hstate⟩
  · rw [hstate] at he
    rcases c.memory.set_cases now key value none with hsame | ⟨hends, hentries⟩
    · rw [hsame] at he
      exact .inl he
    · rcases hentries e he with ⟨he, -⟩ | ⟨hkey, rfl, hexpiry⟩
      · exact .inl he
      · let counted : TieredCache ρ :=
          { c with counters := { c.counters with sharedHits := c.counters.sharedHits + 1 } }
        obtain ⟨taken, htaken⟩ := @putInMemory_ok _ _ _ _ none counted hends
        refine .inr ⟨hkey, rfl, ?_, hexpiry⟩
        show (counted.putInMemory now key e.value none).1.map _ = _
        rw [htaken]
        rfl
  · rw [hstate] at he
    exact .inl he

omit [LawfulTier ρ] in
/-- A lookup is answered by memory, or the shared cache is asked where there is one. -/
theorem get_cases (now : Instant) (key : String) (c : TieredCache ρ) :
    (c.enabled = false ∧ (get now key).exec c = (.ok none, c)) ∨
      (c.enabled = true ∧ ∃ value, (c.lookInMemory now key).1 = some value ∧
        (get now key).exec c = (.ok (some value), (c.lookInMemory now key).2)) ∨
      (c.enabled = true ∧ c.attached = false ∧
        (get now key).exec c = (.ok none, (c.lookInMemory now key).2.countMiss)) ∨
      c.enabled = true ∧ (c.lookInMemory now key).1 = none ∧ c.attached = true ∧
        (get now key).exec c = ((c.lookInMemory now key).2.askShared now key).2.settle now key
          ((c.lookInMemory now key).2.askShared now key).1 := by
  unfold get
  rw [Action.exec_make]
  cases henabled : c.enabled with
  | false => exact .inl ⟨rfl, rfl⟩
  | true =>
    simp only [if_true]
    cases hfound : (c.lookInMemory now key).1 with
    | some value => exact .inr (.inl ⟨trivial, value, rfl, rfl⟩)
    | none =>
      cases hattached : c.attached with
      | false =>
        have hlooked : (c.lookInMemory now key).2.attached = false := hattached
        exact .inr (.inr (.inl ⟨trivial, rfl, by simp [hlooked]⟩))
      | true =>
        have hlooked : (c.lookInMemory now key).2.attached = true := hattached
        exact .inr (.inr (.inr ⟨trivial, rfl, rfl, by simp [hlooked]⟩))

theorem lookInMemory_spec (now : Instant) (key : String) (c : TieredCache ρ) :
    c.Shrinks (c.lookInMemory now key).2 ∧
      ∀ value, (c.lookInMemory now key).1 = some value → c.Holds key value :=
  ⟨(c.lookInMemory_reduces now key).shrinks,
    fun value h => .inl ((c.memory.get_spec now key).1 value h)⟩

theorem askShared_spec (now : Instant) (key : String) (c : TieredCache ρ) (hin : c.attached = true) :
    c.Shrinks (c.askShared now key).2 ∧
      ∀ value, (c.askShared now key).1 = .ok (some value) → c.Holds key value :=
  ⟨(c.askShared_reduces now key).shrinks, fun _ h => .inr ⟨hin, LawfulTier.get_value h⟩⟩

/-- A value that goes into memory is all that is new. -/
theorem putInMemory_spec (now : Instant) (key value : String) (ttl : Option Duration)
    (c : TieredCache ρ) :
    c.Follows (c.putInMemory now key value ttl).2 ∧
      ∀ k v, (c.putInMemory now key value ttl).2.Holds k v → c.Holds k v ∨ k = key ∧ v = value := by
  rw [putInMemory_state]
  refine ⟨⟨rfl, rfl, rfl, id⟩, fun k v hv => ?_⟩
  rcases hv with ⟨e, he, rfl, rfl⟩ | hv
  · rcases c.memory.set_spec now key value ttl e he with he | he
    · exact .inl (.inl ⟨e, he, rfl, rfl⟩)
    · exact .inr he
  · exact .inl (.inr hv)

/-- What the shared cache had is all that is new in memory, and it is the result. -/
theorem settle_spec (now : Instant) (key : String) (answer : Except CacheFault (Option String))
    (c : TieredCache ρ) :
    c.Follows (c.settle now key answer).2 ∧
      (∀ k v, (c.settle now key answer).2.Holds k v →
        c.Holds k v ∨ k = key ∧ answer = .ok (some v)) ∧
      ∀ value, (c.settle now key answer).1 = .ok (some value) → answer = .ok (some value) := by
  obtain ⟨_, _, hstate, -⟩ := c.settle_state now key answer
  refine ⟨?_, fun k v hv => ?_, fun _ => settle_answer⟩
  · rw [hstate]
    exact ⟨rfl, rfl, rfl, id⟩
  · rcases hv with ⟨e, he, rfl, rfl⟩ | ⟨hin, hv⟩
    · rcases c.settle_memory now key answer e he with he | ⟨hkey, hanswer, -, -⟩
      · exact .inl (.inl ⟨e, he, rfl, rfl⟩)
      · exact .inr ⟨hkey, hanswer⟩
    · rw [hstate] at hin hv
      exact .inl (.inr ⟨hin, hv⟩)

/-- A lookup gives a value that is held and adds none. -/
theorem get_spec (now : Instant) (key : String) (c : TieredCache ρ) :
    c.Shrinks ((get now key).exec c).2 ∧
      ∀ value, ((get now key).exec c).1 = .ok (some value) → c.Holds key value := by
  obtain ⟨hlook, hfound⟩ := c.lookInMemory_spec now key
  rcases c.get_cases now key with
    ⟨-, hget⟩ | ⟨-, found, hin, hget⟩ | ⟨-, -, hget⟩ | ⟨-, -, hattached, hget⟩
  · rw [hget]
    exact ⟨.refl c, nofun⟩
  · rw [hget]
    refine ⟨hlook, fun value h => ?_⟩
    cases h
    exact hfound found hin
  · rw [hget]
    exact ⟨hlook.trans (countMiss_reduces _).shrinks, nofun⟩
  · obtain ⟨hask, hanswer⟩ := (c.lookInMemory now key).2.askShared_spec now key hattached
    obtain ⟨hfollows, hholds, hvalue⟩ := ((c.lookInMemory now key).2.askShared now key).2.settle_spec
      now key ((c.lookInMemory now key).2.askShared now key).1
    have hlooked := hlook.trans hask
    rw [hget]
    refine ⟨⟨hlooked.toFollows.trans hfollows, fun k v hv => ?_⟩, fun value h => ?_⟩
    · rcases hholds k v hv with hv | ⟨rfl, hv⟩
      · exact hlooked.holds k v hv
      · exact hlook.holds k v (hanswer v hv)
    · exact hlook.holds key value (hanswer value (hvalue value h))

/-! ## Values with a form -/

omit [LawfulTier ρ] in
/-- A lookup with a form is a lookup, after which a value that cannot be read is dropped. -/
theorem getDecoded_state {α : Type} (decode : String → Option α) (now : Instant) (key : String)
    (c : TieredCache ρ) :
    ((getDecoded decode now key).exec c).2 = ((get now key).exec c).2 ∨
      ((getDecoded decode now key).exec c).2 = (((get now key).exec c).2.delete now key).2 := by
  unfold getDecoded
  rw [Action.exec_bind]
  cases (get now key).exec c with
  | mk result d =>
    cases result with
    | error fault => exact .inl rfl
    | ok found =>
      cases found with
      | none => exact .inl rfl
      | some text =>
        simp only
        cases decode text with
        | some value => exact .inl rfl
        | none => exact .inr rfl

/-- A lookup with a form gives what is held in it and adds nothing. -/
theorem getDecoded_spec {α : Type} (decode : String → Option α) (now : Instant) (key : String)
    (c : TieredCache ρ) :
    c.Shrinks ((getDecoded decode now key).exec c).2 ∧
      ∀ a, ((getDecoded decode now key).exec c).1 = .ok (some a) →
        ∃ text, c.Holds key text ∧ decode text = some a := by
  obtain ⟨hshrinks, hvalue⟩ := c.get_spec now key
  unfold getDecoded
  rw [Action.exec_bind]
  cases hget : (get now key).exec c with
  | mk result d =>
    rw [hget] at hshrinks hvalue
    cases result with
    | error fault => exact ⟨hshrinks, fun _ h => (nomatch h)⟩
    | ok found =>
      cases found with
      | none => exact ⟨hshrinks, fun _ h => (nomatch h)⟩
      | some text =>
        simp only
        cases hdecode : decode text with
        | some a =>
          refine ⟨hshrinks, fun a' h => ⟨text, hvalue text rfl, ?_⟩⟩
          cases h
          exact hdecode
        | none =>
          simp only
          rw [Action.exec_bind, Action.exec_lift]
          exact ⟨hshrinks.trans (d.delete_reduces now key).shrinks, fun _ h => (nomatch h)⟩

/-! ## New values -/

omit [LawfulTier ρ] in
theorem putShared_state (now : Instant) (key value : String) (ttl : Duration) (c : TieredCache ρ) :
    ∃ counters, (c.putShared now key value ttl).2 =
      { c with shared := (DistributedTier.setEx now key value ttl c.shared).2, counters } := by
  unfold putShared
  cases DistributedTier.setEx now key value ttl c.shared with
  | mk outcome shared => cases outcome <;> exact ⟨_, rfl⟩

theorem putShared_spec (now : Instant) (key value : String) (ttl : Duration) (c : TieredCache ρ) :
    c.Follows (c.putShared now key value ttl).2 ∧
      ∀ k v, (c.putShared now key value ttl).2.Holds k v → c.Holds k v ∨ k = key ∧ v = value := by
  obtain ⟨counters, hstate⟩ := c.putShared_state now key value ttl
  rw [hstate]
  refine ⟨⟨rfl, rfl, rfl, fun h hin => LawfulTier.setEx_answers (h hin)⟩, fun k v hv => ?_⟩
  rcases hv with hv | ⟨hin, hv⟩
  · exact .inl (.inl hv)
  · rcases LawfulTier.setEx_holds hv with hv | hv
    · exact .inl (.inr ⟨hin, hv⟩)
    · exact .inr hv

/-- A new value is all that is new. -/
theorem set_spec (now : Instant) (key value : String) (ttl : Option Duration) (c : TieredCache ρ) :
    c.Follows ((set now key value ttl).exec c).2 ∧
      ∀ k v, ((set now key value ttl).exec c).2.Holds k v → c.Holds k v ∨ k = key ∧ v = value := by
  unfold set
  rw [Action.exec_make]
  by_cases henabled : c.enabled = true
  · simp only [henabled, if_true]
    split
    · obtain ⟨hshared, hsharedHolds⟩ := c.putShared_spec now key value (ttl.getD c.sharedTtl)
      obtain ⟨hmemory, hmemoryHolds⟩ :=
        (c.putShared now key value (ttl.getD c.sharedTtl)).2.putInMemory_spec now key value ttl
      refine ⟨hshared.trans hmemory, fun k v hv => ?_⟩
      rcases hmemoryHolds k v hv with hv | hv
      · exact hsharedHolds k v hv
      · exact .inr hv
    · exact c.putInMemory_spec now key value ttl
  · simp only [henabled]
    exact ⟨.refl c, fun _ _ h => .inl h⟩

/-! ## The pages of a dataset -/

theorem dropInMemory_spec (start : String) (c : TieredCache ρ) :
    c.Shrinks (c.dropInMemory start).2 ∧
      ∀ e ∈ (c.dropInMemory start).2.memory.entries, beginsWith start e.key = false :=
  ⟨(c.dropInMemory_reduces start).shrinks, fun _ he => (MemoryTier.mem_removeStart.mp he).2⟩

omit [LawfulTier ρ] in
theorem dropSharedStart_memory (now : Instant) (start : String) (c : TieredCache ρ) :
    (c.dropSharedStart now start).2.memory = c.memory := by
  unfold dropSharedStart
  split
  · simp only
    cases (c.matchShared now start).1 with
    | error fault => rfl
    | ok keys =>
      obtain ⟨counters, hstate⟩ := (c.matchShared now start).2.dropShared_state now keys
      simp only [hstate]
      rfl
  · rfl

theorem dropSharedStart_spec (now : Instant) (start : String) (c : TieredCache ρ) :
    c.Shrinks (c.dropSharedStart now start).2 ∧
      (c.Answers → ListsStart ρ start → c.attached = true → ∀ k v,
        LawfulTier.Holds (c.dropSharedStart now start).2.shared k v →
          beginsWith start k = false) := by
  refine ⟨(c.dropSharedStart_reduces now start).shrinks, fun hanswers hlists hin k v hv => ?_⟩
  obtain ⟨found, hok, hall⟩ := hlists c.shared now (hanswers hin)
  have hfound : (c.matchShared now start).1 = .ok found := hok
  obtain ⟨counters, hstate⟩ := (c.matchShared now start).2.dropShared_state now found
  unfold dropSharedStart at hv
  rw [if_pos hin] at hv
  simp only [hfound, hstate] at hv
  cases hstart : beginsWith start k with
  | false => rfl
  | true =>
    have hmatched : LawfulTier.Holds (c.matchShared now start).2.shared k v :=
      LawfulTier.del_holds hv
    have hanswers' := @LawfulTier.keys_answers ρ _ _ c.shared now (start ++ "*") (hanswers hin)
    obtain ⟨_, -, hgone⟩ := @LawfulTier.del_ok ρ _ _ _ now found hanswers'
    exact absurd hv (hgone k (hall k v hmatched hstart) v)

/-- Neither cache has a key left that begins with the namespace of a dataset that is dropped. -/
theorem invalidate_spec (now : Instant) (id : String) (c : TieredCache ρ) :
    c.Shrinks (c.invalidate now id).2 ∧
      (c.enabled = true → c.Answers →
        (c.attached = true → ListsStart ρ (keyNamespace c.keyPrefix id)) →
        ∀ k v, (c.invalidate now id).2.Holds k v →
          beginsWith (keyNamespace c.keyPrefix id) k = false) := by
  refine ⟨(c.invalidate_reduces now id).shrinks, fun henabled hanswers hlists k v hv => ?_⟩
  obtain ⟨hmemory, hentries⟩ := c.dropInMemory_spec (keyNamespace c.keyPrefix id)
  obtain ⟨hshared, hgone⟩ := (c.dropInMemory (keyNamespace c.keyPrefix id)).2.dropSharedStart_spec
    now (keyNamespace c.keyPrefix id)
  unfold invalidate at hv
  rw [if_pos henabled] at hv
  rcases hv with ⟨e, he, rfl, -⟩ | ⟨hin, hv⟩
  · simp only [dropSharedStart_memory] at he
    exact hentries e he
  · have hin : (c.dropInMemory (keyNamespace c.keyPrefix id)).2.attached = true :=
      hshared.attached ▸ hin
    exact hgone (hmemory.answers hanswers) (hlists (hmemory.attached ▸ hin)) hin k v hv

end TieredCache

/-! ## Caches that are not in use -/

namespace TieredCache

variable {ρ : Type} [DistributedTier ρ] {c : TieredCache ρ} (h : c.enabled = false)

include h

theorem getDecoded_disabled {α : Type} (decode : String → Option α) (now : Instant) (key : String) :
    (getDecoded decode now key).exec c = (.ok none, c) := by
  unfold getDecoded
  rw [Action.exec_bind]
  unfold get
  rw [Action.exec_make, h]
  rfl

theorem set_disabled (now : Instant) (key value : String) (ttl : Option Duration) :
    (set now key value ttl).exec c = (.ok false, c) := by
  unfold set
  rw [Action.exec_make, h]
  rfl

theorem invalidate_disabled (now : Instant) (id : String) : (c.invalidate now id).2 = c := by
  unfold invalidate
  rw [h]
  rfl

end TieredCache

end TableQuery
