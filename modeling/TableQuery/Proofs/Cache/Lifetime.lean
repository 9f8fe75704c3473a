import Mathlib.Data.List.Induction
import TableQuery.Proofs.Cache.Accounting
import TableQuery.Proofs.Cache.Glob
import TableQuery.Proofs.Cache.Tiered

/-!
# How long values are found

A value is put into memory and into the shared cache, each time with an end of its own. What a
lookup finds in the shared cache only, it copies into memory for the usual time of memory, whatever
time the value has left; so a copy may outlive the value that it was made of.

* `ExpiringTier`: a shared cache that forgets each value when its time is over.
* `CacheOperation`, `TieredCache.run`: runs of both caches.
* `Leaves`: what an operation may leave in the caches, with one lemma for each operation.
* `Traced`: where the values in the caches come from, after any run.
* `get_within_lifetime`: how old a value can be that is found.
* `get_outlives_lifetime`: a value that is found after its time.
-/

namespace TableQuery

/-- The span is made of whole seconds, and of one at least. -/
def Duration.IsWhole (d : Duration) : Prop := 1 ≤ d.seconds ∧ d = .ofSeconds d.seconds

instance (d : Duration) : Decidable d.IsWhole := inferInstanceAs (Decidable (_ ∧ _))

/-! ## Shared caches that forget -/

/-- A shared cache that nobody else writes to. It tells ends in whole seconds, and a value is not
found from its end on. -/
class ExpiringTier (ρ : Type) [DistributedTier ρ] where
  /-- A value may be found under a key until its end. -/
  Keeps : ρ → String → String → Instant → Prop
  get_value : ∀ {r : ρ} {now key value}, (DistributedTier.get now key r).1 = .ok (some value) →
    ∃ ending, Keeps r key value ending ∧ now.nanos < ending.nanos
  get_keeps : ∀ {r : ρ} {now key k v ending},
    Keeps (DistributedTier.get now key r).2 k v ending → Keeps r k v ending
  setEx_keeps : ∀ {r : ρ} {now key value} {ttl : Duration} {k v ending}, ttl.IsWhole →
    Keeps (DistributedTier.setEx now key value ttl r).2 k v ending → Keeps r k v ending ∨
      k = key ∧ v = value ∧ ending.nanos = now.nanos + ttl.nanos
  del_keeps : ∀ {r : ρ} {now keys k v ending},
    Keeps (DistributedTier.del now keys r).2 k v ending → Keeps r k v ending
  keys_keeps : ∀ {r : ρ} {now pattern k v ending},
    Keeps (DistributedTier.keys now pattern r).2 k v ending → Keeps r k v ending

theorem DistributedTier.Drains.keeps {ρ : Type} [DistributedTier ρ] [ExpiringTier ρ] {r s : ρ}
    {k v : String} {ending : Instant} (h : Drains r s) (hs : ExpiringTier.Keeps s k v ending) :
    ExpiringTier.Keeps r k v ending := by
  induction h with
  | refl => exact hs
  | get now key _ ih => exact ih (ExpiringTier.get_keeps hs)
  | del now keys _ ih => exact ih (ExpiringTier.del_keeps hs)
  | keys now pattern _ ih => exact ih (ExpiringTier.keys_keeps hs)

/-- A value in a table, and its end. -/
structure TimedEntry where
  key : String
  value : String
  ending : Instant
deriving DecidableEq, Repr

/-- Entries at hand that are forgotten at their end. -/
structure TimedTier where
  entries : List TimedEntry
deriving DecidableEq, Repr

namespace TimedTier

/-- No entries. -/
def empty : TimedTier := ⟨[]⟩

/-- The entries that have not come to their end. -/
def live (t : TimedTier) (now : Instant) : List TimedEntry :=
  t.entries.filter fun e => decide (now.nanos < e.ending.nanos)

/-- The table without a key. -/
def erase (t : TimedTier) (keys : List String) : TimedTier :=
  ⟨t.entries.filter fun e => !keys.contains e.key⟩

/-- Entries live for whole seconds, and for one at least. -/
instance : DistributedTier TimedTier where
  get now key t := (.ok (((t.live now).find? (·.key == key)).map (·.value)), t)
  setEx now key value ttl t :=
    let ending : Instant := ⟨now.nanos + (Duration.ofSeconds (max ttl.seconds 1)).nanos⟩
    (.ok (), ⟨(t.erase [key]).entries ++ [⟨key, value, ending⟩]⟩)
  del now keys t := (.ok ((t.live now).countP fun e => keys.contains e.key), t.erase keys)
  keys now pattern t := (.ok (((t.live now).map (·.key)).filter (globMatches pattern)), t)
  isConnected _ := true

theorem mem_erase {t : TimedTier} {keys : List String} {e : TimedEntry}
    (h : e ∈ (t.erase keys).entries) : e ∈ t.entries := (List.mem_filter.mp h).1

instance : ExpiringTier TimedTier where
  Keeps t key value ending := ⟨key, value, ending⟩ ∈ t.entries
  get_value {t now key value} h := by
    have h : ((t.live now).find? (·.key == key)).map (·.value) = some value := Except.ok.inj h
    obtain ⟨e, hfind, rfl⟩ := Option.map_eq_some_iff.mp h
    obtain ⟨he, hlive⟩ := List.mem_filter.mp (List.mem_of_find?_eq_some hfind)
    have hkey : e.key = key := by simpa using List.find?_some hfind
    exact ⟨e.ending, hkey ▸ he, by simpa using hlive⟩
  get_keeps h := h
  setEx_keeps {t now key value ttl k v ending} hwhole h := by
    rcases List.mem_append.mp h with h | h
    · exact .inl (mem_erase h)
    · cases List.mem_singleton.mp h
      refine .inr ⟨rfl, rfl, ?_⟩
      rw [Nat.max_eq_left hwhole.1, ← hwhole.2]
  del_keeps h := mem_erase h
  keys_keeps h := h

end TimedTier

/-! ## Runs -/

/-- What can be done with both caches. -/
inductive CacheOperation where
  | get (key : String)
  /-- A lookup of a value with a form; `accepts` tells the texts that have it. -/
  | getDecoded (accepts : String → Bool) (key : String)
  | set (key value : String) (ttl : Option Duration)
  | delete (key : String)
  | invalidate (id : String)
  | clearAll
  | purgeExpired
  | resetStats
  | close

namespace CacheOperation

/-- The caches after an operation. -/
def perform {ρ : Type} [DistributedTier ρ] (now : Instant) :
    CacheOperation → TieredCache ρ → TieredCache ρ
  | get key, c => ((TieredCache.get now key).exec c).2
  | getDecoded accepts key, c =>
    ((TieredCache.getDecoded (Option.guard accepts) now key).exec c).2
  | set key value ttl, c => ((TieredCache.set now key value ttl).exec c).2
  | delete key, c => (c.delete now key).2
  | invalidate id, c => (c.invalidate now id).2
  | clearAll, c => c.clearAll now
  | purgeExpired, c => (c.purgeExpired now).2
  | resetStats, c => c.resetStats now
  | close, c => c.close

/-- The key that is looked up. -/
def lookedUp? : CacheOperation → Option String
  | get key | getDecoded _ key => some key
  | _ => none

/-- A span that is given is made of whole seconds. -/
def IsWhole : CacheOperation → Prop
  | set _ _ (some ttl) => ttl.IsWhole
  | _ => True

instance : (op : CacheOperation) → Decidable op.IsWhole
  | set _ _ (some ttl) => inferInstanceAs (Decidable ttl.IsWhole)
  | set _ _ none | get _ | getDecoded _ _ | delete _ | invalidate _ | clearAll | purgeExpired
  | resetStats | close => isTrue trivial

end CacheOperation

namespace TieredCache

/-- The caches after operations at some times. -/
def run {ρ : Type} [DistributedTier ρ] (c : TieredCache ρ)
    (ops : List (Instant × CacheOperation)) : TieredCache ρ :=
  ops.foldl (fun c op => op.2.perform op.1 c) c

theorem run_append {ρ : Type} [DistributedTier ρ] (c : TieredCache ρ)
    (ops : List (Instant × CacheOperation)) (now : Instant) (op : CacheOperation) :
    c.run (ops ++ [(now, op)]) = op.perform now (c.run ops) := by
  simp [run]

variable {ρ : Type} [DistributedTier ρ] [ExpiringTier ρ]

/-! ### What an operation leaves -/

/-- A lookup copies a value from the shared cache into memory, for the usual time. -/
def Copies (c : TieredCache ρ) (now : Instant) (op : CacheOperation) (e : CacheEntry) : Prop :=
  op.lookedUp? = some e.key ∧ (c.lookInMemory now e.key).1 = none ∧
    ((get now e.key).exec c).1 = .ok (some e.value) ∧
    e.expiresAt.nanos = now.nanos + c.memory.limits.defaultTtl.nanos ∧
    ∃ ending, ExpiringTier.Keeps c.shared e.key e.value ending ∧ now.nanos < ending.nanos

/-- What an operation leaves has been there, has been put there by it, or has been copied. -/
structure Leaves (now : Instant) (op : CacheOperation) (c d : TieredCache ρ) : Prop where
  limits : d.memory.limits = c.memory.limits
  sharedTtl : d.sharedTtl = c.sharedTtl
  memory : ∀ e ∈ d.memory.entries, e ∈ c.memory.entries ∨
    (∃ ttl, op = .set e.key e.value ttl ∧
      e.expiresAt.nanos = now.nanos + (ttl.getD c.memory.limits.defaultTtl).nanos) ∨
    c.Copies now op e
  shared : ∀ k v ending, ExpiringTier.Keeps d.shared k v ending →
    ExpiringTier.Keeps c.shared k v ending ∨
      ∃ ttl, op = .set k v ttl ∧ ending.nanos = now.nanos + (ttl.getD c.sharedTtl).nanos

/-- Nothing new is left where nothing is put. -/
theorem Reduces.leaves {c d : TieredCache ρ} (h : c.Reduces d) (now : Instant)
    (op : CacheOperation) : Leaves now op c d :=
  ⟨h.limits, h.sharedTtl, fun e he => .inl (h.memory e he), fun _ _ _ hv => .inl (h.shared.keeps hv)⟩

theorem Leaves.reduces {now : Instant} {op : CacheOperation} {c d e : TieredCache ρ}
    (h : Leaves now op c d) (h' : d.Reduces e) : Leaves now op c e :=
  ⟨h'.limits.trans h.limits, h'.sharedTtl.trans h.sharedTtl,
    fun entry he => h.memory entry (h'.memory entry he),
    fun k v ending hv => h.shared k v ending (h'.shared.keeps hv)⟩

theorem close_leaves (now : Instant) (c : TieredCache ρ) : Leaves now .close c c.close :=
  ⟨rfl, rfl, nofun, fun _ _ _ hv => .inl hv⟩

theorem get_leaves (now : Instant) (key : String) {op : CacheOperation}
    (hop : op.lookedUp? = some key) (c : TieredCache ρ) :
    Leaves now op c ((get now key).exec c).2 := by
  have hlook := c.lookInMemory_reduces now key
  rcases c.get_cases now key with
    ⟨-, hget⟩ | ⟨-, value, -, hget⟩ | ⟨-, -, hget⟩ | ⟨-, hnone, -, hget⟩
  · rw [hget]
    exact (Reduces.refl c).leaves now op
  · rw [hget]
    exact hlook.leaves now op
  · rw [hget]
    exact (hlook.trans (countMiss_reduces _)).leaves now op
  · have hask := hlook.trans ((c.lookInMemory now key).2.askShared_reduces now key)
    obtain ⟨memory, counters, hstate, hlimits⟩ := settle_state now key
      ((c.lookInMemory now key).2.askShared now key).1 ((c.lookInMemory now key).2.askShared now key).2
    refine ⟨?_, ?_, fun e he => ?_, fun k v ending hv => ?_⟩
    · rw [hget, hstate]
      exact hlimits.trans hask.limits
    · rw [hget, hstate]
      exact hask.sharedTtl
    · rw [hget] at he
      rcases settle_memory now key _ _ e he with he | ⟨hkey, hanswer, hresult, hexpiry⟩
      · exact .inl (hask.memory e he)
      · obtain ⟨ending, hkeeps, hlive⟩ := ExpiringTier.get_value hanswer
        rw [← hkey] at hop hkeeps hnone
        refine .inr (.inr ⟨hop, hnone, ?_, hexpiry.trans (by rw [hask.limits]), ending, hkeeps, hlive⟩)
        rw [hkey, hget]
        exact hresult
    · rw [hget, settle_shared] at hv
      exact .inl (hask.shared.keeps hv)

theorem getDecoded_leaves (now : Instant) (accepts : String → Bool) (key : String)
    (c : TieredCache ρ) : Leaves now (.getDecoded accepts key) c
      ((getDecoded (Option.guard accepts) now key).exec c).2 := by
  have hget : Leaves now (.getDecoded accepts key) c ((get now key).exec c).2 :=
    c.get_leaves now key rfl
  rcases c.getDecoded_state (Option.guard accepts) now key with hstate | hstate
  · rw [hstate]
    exact hget
  · rw [hstate]
    exact hget.reduces (delete_reduces now _ key)

theorem putInMemory_leaves (now : Instant) (key value : String) (ttl : Option Duration)
    (c : TieredCache ρ) : Leaves now (.set key value ttl) c (c.putInMemory now key value ttl).2 := by
  rw [putInMemory_state]
  refine ⟨(MemoryOperation.set key value ttl).perform_limits now c.memory, rfl, fun e he => ?_,
    fun _ _ _ hv => .inl hv⟩
  rcases c.memory.set_cases now key value ttl with hsame | ⟨-, hentries⟩
  · rw [hsame] at he
    exact .inl he
  · rcases hentries e he with ⟨he, -⟩ | ⟨rfl, rfl, hexpiry⟩
    · exact .inl he
    · exact .inr (.inl ⟨ttl, rfl, hexpiry⟩)

theorem putShared_leaves (now : Instant) (key value : String) (ttl : Option Duration)
    {c : TieredCache ρ} (hwhole : (ttl.getD c.sharedTtl).IsWhole) :
    Leaves now (.set key value ttl) c (c.putShared now key value (ttl.getD c.sharedTtl)).2 ∧
      (c.putShared now key value (ttl.getD c.sharedTtl)).2.memory = c.memory := by
  obtain ⟨counters, hstate⟩ := c.putShared_state now key value (ttl.getD c.sharedTtl)
  rw [hstate]
  refine ⟨⟨rfl, rfl, fun _ he => .inl he, fun k v ending hv => ?_⟩, rfl⟩
  rcases ExpiringTier.setEx_keeps hwhole hv with hv | ⟨rfl, rfl, hending⟩
  · exact .inl hv
  · exact .inr ⟨ttl, rfl, hending⟩

theorem set_leaves (now : Instant) (key value : String) (ttl : Option Duration)
    {c : TieredCache ρ} (hwhole : (ttl.getD c.sharedTtl).IsWhole) :
    Leaves now (.set key value ttl) c ((set now key value ttl).exec c).2 := by
  unfold set
  rw [Action.exec_make]
  split
  · simp only
    split
    · -- The shared cache comes first; it does nothing to memory.
      obtain ⟨hshared, hsame⟩ := putShared_leaves now key value ttl hwhole
      have hmemory := putInMemory_leaves now key value ttl
        (c.putShared now key value (ttl.getD c.sharedTtl)).2
      refine ⟨hmemory.limits.trans hshared.limits, hmemory.sharedTtl.trans hshared.sharedTtl,
        fun e he => ?_, fun k v ending hv => ?_⟩
      · rw [putInMemory_state, hsame] at he
        exact (putInMemory_leaves now key value ttl c).memory e (by rwa [putInMemory_state])
      · rw [putInMemory_state] at hv
        exact hshared.shared k v ending hv
    · exact putInMemory_leaves now key value ttl c
  · exact (Reduces.refl c).leaves now _

end TieredCache

open TieredCache in
/-- Every operation leaves what has been there, what it puts there, and copies. -/
theorem CacheOperation.perform_leaves {ρ : Type} [DistributedTier ρ] [ExpiringTier ρ]
    {op : CacheOperation} (hop : op.IsWhole) {c : TieredCache ρ} (hc : c.sharedTtl.IsWhole)
    (now : Instant) : Leaves now op c (op.perform now c) := by
  cases op with
  | get key => exact c.get_leaves now key rfl
  | getDecoded accepts key => exact c.getDecoded_leaves now accepts key
  | set key value ttl =>
    cases ttl with
    | none => exact set_leaves now key value none hc
    | some ttl => exact set_leaves now key value (some ttl) hop
  | delete key => exact (c.delete_reduces now key).leaves now _
  | invalidate id => exact (c.invalidate_reduces now id).leaves now _
  | clearAll => exact (c.clearAll_reduces now).leaves now _
  | purgeExpired => exact (c.purgeExpired_reduces now).leaves now _
  | resetStats => exact (c.resetStats_reduces now).leaves now _
  | close => exact c.close_leaves now

/-! ## Where values come from -/

namespace TieredCache

variable {ρ : Type} [DistributedTier ρ]

/-- How long a value is kept at most: for the span that is given, or else for the longer one of the
usual times of memory and of the shared cache. -/
def lifetime (c : TieredCache ρ) (ttl : Option Duration) : Duration :=
  ttl.getD ⟨max c.memory.limits.defaultTtl.nanos c.sharedTtl.nanos⟩

omit [DistributedTier ρ] in
theorem memory_le_lifetime (c : TieredCache ρ) (time : Instant) (ttl : Option Duration) :
    time.nanos + (ttl.getD c.memory.limits.defaultTtl).nanos ≤
      time.nanos + (c.lifetime ttl).nanos := by
  cases ttl with
  | none => exact Nat.add_le_add_left (Nat.le_max_left _ _) _
  | some ttl => exact Nat.le_refl _

omit [DistributedTier ρ] in
theorem shared_le_lifetime (c : TieredCache ρ) (time : Instant) (ttl : Option Duration) :
    time.nanos + (ttl.getD c.sharedTtl).nanos ≤ time.nanos + (c.lifetime ttl).nanos := by
  cases ttl with
  | none => exact Nat.add_le_add_left (Nat.le_max_right _ _) _
  | some ttl => exact Nat.le_refl _

/-- A lookup among the operations that found nothing in memory has given a value to its caller,
within the time for which an operation before it put the value into the shared cache. -/
def CopiedAt (c : TieredCache ρ) (ops : List (Instant × CacheOperation)) (key value : String)
    (copied : Instant) : Prop :=
  ∃ before op rest, ops = before ++ (copied, op) :: rest ∧ op.lookedUp? = some key ∧
    ((c.run before).lookInMemory copied key).1 = none ∧
    ((get copied key).exec (c.run before)).1 = .ok (some value) ∧
    ∃ time ttl, (time, .set key value ttl) ∈ before ∧
      copied.nanos < time.nanos + (ttl.getD c.sharedTtl).nanos

theorem CopiedAt.append {c : TieredCache ρ} {ops : List (Instant × CacheOperation)}
    {key value : String} {copied : Instant} (h : c.CopiedAt ops key value copied)
    (more : List (Instant × CacheOperation)) : c.CopiedAt (ops ++ more) key value copied := by
  obtain ⟨before, op, rest, rfl, hfound⟩ := h
  exact ⟨before, op, rest ++ more, by simp, hfound⟩

variable [ExpiringTier ρ]

/-- Every value in the caches after some operations was put there by one of them, or it is in memory
and a copy. -/
structure Traced (c : TieredCache ρ) (ops : List (Instant × CacheOperation)) : Prop where
  limits : (c.run ops).memory.limits = c.memory.limits
  sharedTtl : (c.run ops).sharedTtl = c.sharedTtl
  memory : ∀ e ∈ (c.run ops).memory.entries,
    (∃ time ttl, (time, .set e.key e.value ttl) ∈ ops ∧
      e.expiresAt.nanos = time.nanos + (ttl.getD c.memory.limits.defaultTtl).nanos) ∨
    ∃ copied, c.CopiedAt ops e.key e.value copied ∧
      e.expiresAt.nanos = copied.nanos + c.memory.limits.defaultTtl.nanos
  shared : ∀ k v ending, ExpiringTier.Keeps (c.run ops).shared k v ending →
    ∃ time ttl, (time, .set k v ttl) ∈ ops ∧
      ending.nanos = time.nanos + (ttl.getD c.sharedTtl).nanos

variable {c : TieredCache ρ}

theorem traced_nil (hmemory : c.memory.entries = [])
    (hshared : ∀ k v ending, ¬ExpiringTier.Keeps c.shared k v ending) : c.Traced [] where
  limits := rfl
  sharedTtl := rfl
  memory e he := by
    have he : e ∈ c.memory.entries := he
    rw [hmemory] at he
    cases he
  shared k v ending hv := absurd hv (hshared k v ending)

/-- One operation more. -/
theorem Traced.append {ops : List (Instant × CacheOperation)} (h : c.Traced ops) {now : Instant}
    {op : CacheOperation} (hleaves : Leaves now op (c.run ops) (op.perform now (c.run ops))) :
    c.Traced (ops ++ [(now, op)]) := by
  have hmem : ∀ {step}, step ∈ ops → step ∈ ops ++ [(now, op)] := List.mem_append_left _
  have hlast : (now, op) ∈ ops ++ [(now, op)] := List.mem_append_right _ List.mem_cons_self
  constructor
  · rw [run_append, hleaves.limits, h.limits]
  · rw [run_append, hleaves.sharedTtl, h.sharedTtl]
  · intro e he
    rw [run_append] at he
    rcases hleaves.memory e he with he | ⟨ttl, rfl, hexpiry⟩ | ⟨hop, hnone, hresult, hexpiry, hkept⟩
    · rcases h.memory e he with ⟨time, ttl, hin, hexpiry⟩ | ⟨copied, hcopied, hexpiry⟩
      · exact .inl ⟨time, ttl, hmem hin, hexpiry⟩
      · exact .inr ⟨copied, hcopied.append _, hexpiry⟩
    · rw [h.limits] at hexpiry
      exact .inl ⟨now, ttl, hlast, hexpiry⟩
    · rw [h.limits] at hexpiry
      obtain ⟨ending, hkeeps, hlive⟩ := hkept
      obtain ⟨time, ttl, hin, hending⟩ := h.shared e.key e.value ending hkeeps
      rw [hending] at hlive
      exact .inr ⟨now, ⟨ops, op, [], rfl, hop, hnone, hresult, time, ttl, hin, hlive⟩, hexpiry⟩
  · intro k v ending hv
    rw [run_append] at hv
    rcases hleaves.shared k v ending hv with hv | ⟨ttl, rfl, hending⟩
    · obtain ⟨time, ttl, hin, hending⟩ := h.shared k v ending hv
      exact ⟨time, ttl, hmem hin, hending⟩
    · rw [h.sharedTtl] at hending
      exact ⟨now, ttl, hlast, hending⟩

/-- A run of operations on empty caches. -/
theorem traced_run (hmemory : c.memory.entries = [])
    (hshared : ∀ k v ending, ¬ExpiringTier.Keeps c.shared k v ending) (httl : c.sharedTtl.IsWhole)
    (ops : List (Instant × CacheOperation)) (hops : ∀ op ∈ ops, op.2.IsWhole) : c.Traced ops := by
  induction ops using List.reverseRecOn with
  | nil => exact traced_nil hmemory hshared
  | append_singleton ops last ih =>
    obtain ⟨now, op⟩ := last
    rw [List.forall_mem_append, List.forall_mem_singleton] at hops
    have htraced := ih hops.1
    refine htraced.append (CacheOperation.perform_leaves hops.2 ?_ now)
    rw [htraced.sharedTtl]
    exact httl

end TieredCache

/-! ## How old values can be -/

open TieredCache

/-- After operations on empty caches, what a lookup finds under a key was put there within its
lifetime, or it is the copy of a value that an earlier lookup has found in the shared cache within
the time for which it was kept there; then it is found for as long as memory usually keeps values,
counted from that lookup. -/
theorem get_within_lifetime {ρ : Type} [DistributedTier ρ] [ExpiringTier ρ] (config : CacheConfig)
    (begun : Instant) (shared : ρ) (attached : Bool)
    (hshared : ∀ k v ending, ¬ExpiringTier.Keeps shared k v ending)
    (httl : config.distributed.ttl.IsWhole) (ops : List (Instant × CacheOperation))
    (hops : ∀ op ∈ ops, op.2.IsWhole) (now : Instant) {key value : String} :
    let c := TieredCache.make config begun shared attached
    ((TieredCache.get now key).exec (c.run ops)).1 = .ok (some value) →
      (∃ time ttl, (time, .set key value ttl) ∈ ops ∧
        now.nanos < time.nanos + (c.lifetime ttl).nanos) ∨
      ∃ copied, c.CopiedAt ops key value copied ∧
        now.nanos < copied.nanos + config.memory.defaultTtl.nanos := by
  intro c hget
  have htraced : c.Traced ops := traced_run rfl hshared httl ops hops
  rcases (c.run ops).get_cases now key with
    ⟨-, hresult⟩ | ⟨-, found, hlook, hresult⟩ | ⟨-, -, hresult⟩ | ⟨-, -, -, hresult⟩
  · rw [hresult] at hget
    cases hget
  · rw [hresult] at hget
    cases hget
    obtain ⟨e, he, rfl, rfl, hlive⟩ := MemoryTier.mem_of_get hlook
    rcases htraced.memory e he with ⟨time, ttl, hin, hexpiry⟩ | ⟨copied, hcopied, hexpiry⟩
    · rw [hexpiry] at hlive
      exact .inl ⟨time, ttl, hin, hlive.trans_le (c.memory_le_lifetime time ttl)⟩
    · rw [hexpiry] at hlive
      exact .inr ⟨copied, hcopied, hlive⟩
  · rw [hresult] at hget
    cases hget
  · rw [hresult] at hget
    obtain ⟨ending, hkeeps, hlive⟩ := ExpiringTier.get_value (settle_answer hget)
    obtain ⟨time, ttl, hin, hending⟩ := htraced.shared key value ending hkeeps
    rw [hending] at hlive
    exact .inl ⟨time, ttl, hin, hlive.trans_le (c.shared_le_lifetime time ttl)⟩

/-! ### A crowded memory -/

/-- Memory has room for eight bytes, and any entry may drive out all others. -/
def crowdedCache : CacheConfig :=
  { CacheConfig.default with
    memory := { MemoryConfig.default with maxBytes := 8, evictionAllowance := .ofNat 1 } }

/-- A value for one second is driven out of memory by another, and a lookup copies it back. -/
def crowdedRun : List (Instant × CacheOperation) := [
  (⟨0⟩, .set "a" "v" (some (.ofSeconds 1))),
  (⟨1000000⟩, .set "b" "wwwwwww" none),
  (⟨2000000⟩, .get "a")]

theorem crowdedRun_isWhole : ∀ op ∈ crowdedRun, op.2.IsWhole := by decide

theorem crowdedRun_set {time : Instant} {ttl : Option Duration}
    (h : (time, .set "a" "v" ttl) ∈ crowdedRun) : time = ⟨0⟩ ∧ ttl = some (.ofSeconds 1) := by
  simpa [crowdedRun] using h

theorem get_within_lifetime_crowded :
    let c := TieredCache.make crowdedCache ⟨0⟩ TimedTier.empty true
    (∀ k v ending, ¬ExpiringTier.Keeps TimedTier.empty k v ending) ∧
      crowdedCache.distributed.ttl.IsWhole ∧ (∀ op ∈ crowdedRun, op.2.IsWhole) ∧
      ((TieredCache.get ⟨2502000000⟩ "a").exec (c.run crowdedRun)).1 = .ok (some "v") ∧
      ∃ copied, c.CopiedAt crowdedRun "a" "v" copied ∧
        2502000000 < copied.nanos + crowdedCache.memory.defaultTtl.nanos := by
  intro c
  have hempty : ∀ k v ending, ¬ExpiringTier.Keeps TimedTier.empty k v ending :=
    fun _ _ _ h => nomatch h
  have httl : crowdedCache.distributed.ttl.IsWhole := by decide
  have hget : ((TieredCache.get ⟨2502000000⟩ "a").exec (c.run crowdedRun)).1 = .ok (some "v") := by
    decide +kernel
  refine ⟨hempty, httl, crowdedRun_isWhole, hget, ?_⟩
  rcases get_within_lifetime crowdedCache ⟨0⟩ TimedTier.empty true hempty httl crowdedRun
    crowdedRun_isWhole ⟨2502000000⟩ hget with ⟨time, ttl, hin, hlive⟩ | hcopied
  · obtain ⟨rfl, rfl⟩ := crowdedRun_set hin
    exact absurd hlive (by decide +kernel)
  · exact hcopied

/-- A value is found although its lifetime has passed: the copy in memory has an end of its own. -/
theorem get_outlives_lifetime :
    ¬∀ (config : CacheConfig) (begun : Instant) (ops : List (Instant × CacheOperation))
      (now : Instant) (key value : String),
      let c := TieredCache.make config begun TimedTier.empty true
      config.distributed.ttl.IsWhole → (∀ op ∈ ops, op.2.IsWhole) →
        (ops.map (·.1.nanos) ++ [now.nanos]).Pairwise (· ≤ ·) →
        ((TieredCache.get now key).exec (c.run ops)).1 = .ok (some value) →
          ∃ time ttl, (time, .set key value ttl) ∈ ops ∧
            now.nanos < time.nanos + (c.lifetime ttl).nanos := by
  intro h
  obtain ⟨time, ttl, hin, hlive⟩ := h crowdedCache ⟨0⟩ crowdedRun ⟨2502000000⟩ "a" "v" (by decide)
    crowdedRun_isWhole (by decide) (by decide +kernel)
  obtain ⟨rfl, rfl⟩ := crowdedRun_set hin
  exact absurd hlive (by decide +kernel)

end TableQuery
