import TableQuery.Proofs.Cache.History
import TableQuery.Proofs.Cache.Invalidation
import TableQuery.Proofs.Cache.Lifetime

/-!
# One history for both caches

Whichever of the two caches a lookup is answered by, it gives the value that was put last under its
key, and nothing that was dropped since. Memory may turn a value away, lose it or let it expire,
and a lookup may copy what the shared cache has over memory; none of this brings an older value back.

* `SteadyTier`: a shared cache whose lookups alone may fail.
* `CacheCall`: the operations of both caches, values with a form among them.
* `CacheCall.ends`: the calls that leave nothing of what was under a key.
* `perform_holds`: what both caches hold after a call, from what they held before it.
* `Coherent`: what both caches hold after any calls was put last.
* `get_last_put`: what lookups give.
* `bracketed_page_answered`: a page that was dropped by a name with brackets is still given.
-/

namespace TableQuery

/-! ## Shared caches that take every value -/

/-- A shared cache that takes new values without fail while it `Answers`. A value that is taken
takes the place of the one before it. -/
class SteadyTier (ρ : Type) [DistributedTier ρ] extends LawfulTier ρ where
  setEx_ok : ∀ {r : ρ} {now key value ttl}, Answers r →
    (DistributedTier.setEx now key value ttl r).1 = .ok ()
  setEx_replaces : ∀ {r : ρ} {now key value ttl v},
    (DistributedTier.setEx now key value ttl r).1 = .ok () →
      Holds (DistributedTier.setEx now key value ttl r).2 key v → v = value

instance : SteadyTier SwitchableTier where
  setEx_ok {t _ key value _} h := by
    have hanswer := t.run_answer fun table => ((), table.insert key value)
    rw [h] at hanswer
    exact hanswer
  setEx_replaces {t _ key value _ v} hok hv := by
    have hanswer := t.run_answer fun table => ((), table.insert key value)
    have hok : (t.run fun table => ((), table.insert key value)).1 = .ok () := hok
    have hv : (t.run fun table => ((), table.insert key value)).2.table.get? key = some v := hv
    rw [hanswer] at hok
    split at hok
    · cases hok
    · rename_i hsteady
      rw [SwitchableTier.run_table, if_neg hsteady, KeyTable.get?_insert, if_pos rfl] at hv
      exact (Option.some.inj hv).symm

/-- A shared cache whose lookups fail at some moments. -/
structure Interrupted (ρ : Type) where
  tier : ρ
  outages : List Instant

namespace Interrupted

variable {ρ : Type} [DistributedTier ρ]

/-- The cache with what a command has made of it. -/
def after {α : Type} (r : Interrupted ρ) (result : α × ρ) : α × Interrupted ρ :=
  (result.1, { r with tier := result.2 })

instance : DistributedTier (Interrupted ρ) where
  get now key r :=
    if r.outages.contains now then (.error .unavailable, r)
    else r.after (DistributedTier.get now key r.tier)
  setEx now key value ttl r := r.after (DistributedTier.setEx now key value ttl r.tier)
  del now keys r := r.after (DistributedTier.del now keys r.tier)
  keys now pattern r := r.after (DistributedTier.keys now pattern r.tier)
  isConnected r := DistributedTier.isConnected r.tier

/-- A lookup fails and does nothing, or it is a lookup in the cache behind. -/
theorem get_cases (now : Instant) (key : String) (r : Interrupted ρ) :
    DistributedTier.get now key r = (.error .unavailable, r) ∨
      DistributedTier.get now key r = r.after (DistributedTier.get now key r.tier) := by
  by_cases h : r.outages.contains now
  · exact .inl (if_pos h)
  · exact .inr (if_neg h)

instance [LawfulTier ρ] : LawfulTier (Interrupted ρ) where
  Holds r key value := LawfulTier.Holds r.tier key value
  Answers r := LawfulTier.Answers r.tier
  get_value {r now key value} h := by
    rcases get_cases now key r with hget | hget
    · rw [hget] at h
      cases h
    · rw [hget] at h
      exact LawfulTier.get_value h
  get_holds {r now key k v} h := by
    rcases get_cases now key r with hget | hget
    · rwa [hget] at h
    · rw [hget] at h
      exact LawfulTier.get_holds h
  get_answers {r now key} h := by
    rcases get_cases now key r with hget | hget
    · rwa [hget]
    · rw [hget]
      exact LawfulTier.get_answers h
  setEx_holds h := LawfulTier.setEx_holds h
  setEx_answers h := LawfulTier.setEx_answers h
  del_ok h := LawfulTier.del_ok h
  del_holds h := LawfulTier.del_holds h
  del_answers h := LawfulTier.del_answers h
  keys_ok h hplain := LawfulTier.keys_ok h hplain
  keys_holds h := LawfulTier.keys_holds h
  keys_answers h := LawfulTier.keys_answers h

instance [SteadyTier ρ] : SteadyTier (Interrupted ρ) where
  setEx_ok {r _ _ _ _} h := SteadyTier.setEx_ok (r := r.tier) h
  setEx_replaces {r _ _ _ _ _} hok h := SteadyTier.setEx_replaces (r := r.tier) hok h

theorem listsStart [LawfulTier ρ] {start : String} (h : ListsStart ρ start) :
    ListsStart (Interrupted ρ) start :=
  fun r now hanswers => h r.tier now hanswers

end Interrupted

/-! ## Calls -/

/-- A call of both caches. -/
inductive CacheCall where
  | operation (op : CacheOperation)
  /-- A new value with a form; `encoded` is the text that it is written as, if it can be written. -/
  | setEncoded (key : String) (encoded : Option String) (ttl : Option Duration)

namespace CacheOperation

/-- The key and the value that an operation puts. -/
def put? : CacheOperation → Option (String × String)
  | set key value _ => some (key, value)
  | _ => none

/-- The operation leaves nothing of what was under the key. A new value does so unless its end is
beyond the clock, where the caller gets no answer. The pages of a dataset are dropped if the shared
cache lists their namespace, as every one does where the name of the dataset is plain. -/
def ends (ρ : Type) [DistributedTier ρ] [LawfulTier ρ] (config : CacheConfig) (now : Instant)
    (key : String) : CacheOperation → Prop
  | set k _ ttl => k = key ∧ (now.after? (ttl.getD config.memory.defaultTtl)).isSome = true
  | delete k => k = key
  | invalidate id =>
    ListsStart ρ (keyNamespace config.keyPrefix id) ∧
      beginsWith (keyNamespace config.keyPrefix id) key = true
  | clearAll => beginsWith config.keyPrefix key = true
  | close => True
  | get _ | getDecoded _ _ | purgeExpired | resetStats => False

end CacheOperation

namespace CacheCall

/-- The operation that a call comes to, if it comes to one. -/
def operation? : CacheCall → Option CacheOperation
  | operation op => some op
  | setEncoded key encoded ttl => encoded.map fun text => .set key text ttl

/-- The caches after a call. -/
def perform {ρ : Type} [DistributedTier ρ] (now : Instant) :
    CacheCall → TieredCache ρ → TieredCache ρ
  | operation op, c => op.perform now c
  | setEncoded key encoded ttl, c => ((TieredCache.setEncoded id now key encoded ttl).exec c).2

/-- The key and the value that a call puts. -/
def put? (call : CacheCall) : Option (String × String) := call.operation?.bind CacheOperation.put?

/-- The call leaves nothing of what was under the key. -/
def ends (ρ : Type) [DistributedTier ρ] [LawfulTier ρ] (config : CacheConfig) (now : Instant)
    (key : String) (call : CacheCall) : Prop :=
  ∃ op, call.operation? = some op ∧ op.ends ρ config now key

/-- A call is the operation that it comes to. -/
theorem perform_eq {ρ : Type} [DistributedTier ρ] (now : Instant) (call : CacheCall)
    (c : TieredCache ρ) : call.perform now c = call.operation?.elim c (·.perform now c) := by
  cases call with
  | operation op => rfl
  | setEncoded key encoded ttl => cases encoded <;> rfl

end CacheCall

/-- Among the calls, the value was put under the key, and none of the calls after it has put another
value there or dropped the key. -/
def LastPut (ρ : Type) [DistributedTier ρ] [LawfulTier ρ] (config : CacheConfig)
    (calls : List (Instant × CacheCall)) (key value : String) : Prop :=
  ∃ before time call rest, calls = before ++ (time, call) :: rest ∧
    call.put? = some (key, value) ∧ ∀ later ∈ rest, ¬later.2.ends ρ config later.1 key

namespace LastPut

variable {ρ : Type} [DistributedTier ρ] [LawfulTier ρ] {config : CacheConfig}
  {calls : List (Instant × CacheCall)} {key value : String} {now : Instant} {call : CacheCall}

theorem of_put (h : call.put? = some (key, value)) :
    LastPut ρ config (calls ++ [(now, call)]) key value :=
  ⟨calls, now, call, [], rfl, h, nofun⟩

theorem append (h : LastPut ρ config calls key value) (hkept : ¬call.ends ρ config now key) :
    LastPut ρ config (calls ++ [(now, call)]) key value := by
  obtain ⟨before, time, put, rest, rfl, hput, hrest⟩ := h
  refine ⟨before, time, put, rest ++ [(now, call)], by simp, hput, ?_⟩
  rw [List.forall_mem_append, List.forall_mem_singleton]
  exact ⟨hrest, hkept⟩

end LastPut

/-! ## What a call leaves -/

namespace MemoryTier

/-- A new value is all that is under its key afterwards, unless its end is beyond the clock. -/
theorem set_replaces (t : MemoryTier) (now : Instant) (key value : String) (ttl : Option Duration) :
    ∀ e ∈ (t.set now key value ttl).2.entries, e.key = key ∧ e.value = value ∨
      e ∈ t.entries ∧
        ¬(key = e.key ∧ (now.after? (ttl.getD t.limits.defaultTtl)).isSome = true) := by
  intro e he
  rcases t.set_cases now key value ttl with hsame | ⟨-, hentries⟩
  · rw [hsame] at he
    refine .inr ⟨he, ?_⟩
    cases hexpiry : now.after? (ttl.getD t.limits.defaultTtl) with
    | none => simp
    | some expiresAt =>
      have hends : (t.set now key value ttl).1 = .beyondClock := by rw [hsame]
      simp only [set, hexpiry] at hends
      split at hends
      · cases hends
      · exact absurd hends (accept_ne_beyondClock _ _ _)
  · rcases hentries e he with ⟨he, hne⟩ | ⟨hkey, hvalue, -⟩
    · exact .inr ⟨he, by simp [Ne.symm hne]⟩
    · exact .inl ⟨hkey, hvalue⟩

end MemoryTier

namespace TieredCache

variable {ρ : Type} [DistributedTier ρ]

/-- The caches after an operation are set up as before, a shared cache that has been let go aside. -/
structure SameSetup (c d : TieredCache ρ) : Prop where
  enabled : d.enabled = c.enabled
  keyPrefix : d.keyPrefix = c.keyPrefix
  limits : d.memory.limits = c.memory.limits

theorem Reduces.sameSetup {c d : TieredCache ρ} (h : c.Reduces d) : c.SameSetup d :=
  ⟨h.enabled, h.keyPrefix, h.limits⟩

omit [DistributedTier ρ] in
theorem SameSetup.trans {c d e : TieredCache ρ} (h : c.SameSetup d) (h' : d.SameSetup e) :
    c.SameSetup e :=
  ⟨h'.enabled.trans h.enabled, h'.keyPrefix.trans h.keyPrefix, h'.limits.trans h.limits⟩

theorem get_sameSetup (now : Instant) (key : String) (c : TieredCache ρ) :
    c.SameSetup ((get now key).exec c).2 := by
  have hlook := c.lookInMemory_reduces now key
  rcases c.get_cases now key with ⟨-, hget⟩ | ⟨-, _, -, hget⟩ | ⟨-, -, hget⟩ | ⟨-, -, -, hget⟩
  · rw [hget]
    exact ⟨rfl, rfl, rfl⟩
  · rw [hget]
    exact hlook.sameSetup
  · rw [hget]
    exact (hlook.trans (countMiss_reduces _)).sameSetup
  · have hask := hlook.trans ((c.lookInMemory now key).2.askShared_reduces now key)
    obtain ⟨memory, counters, hstate, hlimits⟩ := settle_state now key
      ((c.lookInMemory now key).2.askShared now key).1 ((c.lookInMemory now key).2.askShared now key).2
    rw [hget, hstate]
    exact hask.sameSetup.trans ⟨rfl, rfl, hlimits⟩

theorem getDecoded_sameSetup {α : Type} (decode : String → Option α) (now : Instant) (key : String)
    (c : TieredCache ρ) : c.SameSetup ((getDecoded decode now key).exec c).2 := by
  have hget := c.get_sameSetup now key
  rcases c.getDecoded_state decode now key with hstate | hstate
  · rw [hstate]
    exact hget
  · rw [hstate]
    exact hget.trans (delete_reduces now _ key).sameSetup

/-- A new value goes to the shared cache first, where there is one, and then to memory. -/
theorem set_state (now : Instant) (key value : String) (ttl : Option Duration) {c : TieredCache ρ}
    (henabled : c.enabled = true) : ∃ counters,
      ((set now key value ttl).exec c).2 =
        { c with
          shared := if c.attached then
            (DistributedTier.setEx now key value (ttl.getD c.sharedTtl) c.shared).2 else c.shared
          memory := (c.memory.set now key value ttl).2
          counters } := by
  unfold set
  rw [Action.exec_make, if_pos henabled]
  simp only
  split
  · obtain ⟨counters, hshared⟩ := c.putShared_state now key value (ttl.getD c.sharedTtl)
    refine ⟨counters, ?_⟩
    simp only [putInMemory_state, hshared]
  · refine ⟨c.counters, ?_⟩
    simp only [putInMemory_state]

theorem set_sameSetup (now : Instant) (key value : String) (ttl : Option Duration)
    (c : TieredCache ρ) : c.SameSetup ((set now key value ttl).exec c).2 := by
  cases henabled : c.enabled with
  | false =>
    rw [set_disabled henabled]
    exact ⟨rfl, rfl, rfl⟩
  | true =>
    obtain ⟨counters, hstate⟩ := set_state now key value ttl henabled
    rw [hstate]
    exact ⟨rfl, rfl, (MemoryOperation.set key value ttl).perform_limits now c.memory⟩

end TieredCache

open TieredCache

theorem CacheOperation.perform_sameSetup {ρ : Type} [DistributedTier ρ] (now : Instant)
    (op : CacheOperation) (c : TieredCache ρ) : c.SameSetup (op.perform now c) := by
  cases op with
  | get key => exact c.get_sameSetup now key
  | getDecoded accepts key => exact c.getDecoded_sameSetup _ now key
  | set key value ttl => exact c.set_sameSetup now key value ttl
  | delete key => exact (c.delete_reduces now key).sameSetup
  | invalidate id => exact (c.invalidate_reduces now id).sameSetup
  | clearAll => exact (c.clearAll_reduces now).sameSetup
  | purgeExpired => exact (c.purgeExpired_reduces now).sameSetup
  | resetStats => exact (c.resetStats_reduces now).sameSetup
  | close => exact ⟨rfl, rfl, rfl⟩

namespace TieredCache

variable {ρ : Type} [DistributedTier ρ] [SteadyTier ρ] {c : TieredCache ρ}

/-- A new value is all that both caches hold under its key, unless its end is beyond the clock. -/
theorem set_replaces (now : Instant) (key value : String) (ttl : Option Duration)
    (henabled : c.enabled = true) (hanswers : c.Answers) (k v : String)
    (hv : ((set now key value ttl).exec c).2.Holds k v) :
    k = key ∧ v = value ∨ c.Holds k v ∧
      ¬(key = k ∧ (now.after? (ttl.getD c.memory.limits.defaultTtl)).isSome = true) := by
  obtain ⟨counters, hstate⟩ := set_state now key value ttl henabled
  rw [hstate] at hv
  rcases hv with ⟨e, he, rfl, rfl⟩ | ⟨hin, hv⟩
  · rcases c.memory.set_replaces now key value ttl e he with hnew | ⟨he, hkept⟩
    · exact .inl hnew
    · exact .inr ⟨.inl ⟨e, he, rfl, rfl⟩, hkept⟩
  · have hin : c.attached = true := hin
    simp only [hin, if_true] at hv
    by_cases hkey : k = key
    · subst hkey
      exact .inl ⟨rfl, SteadyTier.setEx_replaces (SteadyTier.setEx_ok (hanswers hin)) hv⟩
    · rcases LawfulTier.setEx_holds hv with hv | ⟨hsame, -⟩
      · exact .inr ⟨.inr ⟨hin, hv⟩, by simp [Ne.symm hkey]⟩
      · exact absurd hsame hkey

omit [SteadyTier ρ] in
/-- A key that is dropped is held by neither cache. -/
theorem delete_spec [LawfulTier ρ] (now : Instant) (key : String) (henabled : c.enabled = true)
    (hanswers : c.Answers) (v : String) : ¬(c.delete now key).2.Holds key v := by
  have hstate : ∃ counters, (c.delete now key).2 =
      { c with
        memory := c.memory.remove key
        shared := if c.attached then (DistributedTier.del now [key] c.shared).2 else c.shared
        counters } := by
    unfold delete
    rw [if_pos henabled]
    simp only
    split
    · exact { c with memory := (c.memory.delete key).2 }.dropShared_state now [key]
    · exact ⟨c.counters, rfl⟩
  obtain ⟨counters, hstate⟩ := hstate
  rw [hstate]
  rintro (⟨e, he, hkey, -⟩ | ⟨hin, hv⟩)
  · exact (MemoryTier.mem_remove.mp he).2 hkey
  · have hin : c.attached = true := hin
    simp only [hin, if_true] at hv
    obtain ⟨_, -, hgone⟩ := LawfulTier.del_ok (hanswers hin)
    exact hgone key List.mem_cons_self v hv

omit [SteadyTier ρ] in
/-- When everything is dropped, neither cache holds a key that begins with the prefix. -/
theorem clearAll_spec [LawfulTier ρ] (now : Instant) (henabled : c.enabled = true)
    (hanswers : c.Answers) (hplain : IsPlainPattern c.keyPrefix) (k v : String)
    (hv : (c.clearAll now).Holds k v) : beginsWith c.keyPrefix k = false := by
  let cleared : TieredCache ρ := { c with memory := c.memory.clear }
  have hstate : c.clearAll now = (cleared.dropSharedStart now c.keyPrefix).2 := by
    unfold clearAll
    simp only
    rw [if_pos henabled]
  obtain ⟨hshrinks, hgone⟩ := cleared.dropSharedStart_spec now c.keyPrefix
  rw [hstate] at hv
  rcases hv with ⟨e, he, -⟩ | ⟨hin, hv⟩
  · rw [dropSharedStart_memory] at he
    cases he
  · exact hgone hanswers hplain.listsStart (hshrinks.attached ▸ hin) k v hv

end TieredCache

namespace CacheOperation

variable {ρ : Type} [DistributedTier ρ] [SteadyTier ρ] {config : CacheConfig} {c : TieredCache ρ}

theorem perform_answers (now : Instant) (op : CacheOperation) (hanswers : c.Answers) :
    (op.perform now c).Answers := by
  cases op with
  | get key => exact (c.get_spec now key).1.answers hanswers
  | getDecoded accepts key => exact (c.getDecoded_spec _ now key).1.answers hanswers
  | set key value ttl => exact (c.set_spec now key value ttl).1.answers hanswers
  | delete key => exact (c.delete_reduces now key).shrinks.answers hanswers
  | invalidate id => exact (c.invalidate_reduces now id).shrinks.answers hanswers
  | clearAll => exact (c.clearAll_reduces now).shrinks.answers hanswers
  | purgeExpired => exact (c.purgeExpired_reduces now).shrinks.answers hanswers
  | resetStats => exact (c.resetStats_reduces now).shrinks.answers hanswers
  | close => exact nofun

/-- What both caches hold after an operation was put by it, or they held it before and the operation
has not ended it. -/
theorem perform_holds (now : Instant) (op : CacheOperation) (henabled : c.enabled = true)
    (hstart : c.keyPrefix = config.keyPrefix)
    (hlimits : c.memory.limits.defaultTtl = config.memory.defaultTtl) (hanswers : c.Answers)
    (hplain : IsPlainPattern config.keyPrefix) (k v : String)
    (hv : (op.perform now c).Holds k v) :
    op.put? = some (k, v) ∨ c.Holds k v ∧ ¬op.ends ρ config now k := by
  cases op with
  | get key => exact .inr ⟨(c.get_spec now key).1.holds k v hv, id⟩
  | getDecoded accepts key => exact .inr ⟨(c.getDecoded_spec _ now key).1.holds k v hv, id⟩
  | set key value ttl =>
    rcases set_replaces now key value ttl henabled hanswers k v hv with ⟨rfl, rfl⟩ | hkept
    · exact .inl rfl
    · rw [hlimits] at hkept
      exact .inr hkept
  | delete key =>
    refine .inr ⟨(c.delete_reduces now key).shrinks.holds k v hv, ?_⟩
    rintro rfl
    exact delete_spec now key henabled hanswers v hv
  | invalidate id =>
    obtain ⟨hshrinks, hgone⟩ := c.invalidate_spec now id
    rw [hstart] at hgone
    refine .inr ⟨hshrinks.holds k v hv, ?_⟩
    rintro ⟨hlists, hin⟩
    exact Bool.false_ne_true ((hgone henabled hanswers (fun _ => hlists) k v hv).symm.trans hin)
  | clearAll =>
    have hgone := clearAll_spec now henabled hanswers (hstart ▸ hplain) k v hv
    rw [hstart] at hgone
    exact .inr ⟨(c.clearAll_reduces now).shrinks.holds k v hv, Bool.not_eq_true _ |>.mpr hgone⟩
  | purgeExpired => exact .inr ⟨(c.purgeExpired_reduces now).shrinks.holds k v hv, id⟩
  | resetStats => exact .inr ⟨(c.resetStats_reduces now).shrinks.holds k v hv, id⟩
  | close =>
    rcases hv with ⟨e, he, -⟩ | ⟨hin, -⟩
    · cases he
    · cases hin

end CacheOperation

/-! ## Runs -/

namespace TieredCache

variable {ρ : Type} [DistributedTier ρ]

/-- The caches after calls at some times. -/
def afterCalls (c : TieredCache ρ) (calls : List (Instant × CacheCall)) : TieredCache ρ :=
  calls.foldl (fun c call => call.2.perform call.1 c) c

theorem afterCalls_append (c : TieredCache ρ) (calls : List (Instant × CacheCall)) (now : Instant)
    (call : CacheCall) :
    c.afterCalls (calls ++ [(now, call)]) = call.perform now (c.afterCalls calls) := by
  simp [afterCalls]

/-- After calls, caches with the settings hold what was put last. -/
structure Coherent [LawfulTier ρ] (config : CacheConfig) (calls : List (Instant × CacheCall))
    (c : TieredCache ρ) : Prop where
  enabled : c.enabled = config.enabled
  keyPrefix : c.keyPrefix = config.keyPrefix
  defaultTtl : c.memory.limits.defaultTtl = config.memory.defaultTtl
  answers : c.Answers
  holds : ∀ k v, c.Holds k v → LastPut ρ config calls k v

variable [SteadyTier ρ] {config : CacheConfig}

/-- One call more. -/
theorem Coherent.append {calls : List (Instant × CacheCall)} {c : TieredCache ρ}
    (h : c.Coherent config calls) (henabled : config.enabled = true)
    (hplain : IsPlainPattern config.keyPrefix) (now : Instant) (call : CacheCall) :
    (call.perform now c).Coherent config (calls ++ [(now, call)]) := by
  rw [call.perform_eq]
  cases hop : call.operation? with
  | none =>
    -- A value that cannot be written: the caches stay as they are.
    have hkept (k : String) : ¬call.ends ρ config now k := by simp [CacheCall.ends, hop]
    exact ⟨h.enabled, h.keyPrefix, h.defaultTtl, h.answers,
      fun k v hv => (h.holds k v hv).append (hkept k)⟩
  | some op =>
    have hsetup := op.perform_sameSetup now c
    refine ⟨hsetup.enabled.trans h.enabled, hsetup.keyPrefix.trans h.keyPrefix,
      (congrArg _ hsetup.limits).trans h.defaultTtl, op.perform_answers now h.answers,
      fun k v hv => ?_⟩
    rcases op.perform_holds now (h.enabled.trans henabled) h.keyPrefix h.defaultTtl h.answers hplain
      k v hv with hput | ⟨hv, hkept⟩
    · exact .of_put (by simpa [CacheCall.put?, hop] using hput)
    · exact (h.holds k v hv).append (by simpa [CacheCall.ends, hop] using hkept)

/-- Calls of caches that were empty. -/
theorem coherent_afterCalls {c : TieredCache ρ} (h : c.Coherent config [])
    (henabled : config.enabled = true) (hplain : IsPlainPattern config.keyPrefix)
    (calls : List (Instant × CacheCall)) : (c.afterCalls calls).Coherent config calls := by
  induction calls using List.reverseRecOn with
  | nil => exact h
  | append_singleton calls last ih =>
    obtain ⟨now, call⟩ := last
    rw [afterCalls_append]
    exact ih.append henabled hplain now call

end TieredCache

/-- After any calls of caches that were empty, a lookup gives the value that was put last under its
key, and only if nothing has dropped the key since, whatever lookups in the shared cache have
failed; a lookup of a value with a form gives what that value is read as. Every shared cache lists
the namespaces of plain names, those of datasets among them, so that dropping one ends its keys. -/
theorem get_last_put {ρ : Type} [DistributedTier ρ] [SteadyTier ρ] (config : CacheConfig)
    (henabled : config.enabled = true) (hplain : IsPlainPattern config.keyPrefix)
    (begun : Instant) (shared : ρ) (attached : Bool)
    (hempty : ∀ k v, ¬LawfulTier.Holds shared k v)
    (hanswers : attached = true → LawfulTier.Answers shared)
    (calls : List (Instant × CacheCall)) (now : Instant) (key : String) :
    let c := (TieredCache.make config begun shared attached).afterCalls calls
    (∀ value, ((TieredCache.get now key).exec c).1 = .ok (some value) →
      LastPut ρ config calls key value) ∧
    (∀ {α : Type} (decode : String → Option α) (a : α),
      ((TieredCache.getDecoded decode now key).exec c).1 = .ok (some a) →
        ∃ text, LastPut ρ config calls key text ∧ decode text = some a) ∧
    ∀ id, IsPlainPattern id → ListsStart ρ (keyNamespace config.keyPrefix id) := by
  intro c
  have hstart : (TieredCache.make config begun shared attached).Coherent config [] := by
    refine ⟨rfl, rfl, rfl, hanswers, ?_⟩
    rintro k v (⟨e, he, -⟩ | ⟨-, hv⟩)
    · cases he
    · exact absurd hv (hempty k v)
  have hcoherent : c.Coherent config calls := coherent_afterCalls hstart henabled hplain calls
  refine ⟨fun value hvalue => ?_, fun decode a ha => ?_, fun id hid => ?_⟩
  · exact hcoherent.holds key value ((c.get_spec now key).2 value hvalue)
  · obtain ⟨text, hholds, hdecode⟩ := (c.getDecoded_spec decode now key).2 a ha
    exact ⟨text, hcoherent.holds key text hholds, hdecode⟩
  · exact (hplain.keyNamespace hid).listsStart

/-- A memory of sixteen bytes before a shared cache. -/
def narrowCache : CacheConfig := { CacheConfig.default with memory := smallCache }

/-- A shared cache that cannot be asked at one moment. -/
def interruptedTier : Interrupted SwitchableTier := ⟨.empty, [⟨3⟩]⟩

/-- A page is replaced by one that memory turns away. Then it is looked for in vain, and the pages of
a dataset with brackets in its name are dropped. -/
def interruptedCalls : List (Instant × CacheCall) := [
  (⟨0⟩, .operation (.set "page" "first" none)),
  (⟨1⟩, .operation (.get "page")),
  (⟨2⟩, .setEncoded "page" (some "far too many rows") none),
  (⟨3⟩, .operation (.get "page")),
  (⟨4⟩, .operation (.set "cache:data:[1]:page" "other" none)),
  (⟨5⟩, .operation (.invalidate "[1]"))]

theorem get_last_put_interrupted :
    let c := TieredCache.make narrowCache ⟨0⟩ interruptedTier true
    narrowCache.enabled = true ∧ IsPlainPattern narrowCache.keyPrefix ∧
      (∀ k v, ¬LawfulTier.Holds interruptedTier k v) ∧ LawfulTier.Answers interruptedTier ∧
      ((TieredCache.get ⟨3⟩ "page").exec (c.afterCalls (interruptedCalls.take 3))).1 = .ok none ∧
      ((TieredCache.get ⟨6⟩ "page").exec (c.afterCalls interruptedCalls)).1 =
        .ok (some "far too many rows") ∧
      LastPut (Interrupted SwitchableTier) narrowCache interruptedCalls "page" "far too many rows" ∧
      (CacheOperation.invalidate "[1]").ends (Interrupted SwitchableTier) narrowCache ⟨5⟩
        "cache:data:[1]:page" ∧
      ((TieredCache.get ⟨6⟩ "cache:data:[1]:page").exec (c.afterCalls interruptedCalls)).1 =
        .ok none := by
  intro c
  have hplain : IsPlainPattern narrowCache.keyPrefix := by decide +kernel
  have hempty : ∀ k v, ¬LawfulTier.Holds interruptedTier k v := by
    intro k v h
    have h : (none : Option String) = some v := h
    cases h
  have hfound : ((TieredCache.get ⟨6⟩ "page").exec (c.afterCalls interruptedCalls)).1 =
      .ok (some "far too many rows") := by decide +kernel
  have hlast := get_last_put narrowCache rfl hplain ⟨0⟩ interruptedTier true hempty (fun _ => rfl)
    interruptedCalls ⟨6⟩ "page"
  exact ⟨rfl, hplain, hempty, rfl, by decide +kernel, hfound, hlast.1 _ hfound,
    ⟨Interrupted.listsStart (SwitchableTier.listsStart _), by decide +kernel⟩, by decide +kernel⟩

/-- A page of a dataset with brackets in its name is put, and the pages of the dataset are dropped. -/
def bracketedCalls : List (Instant × CacheCall) := [
  (⟨0⟩, .operation (.set "cache:data:[1]:page" "other" none)),
  (⟨1⟩, .operation (.invalidate "[1]"))]

/-- A shared cache that finds its keys by patterns does not find those of a name with brackets, so
that a page is answered from there after it was dropped. -/
theorem bracketed_page_answered :
    ¬∀ (config : CacheConfig) (begun : Instant) (calls : List (Instant × CacheCall)) (now : Instant)
      (key value : String), config.enabled = true → IsPlainPattern config.keyPrefix →
      let c := (TieredCache.make config begun (⟨.empty⟩ : PatternTier) true).afterCalls calls
      ((TieredCache.get now key).exec c).1 = .ok (some value) →
        ∃ before time call rest, calls = before ++ (time, call) :: rest ∧
          call.put? = some (key, value) ∧
          ∀ later ∈ rest, ∀ id, later.2.operation? = some (.invalidate id) →
            beginsWith (keyNamespace config.keyPrefix id) key = false := by
  intro h
  obtain ⟨before, time, call, rest, hcalls, hput, hrest⟩ := h .default ⟨0⟩ bracketedCalls ⟨2⟩
    "cache:data:[1]:page" "other" rfl (by decide +kernel) (by decide +kernel)
  match before with
  | [] =>
    obtain ⟨-, rfl⟩ := List.cons.inj hcalls
    have hstart := hrest _ List.mem_cons_self "[1]" rfl
    exact absurd hstart (by decide +kernel)
  | [_] =>
    -- The page would have been put by the drop.
    obtain ⟨-, hcalls⟩ := List.cons.inj hcalls
    obtain ⟨hcall, -⟩ := List.cons.inj hcalls
    cases hcall
    cases hput
  | _ :: _ :: _ => simp [bracketedCalls] at hcalls

end TableQuery
