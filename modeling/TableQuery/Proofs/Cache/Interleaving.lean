import TableQuery.Proofs.Cache.Invalidation

/-!
# Lookups while the pages of a dataset are dropped

Lookups and the dropping of a dataset's pages wait for the shared cache, and others go on in the
meantime. A lookup that has been answered before the page was dropped from the shared cache may
copy the page into memory after memory was cleared, so it stays there; nothing else does.

* `Lookup`, `Invalidation`: both part by part. Without others between the parts they are
  `TieredCache.get` and `TieredCache.invalidate`.
* `Interleaving`, `Interleaving.after`: one dropping and any number of lookups in any order.
* `Interleaving.Sound`: what holds between the parts, kept by every step.
* `interleaved_invalidate`: what is left when the pages are dropped.
* `interleaved_invalidate_stale`: a page that stays in memory.
-/

namespace TableQuery

/-! ## Part by part -/

/-- How far a lookup has got. -/
inductive Lookup where
  /-- Memory has nothing, and the shared cache is to be asked. -/
  | asking (key : String)
  /-- The shared cache has answered. -/
  | answered (key : String) (answer : Except CacheFault (Option String))
  | done (key : String) (result : Except QueryError (Option String))
deriving DecidableEq

/-- How far the dropping of a dataset's pages has got, with the number of pages that are gone from
memory. -/
inductive Invalidation where
  | starting
  /-- Memory is cleared, and the shared cache is to list its keys. -/
  | listing (here : Nat)
  /-- The shared cache has listed its keys, and they are to be dropped. -/
  | dropping (here : Nat) (keys : List String)
  | done (removed : Nat)
deriving DecidableEq

section

variable {ρ : Type}

namespace Lookup

/-- A lookup begins in memory. -/
def start (now : Instant) (key : String) (c : TieredCache ρ) : Lookup × TieredCache ρ :=
  if c.enabled then
    let (found, c) := c.lookInMemory now key
    match found with
    | some value => (done key (.ok (some value)), c)
    | none => if c.attached then (asking key, c) else (done key (.ok none), c.countMiss)
  else (done key (.ok none), c)

variable [DistributedTier ρ]

/-- The next part of a lookup. -/
def next (now : Instant) (c : TieredCache ρ) : Lookup → Lookup × TieredCache ρ
  | asking key =>
    let (answer, c) := c.askShared now key
    (answered key answer, c)
  | answered key answer =>
    let (result, c) := c.settle now key answer
    (done key result, c)
  | done key result => (done key result, c)

/-- A lookup that nothing comes between. -/
theorem next_next_start (now : Instant) (key : String) (c : TieredCache ρ) :
    let first := start now key c
    let second := first.1.next now first.2
    second.1.next now second.2 =
      (done key ((TieredCache.get now key).exec c).1, ((TieredCache.get now key).exec c).2) := by
  unfold start TieredCache.get
  rw [Action.exec_make]
  split
  · simp only
    cases (c.lookInMemory now key).1 with
    | some value => rfl
    | none =>
      simp only
      split <;> rfl
  · rfl

end Lookup

namespace Invalidation

/-- The shared cache is to be asked next. -/
def waits : Invalidation → Bool
  | listing _ | dropping _ _ => true
  | starting | done _ => false

variable [DistributedTier ρ]

/-- The next part of the dropping of a dataset's pages. -/
def next (now : Instant) (id : String) (c : TieredCache ρ) :
    Invalidation → Invalidation × TieredCache ρ
  | starting =>
    if c.enabled then
      let (here, c) := c.dropInMemory (keyNamespace c.keyPrefix id)
      (if c.attached then listing here else done here, c)
    else (done 0, c)
  | listing here =>
    let (found, c) := c.matchShared now (keyNamespace c.keyPrefix id)
    match found with
    | .ok keys => (dropping here keys, c)
    | .error _ => (done here, c.countError)
  | dropping here keys =>
    let (there, c) := c.dropShared now keys
    (done (here + there), c)
  | done removed => (done removed, c)

/-- How many parts there are at most until the end. -/
def partsLeft : Invalidation → Nat
  | starting => 3
  | listing _ => 2
  | dropping _ _ => 1
  | done _ => 0

theorem partsLeft_next (now : Instant) (id : String) (c : TieredCache ρ) (i : Invalidation) :
    (i.next now id c).1.partsLeft ≤ i.partsLeft - 1 := by
  cases i with
  | starting =>
    rw [next]
    split
    · simp only
      split <;> simp [partsLeft]
    · simp [partsLeft]
  | listing here =>
    rw [next]
    simp only
    split <;> simp [partsLeft]
  | dropping here keys => exact Nat.le_refl _
  | done removed => exact Nat.le_refl _

/-- A dropping that nothing comes between. -/
theorem next_next_next_starting (now : Instant) (id : String) (c : TieredCache ρ) :
    let first := starting.next now id c
    let second := first.1.next now id first.2
    second.1.next now id second.2 = (done (c.invalidate now id).1, (c.invalidate now id).2) := by
  intro first second
  have hfirst : first = starting.next now id c := rfl
  have hsecond : second = first.1.next now id first.2 := rfl
  unfold TieredCache.invalidate
  by_cases henabled : c.enabled = true
  · rw [if_pos henabled]
    unfold TieredCache.dropSharedStart
    by_cases hattached : c.attached = true
    · have hcleared : (c.dropInMemory (keyNamespace c.keyPrefix id)).2.attached = true := hattached
      have hprefix : (c.dropInMemory (keyNamespace c.keyPrefix id)).2.keyPrefix = c.keyPrefix := rfl
      have hstart : first = (listing (c.dropInMemory (keyNamespace c.keyPrefix id)).1,
          (c.dropInMemory (keyNamespace c.keyPrefix id)).2) := by
        rw [hfirst, next, if_pos henabled]
        simp only [hcleared, if_true]
      simp only [hcleared, if_true]
      rw [hsecond, hstart, next, hprefix]
      cases hfound : ((c.dropInMemory (keyNamespace c.keyPrefix id)).2.matchShared now
        (keyNamespace c.keyPrefix id)).1 with
      | ok keys =>
        simp only [hfound]
        rfl
      | error fault =>
        simp only [hfound]
        rfl
    · have hcleared : (c.dropInMemory (keyNamespace c.keyPrefix id)).2.attached = false :=
        Bool.eq_false_iff.mpr hattached
      have hstart : first = (done (c.dropInMemory (keyNamespace c.keyPrefix id)).1,
          (c.dropInMemory (keyNamespace c.keyPrefix id)).2) := by
        rw [hfirst, next, if_pos henabled]
        simp only [hcleared]
        rfl
      simp only [hcleared]
      rw [hsecond, hstart]
      rfl
  · have hstart : first = (done 0, c) := by rw [hfirst, next, if_neg henabled]
    rw [if_neg henabled, hsecond, hstart]
    rfl

end Invalidation

/-! ## In any order -/

/-- A cache, the dropping of a dataset's pages and lookups, each somewhere between its parts. -/
structure Interleaving (ρ : Type) where
  cache : TieredCache ρ
  invalidation : Invalidation
  /-- The lookups, the one that began first at the front. -/
  lookups : List Lookup

/-- Who goes on. -/
inductive InterleavingStep where
  | invalidate
  /-- A lookup begins. -/
  | lookUp (key : String)
  /-- The lookup at a place goes on. -/
  | proceed (i : Nat)

/-- The dropping goes on. -/
def InterleavingStep.isInvalidate : InterleavingStep → Bool
  | invalidate => true
  | lookUp _ | proceed _ => false

namespace Interleaving

/-- The pages of a dataset are to be dropped, and nothing is looked up. -/
def start (cache : TieredCache ρ) : Interleaving ρ := ⟨cache, .starting, []⟩

variable [DistributedTier ρ]

/-- One part of one of them. -/
def next (id : String) (now : Instant) (s : Interleaving ρ) : InterleavingStep → Interleaving ρ
  | .invalidate =>
    let (invalidation, cache) := s.invalidation.next now id s.cache
    { s with invalidation, cache }
  | .lookUp key =>
    let (lookup, cache) := Lookup.start now key s.cache
    { s with lookups := s.lookups ++ [lookup], cache }
  | .proceed i =>
    match s.lookups[i]? with
    | some lookup =>
      let (lookup, cache) := lookup.next now s.cache
      { s with lookups := s.lookups.set i lookup, cache }
    | none => s

section

variable {id : String} {now : Instant} {s : Interleaving ρ}

theorem next_invalidate :
    s.next id now .invalidate = { s with
      invalidation := (s.invalidation.next now id s.cache).1
      cache := (s.invalidation.next now id s.cache).2 } := rfl

theorem next_lookUp {key : String} :
    s.next id now (.lookUp key) = { s with
      lookups := s.lookups ++ [(Lookup.start now key s.cache).1]
      cache := (Lookup.start now key s.cache).2 } := rfl

theorem next_proceed_some {i : Nat} {lookup : Lookup} (h : s.lookups[i]? = some lookup) :
    s.next id now (.proceed i) = { s with
      lookups := s.lookups.set i (lookup.next now s.cache).1
      cache := (lookup.next now s.cache).2 } := by
  simp only [next, h]

theorem next_proceed_none {i : Nat} (h : s.lookups[i]? = none) :
    s.next id now (.proceed i) = s := by
  simp only [next, h]

end

/-- The state after steps. -/
def after (id : String) (steps : List (Instant × InterleavingStep)) (s : Interleaving ρ) :
    Interleaving ρ :=
  steps.foldl (fun s step => s.next id step.1 step.2) s

/-- No lookup holds the dropping up. -/
theorem after_partsLeft (id : String) (steps : List (Instant × InterleavingStep))
    (s : Interleaving ρ) :
    (s.after id steps).invalidation.partsLeft ≤
      s.invalidation.partsLeft - steps.countP (·.2.isInvalidate) := by
  induction steps generalizing s with
  | nil => exact Nat.le_refl _
  | cons first rest ih =>
    obtain ⟨now, step⟩ := first
    have hrest := ih (s.next id now step)
    rw [show s.after id ((now, step) :: rest) = (s.next id now step).after id rest from rfl,
      List.countP_cons]
    cases step with
    | invalidate =>
      have hpart := s.invalidation.partsLeft_next now id s.cache
      rw [next_invalidate] at hrest ⊢
      have hpart' : InterleavingStep.invalidate.isInvalidate = true := rfl
      simp only [hpart', if_true]
      simp only at hrest
      omega
    | lookUp key => exact hrest
    | proceed i =>
      cases hlookup : s.lookups[i]? with
      | none =>
        rw [next_proceed_none hlookup] at hrest ⊢
        exact hrest
      | some lookup =>
        rw [next_proceed_some hlookup] at hrest ⊢
        exact hrest

/-- The dropping ends after three parts, whatever comes between. -/
theorem after_start_done (id : String) (c : TieredCache ρ)
    {steps : List (Instant × InterleavingStep)} (h : 3 ≤ steps.countP (·.2.isInvalidate)) :
    ∃ removed, ((start c).after id steps).invalidation = .done removed := by
  have hleft := after_partsLeft id steps (start c)
  have hstart : (start c).invalidation.partsLeft = 3 := rfl
  cases hend : ((start c).after id steps).invalidation with
  | done removed => exact ⟨removed, rfl⟩
  | starting =>
    rw [hend, Invalidation.partsLeft] at hleft
    omega
  | listing here =>
    rw [hend, Invalidation.partsLeft] at hleft
    omega
  | dropping here keys =>
    rw [hend, Invalidation.partsLeft] at hleft
    omega

end Interleaving

end

/-! ## What holds between the parts -/

/-- A lookup that begins asks memory only. -/
theorem Lookup.start_spec {ρ : Type} [DistributedTier ρ] [LawfulTier ρ] (now : Instant)
    (key : String) (c : TieredCache ρ) :
    (∀ key' answer, (start now key c).1 ≠ .answered key' answer) ∧
      c.Shrinks (start now key c).2 ∧ (start now key c).2.shared = c.shared ∧
        ∀ e ∈ (start now key c).2.memory.entries, e ∈ c.memory.entries := by
  have hlook := (c.lookInMemory_spec now key).1
  have hentries := (c.memory.get_spec now key).2
  unfold start
  split
  · simp only
    cases (c.lookInMemory now key).1 with
    | some value => exact ⟨nofun, hlook, rfl, hentries⟩
    | none =>
      simp only
      split
      · exact ⟨nofun, hlook, rfl, hentries⟩
      · exact ⟨nofun, hlook.trans (TieredCache.countMiss_reduces _).shrinks, rfl, hentries⟩
  · exact ⟨nofun, .refl c, rfl, fun _ h => h⟩

namespace Interleaving

variable {ρ : Type} [DistributedTier ρ] [LawfulTier ρ]

/-- The key is in the namespace of the dataset. -/
def InNamespace (c : TieredCache ρ) (id key : String) : Prop :=
  beginsWith (keyNamespace c.keyPrefix id) key = true

omit [DistributedTier ρ] [LawfulTier ρ] in
instance (c : TieredCache ρ) (id key : String) : Decidable (InNamespace c id key) :=
  inferInstanceAs (Decidable (_ = true))

/-- What holds between the parts, from a cache at the start. Once memory has been cleared, it has
pages of the dataset only that a lookup has brought from the shared cache, and once the shared
cache has listed its keys, it has none that is not in the list. -/
structure Sound (c : TieredCache ρ) (id : String) (s : Interleaving ρ) : Prop where
  follows : c.Follows s.cache
  waits : s.invalidation.waits = true → c.attached = true
  shared : ∀ k v, LawfulTier.Holds s.cache.shared k v → LawfulTier.Holds c.shared k v
  answered : ∀ key value, .answered key (.ok (some value)) ∈ s.lookups →
    LawfulTier.Holds c.shared key value
  memory : s.invalidation ≠ .starting → ∀ e ∈ s.cache.memory.entries, InNamespace c id e.key →
    LawfulTier.Holds c.shared e.key e.value ∧ .done e.key (.ok (some e.value)) ∈ s.lookups
  listed : ∀ here keys, s.invalidation = .dropping here keys → ∀ k v,
    LawfulTier.Holds s.cache.shared k v → InNamespace c id k → k ∈ keys
  dropped : ∀ removed, s.invalidation = .done removed → c.attached = true → ∀ k v,
    LawfulTier.Holds s.cache.shared k v → ¬InNamespace c id k

variable {c : TieredCache ρ} {id : String} {s : Interleaving ρ}

theorem start_sound : Sound c id (start c) where
  follows := .refl c
  waits h := nomatch h
  shared _ _ h := h
  answered _ _ h := by cases h
  memory h := absurd rfl h
  listed _ _ h := by cases h
  dropped _ h := by cases h

namespace Sound

/-! ### Lookups go on -/

/-- A part of a lookup adds nothing to the shared cache, and to memory what it has been answered
and ends with. -/
theorem of_lookups (h : Sound c id s) {cache : TieredCache ρ} {lookups : List Lookup}
    (hfollows : s.cache.Follows cache)
    (hshared : ∀ k v, LawfulTier.Holds cache.shared k v → LawfulTier.Holds s.cache.shared k v)
    (hanswered : ∀ key value, .answered key (.ok (some value)) ∈ lookups →
      .answered key (.ok (some value)) ∈ s.lookups ∨ LawfulTier.Holds s.cache.shared key value)
    (hdone : ∀ key result, .done key result ∈ s.lookups → .done key result ∈ lookups)
    (hmemory : ∀ e ∈ cache.memory.entries, e ∈ s.cache.memory.entries ∨
      .answered e.key (.ok (some e.value)) ∈ s.lookups ∧
        .done e.key (.ok (some e.value)) ∈ lookups) :
    Sound c id { s with cache, lookups } where
  follows := h.follows.trans hfollows
  waits := h.waits
  shared k v hv := h.shared k v (hshared k v hv)
  answered key value hin := (hanswered key value hin).elim (h.answered key value) (h.shared key value)
  memory hbegun e he hkey := by
    rcases hmemory e he with he | ⟨hin, hend⟩
    · obtain ⟨hheld, hend⟩ := h.memory hbegun e he hkey
      exact ⟨hheld, hdone _ _ hend⟩
    · exact ⟨h.answered _ _ hin, hend⟩
  listed here keys hnow k v hv := h.listed here keys hnow k v (hshared k v hv)
  dropped removed hnow hin k v hv := h.dropped removed hnow hin k v (hshared k v hv)

/-- A lookup begins. -/
theorem lookUp (h : Sound c id s) (now : Instant) (key : String) :
    Sound c id (s.next id now (.lookUp key)) := by
  obtain ⟨hnot, hshrinks, hshared, hentries⟩ := Lookup.start_spec now key s.cache
  rw [next_lookUp]
  refine h.of_lookups hshrinks.toFollows (fun k v hv => hshared ▸ hv) (fun key' value hin => ?_)
    (fun _ _ hin => List.mem_append_left _ hin) fun e he => .inl (hentries e he)
  rcases List.mem_append.mp hin with hin | hin
  · exact .inl hin
  · exact absurd (List.mem_singleton.mp hin).symm (hnot key' _)

omit [DistributedTier ρ] [LawfulTier ρ] in
/-- The others stay where they are when one lookup goes on. -/
theorem mem_set_of_ne {lookups : List Lookup} {i : Nat} {old new other : Lookup}
    (hold : lookups[i]? = some old) (hother : other ∈ lookups) (hne : other ≠ old) :
    other ∈ lookups.set i new := by
  obtain ⟨j, hj⟩ := List.mem_iff_getElem?.mp hother
  refine List.mem_iff_getElem?.mpr ⟨j, ?_⟩
  have hij : i ≠ j := by
    rintro rfl
    exact hne (Option.some.inj (hj.symm.trans hold))
  rw [List.getElem?_set_ne hij, hj]

/-- A lookup goes on. -/
theorem proceed (h : Sound c id s) (now : Instant) (i : Nat) :
    Sound c id (s.next id now (.proceed i)) := by
  cases hlookup : s.lookups[i]? with
  | none => rwa [next_proceed_none hlookup]
  | some lookup =>
    obtain ⟨hi, hget⟩ := List.getElem?_eq_some_iff.mp hlookup
    have hat : lookup ∈ s.lookups := List.mem_of_getElem? hlookup
    rw [next_proceed_some hlookup]
    cases lookup with
    | asking key =>
      refine h.of_lookups ⟨rfl, rfl, rfl, fun h hin => LawfulTier.get_answers (h hin)⟩
        (fun _ _ => LawfulTier.get_holds) (fun key' value hin => ?_)
        (fun _ _ hin => mem_set_of_ne hlookup hin nofun) fun _ he => .inl he
      rcases List.mem_or_eq_of_mem_set hin with hin | hin
      · exact .inl hin
      · injection hin with hkey hanswer
        subst hkey
        exact .inr (LawfulTier.get_value hanswer.symm)
    | answered key answer =>
      refine h.of_lookups (s.cache.settle_spec now key answer).1
        (fun k v hv => s.cache.settle_shared now key answer ▸ hv)
        (fun key' value hin => ?_) (fun _ _ hin => mem_set_of_ne hlookup hin nofun) fun e he => ?_
      · rcases List.mem_or_eq_of_mem_set hin with hin | hin
        · exact .inl hin
        · cases hin
      · -- The only new entry is the answer itself, and the lookup ends with it.
        rcases s.cache.settle_memory now key answer e he with he | ⟨rfl, rfl, hresult, -⟩
        · exact .inl he
        · refine .inr ⟨hat, ?_⟩
          rw [← hresult]
          exact List.mem_set hi _
    | done key result =>
      have hsame : s.lookups.set i (.done key result) = s.lookups := hget ▸ List.set_getElem_self hi
      exact h.of_lookups (.refl _) (fun _ _ hv => hv) (fun _ _ hin => .inl (hsame ▸ hin))
        (fun _ _ hin => hsame.symm ▸ hin) fun _ he => .inl he

/-! ### The pages are dropped -/

section

variable (henabled : c.enabled = true) (hanswers : c.Answers)
  (hplain : c.attached = true → IsPlainPattern (keyNamespace c.keyPrefix id))

include henabled in
/-- Memory is cleared of the pages. -/
theorem invalidate_starting (h : Sound c id s) (hnow : s.invalidation = .starting) (now : Instant) :
    Sound c id (s.next id now .invalidate) := by
  obtain ⟨hshrinks, hgone⟩ := s.cache.dropInMemory_spec (keyNamespace s.cache.keyPrefix id)
  have hnext : s.next id now .invalidate = { s with
      invalidation :=
        if s.cache.attached then .listing (s.cache.dropInMemory (keyNamespace s.cache.keyPrefix id)).1
        else .done (s.cache.dropInMemory (keyNamespace s.cache.keyPrefix id)).1
      cache := (s.cache.dropInMemory (keyNamespace s.cache.keyPrefix id)).2 } := by
    rw [next_invalidate, hnow, Invalidation.next, if_pos (h.follows.enabled.trans henabled)]
    rfl
  rw [hnext]
  refine ⟨h.follows.trans hshrinks.toFollows, ?_, h.shared, h.answered, fun _ e he hkey => ?_, ?_, ?_⟩
  · split
    · rename_i hin
      exact fun _ => h.follows.attached ▸ hin
    · exact nofun
  · have hout := hgone e he
    rw [h.follows.keyPrefix] at hout
    exact absurd hkey (Bool.eq_false_iff.mp hout)
  · split <;> exact nofun
  · split
    · exact nofun
    · rename_i hout
      exact fun _ _ hin => absurd (h.follows.attached.trans hin) hout

include hanswers hplain in
/-- The shared cache lists its keys. -/
theorem invalidate_listing (h : Sound c id s) {here : Nat} (hnow : s.invalidation = .listing here)
    (now : Instant) : Sound c id (s.next id now .invalidate) := by
  have hin : c.attached = true := h.waits (by rw [hnow]; rfl)
  obtain ⟨keys, hok, hall⟩ := @LawfulTier.keys_ok ρ _ _ s.cache.shared now
    (keyNamespace s.cache.keyPrefix id) (h.follows.answers hanswers (h.follows.attached.trans hin))
    (h.follows.keyPrefix ▸ hplain hin)
  have hfound : (s.cache.matchShared now (keyNamespace s.cache.keyPrefix id)).1 = .ok keys := hok
  have hnext : s.next id now .invalidate = { s with
      invalidation := .dropping here keys
      cache := (s.cache.matchShared now (keyNamespace s.cache.keyPrefix id)).2 } := by
    rw [next_invalidate, hnow, Invalidation.next]
    simp only [hfound]
  rw [hnext]
  have hfollows : s.cache.Follows (s.cache.matchShared now (keyNamespace s.cache.keyPrefix id)).2 :=
    ⟨rfl, rfl, rfl, fun h hin => LawfulTier.keys_answers (h hin)⟩
  refine ⟨h.follows.trans hfollows, fun _ => hin,
    fun k v hv => h.shared k v (LawfulTier.keys_holds hv), h.answered,
    fun _ => h.memory (by rw [hnow]; exact nofun), fun here' keys' hnow' k v hv hkey => ?_, nofun⟩
  injection hnow' with _ hkeys
  subst hkeys
  exact hall k v hv (h.follows.keyPrefix ▸ hkey)

include hanswers in
/-- The shared cache drops the keys that it has listed. -/
theorem invalidate_dropping (h : Sound c id s) {here : Nat} {keys : List String}
    (hnow : s.invalidation = .dropping here keys) (now : Instant) :
    Sound c id (s.next id now .invalidate) := by
  have hin : c.attached = true := h.waits (by rw [hnow]; rfl)
  obtain ⟨-, -, hgone⟩ := @LawfulTier.del_ok ρ _ _ s.cache.shared now keys
    (h.follows.answers hanswers (h.follows.attached.trans hin))
  obtain ⟨counters, hstate⟩ := s.cache.dropShared_state now keys
  have hnext : s.next id now .invalidate = { s with
      invalidation := .done (here + (s.cache.dropShared now keys).1)
      cache := { s.cache with
        shared := (DistributedTier.del now keys s.cache.shared).2
        counters } } := by
    rw [next_invalidate, hnow, ← hstate]
    rfl
  rw [hnext]
  have hfollows := (s.cache.dropShared_reduces now keys).shrinks.toFollows
  rw [hstate] at hfollows
  -- What is left was there before, so its key was in the list if it is one of the dataset.
  refine ⟨h.follows.trans hfollows, nofun, fun k v hv => h.shared k v (LawfulTier.del_holds hv),
    h.answered, fun _ => h.memory (by rw [hnow]; exact nofun), nofun, fun _ _ _ k v hv hkey => ?_⟩
  exact hgone k (h.listed here keys hnow k v (LawfulTier.del_holds hv) hkey) v hv

include henabled hanswers hplain

/-- Every step keeps what holds between the parts. -/
theorem step (h : Sound c id s) (now : Instant) (step : InterleavingStep) :
    Sound c id (s.next id now step) := by
  cases step with
  | lookUp key => exact h.lookUp now key
  | proceed i => exact h.proceed now i
  | invalidate =>
    cases hnow : s.invalidation with
    | starting => exact h.invalidate_starting henabled hnow now
    | listing here => exact h.invalidate_listing hanswers hplain hnow now
    | dropping here keys => exact h.invalidate_dropping hanswers hnow now
    | done removed =>
      have hsame : s.next id now .invalidate = s := by
        rw [next_invalidate, hnow, Invalidation.next, ← hnow]
      rwa [hsame]

theorem run (h : Sound c id s) (steps : List (Instant × InterleavingStep)) :
    Sound c id (s.after id steps) := by
  induction steps generalizing s with
  | nil => exact h
  | cons first rest ih => exact ih (h.step henabled hanswers hplain first.1 first.2)

end

end Sound

end Interleaving

/-! ## What is left -/

/-- The dropping of a dataset's pages ends, whatever lookups come between its parts. Then the shared
cache has none of the pages, and memory has only those that one of these lookups has found in the
shared cache and given to its caller. A later lookup of any other page finds nothing. -/
theorem interleaved_invalidate {ρ : Type} [DistributedTier ρ] [LawfulTier ρ] (c : TieredCache ρ)
    (id : String) (steps : List (Instant × InterleavingStep)) (henabled : c.enabled = true)
    (hanswers : c.Answers)
    (hplain : c.attached = true → IsPlainPattern (keyNamespace c.keyPrefix id)) :
    let s := (Interleaving.start c).after id steps
    (3 ≤ steps.countP (·.2.isInvalidate) → ∃ removed, s.invalidation = .done removed) ∧
    ∀ removed, s.invalidation = .done removed →
      (c.attached = true → ∀ k v, LawfulTier.Holds s.cache.shared k v →
        ¬Interleaving.InNamespace c id k) ∧
      (∀ e ∈ s.cache.memory.entries, Interleaving.InNamespace c id e.key →
        LawfulTier.Holds c.shared e.key e.value ∧ .done e.key (.ok (some e.value)) ∈ s.lookups) ∧
      ∀ now key, Interleaving.InNamespace c id key →
        (∀ value, .done key (.ok (some value)) ∉ s.lookups) →
          ((TieredCache.get now key).exec s.cache).1 = .ok none := by
  intro s
  refine ⟨Interleaving.after_start_done id c, fun removed hdone => ?_⟩
  have hsound : Interleaving.Sound c id s :=
    Interleaving.start_sound.run henabled hanswers hplain steps
  have hmemory := hsound.memory (by rw [hdone]; exact nofun)
  refine ⟨hsound.dropped removed hdone, hmemory, fun now key hkey hnone => ?_⟩
  obtain ⟨hfound, -⟩ := s.cache.memory.get_spec now key
  rcases s.cache.get_cases now key with
    ⟨-, hget⟩ | ⟨-, value, hlook, -⟩ | ⟨-, -, hget⟩ | ⟨-, -, hin, hget⟩
  · rw [hget]
  · obtain ⟨e, he, rfl, rfl⟩ := hfound value hlook
    exact absurd (hmemory e he hkey).2 (hnone e.value)
  · rw [hget]
  · rw [hget]
    rcases TieredCache.settle_cases now key
      ((s.cache.lookInMemory now key).2.askShared now key).1
      ((s.cache.lookInMemory now key).2.askShared now key).2 with
      ⟨value, -, hanswer, -, -⟩ | ⟨-, counters, hsettle⟩
    · have hheld : LawfulTier.Holds s.cache.shared key value := LawfulTier.get_value hanswer
      exact absurd hkey
        (hsound.dropped removed hdone (hsound.follows.attached ▸ hin) key value hheld)
    · rw [hsettle]

/-! ### Two orders -/

/-- The key of a page of the north. -/
def northKey : String := cacheKey "cache:data:" northId 1 10 .null

/-- The key of a page of the south. -/
def southKey : String := cacheKey "cache:data:" southId 1 10 .null

/-- Caches in use or not, with a page of each dataset in the shared one. -/
def twoPages (enabled : Bool) : TieredCache SwitchableTier :=
  .make { CacheConfig.default with enabled } ⟨0⟩
    ⟨⟨[(northKey, "north"), (southKey, "south")]⟩, false, 0⟩ true

/-- The lookup begins after memory has been cleared and asks after the shared cache has dropped the
page. -/
def lateLookup : List (Instant × InterleavingStep) := [
  (⟨1⟩, .invalidate), (⟨2⟩, .lookUp northKey), (⟨3⟩, .invalidate), (⟨4⟩, .invalidate),
  (⟨5⟩, .proceed 0), (⟨6⟩, .proceed 0)]

theorem interleaved_invalidate_late :
    let c := twoPages true
    let s := (Interleaving.start c).after northId lateLookup
    c.enabled = true ∧ c.Answers ∧ IsPlainPattern (keyNamespace c.keyPrefix northId) ∧
      (∃ removed, s.invalidation = .done removed) ∧
      s.cache.shared.table.get? southKey = some "south" ∧
      ((TieredCache.get ⟨7⟩ northKey).exec s.cache).1 = .ok none := by
  intro c s
  have hanswers : c.Answers := fun _ => rfl
  have hplain : IsPlainPattern (keyNamespace c.keyPrefix northId) := by decide +kernel
  obtain ⟨hends, hleft⟩ := interleaved_invalidate c northId lateLookup rfl hanswers fun _ => hplain
  obtain ⟨removed, hdone⟩ := hends (by decide)
  have hlookups : s.lookups = [.done northKey (.ok none)] := by decide +kernel
  refine ⟨rfl, hanswers, hplain, ⟨removed, hdone⟩, by decide +kernel, ?_⟩
  refine (hleft removed hdone).2.2 ⟨7⟩ northKey (by decide +kernel) fun value hin => ?_
  rw [hlookups] at hin
  simp at hin

/-- The lookup is answered before the shared cache drops the page, and copies it into memory after
memory has been cleared. The dropping has one part left. -/
def racingLookup : List (Instant × InterleavingStep) := [
  (⟨1⟩, .invalidate), (⟨2⟩, .lookUp northKey), (⟨3⟩, .proceed 0), (⟨4⟩, .proceed 0),
  (⟨5⟩, .invalidate)]

/-- A page may stay in memory although all lookups began after the dropping and ended before it;
and of caches that are not in use nothing is dropped. -/
theorem interleaved_invalidate_stale :
    (¬∀ (c : TieredCache SwitchableTier) (id key : String)
      (steps : List (Instant × InterleavingStep)) (last later : Instant) (removed : Nat),
      let s := (Interleaving.start c).after id steps
      let t := s.next id last .invalidate
      c.enabled = true → c.shared.failing = false → IsPlainPattern (keyNamespace c.keyPrefix id) →
        steps.head?.any (·.2.isInvalidate) = true →
        (∀ step ∈ steps, ∀ key, step.2 = .lookUp key → Interleaving.InNamespace c id key) →
        (∀ lookup ∈ s.lookups, ∃ key result, lookup = .done key result) →
        s.invalidation.waits = true → t.invalidation = .done removed →
        Interleaving.InNamespace c id key →
          ((TieredCache.get later key).exec t.cache).1 = .ok none) ∧
    ¬∀ (c : TieredCache SwitchableTier) (id key : String) (now : Instant),
      c.shared.failing = false → Interleaving.InNamespace c id key →
        (c.invalidate now id).2.shared.table.get? key = none := by
  constructor
  · intro h
    have hlookups : ((Interleaving.start (twoPages true)).after northId racingLookup).lookups =
        [.done northKey (.ok (some "north"))] := by decide +kernel
    have hkeys : ∀ step ∈ racingLookup, ∀ key, step.2 = .lookUp key →
        Interleaving.InNamespace (twoPages true) northId key := by
      have hnorth : Interleaving.InNamespace (twoPages true) northId northKey := by decide +kernel
      intro step hstep key hkey
      simp only [racingLookup, List.mem_cons, List.not_mem_nil, or_false] at hstep
      rcases hstep with rfl | rfl | rfl | rfl | rfl
      · cases hkey
      · cases hkey
        exact hnorth
      · cases hkey
      · cases hkey
      · cases hkey
    have hdone : ∀ lookup ∈ ((Interleaving.start (twoPages true)).after northId racingLookup).lookups,
        ∃ key result, lookup = .done key result := by
      intro lookup hin
      rw [hlookups] at hin
      exact ⟨northKey, .ok (some "north"), List.mem_singleton.mp hin⟩
    have hmiss := h (twoPages true) northId northKey racingLookup ⟨6⟩ ⟨7⟩ 1 rfl rfl
      (by decide +kernel) (by decide) hkeys hdone (by decide +kernel) (by decide +kernel)
      (by decide +kernel)
    have hstale : ((TieredCache.get ⟨7⟩ northKey).exec (((Interleaving.start (twoPages true)).after
        northId racingLookup).next northId ⟨6⟩ .invalidate).cache).1 = .ok (some "north") := by
      decide +kernel
    rw [hstale] at hmiss
    cases hmiss
  · intro h
    have hgone := h (twoPages false) northId northKey ⟨1⟩ rfl (by decide +kernel)
    have hkept : ((twoPages false).invalidate ⟨1⟩ northId).2.shared.table.get? northKey =
        some "north" := by decide +kernel
    rw [hkept] at hgone
    cases hgone

end TableQuery
