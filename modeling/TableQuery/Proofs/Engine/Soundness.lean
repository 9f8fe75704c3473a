import TableQuery.Proofs.Engine.Fresh

/-!
# What is in the caches of an engine

Whatever a cache has is the text of the page that the store has at the moment. Registering,
dropping, querying and writing keep that, since pages that are no longer so are dropped in time.

* `ResultPage.ReadsBack`: a page that survives the way through its text.
* `EngineOperation.Outdates`: the operations after which pages may be different.
* `Engine.IsSound`: the invariant. `IsSound.perform` keeps it, and `IsSound.lacks_perform` says
  that outdated pages are gone.
* `IsSound.query_answer`: what a query answers then.
-/

namespace TableQuery

namespace ResultPage

theorem toJson_injective {p q : ResultPage} (h : p.toJson = q.toJson) : p = q := by
  obtain ⟨rows, totalCount, page, limit, totalPages⟩ := p
  obtain ⟨rows', totalCount', page', limit', totalPages'⟩ := q
  simp only [toJson, fields, Json.nat, Json.int, Json.object.injEq, Json.array.injEq,
    Json.number.injEq, List.cons.injEq, Prod.mk.injEq, JsonNumber.integer.injEq, true_and, and_true,
    Int.natCast_inj] at h
  obtain ⟨hrows, rfl, rfl, rfl, rfl⟩ := h
  rw [List.map_injective_iff.mpr (fun _ _ h => Json.object.inj h) hrows]

instance : DecidableEq ResultPage := fun p q =>
  decidable_of_iff (p.toJson.compact = q.toJson.compact)
    ⟨fun h => toJson_injective (Json.compact_injective h), fun h => h ▸ rfl⟩

/-- The page is what its text is read as, if the text can be read. -/
def ReadsBack (p : ResultPage) : Prop := ∀ q ∈ ofText? p.toJson.compact, q = p

instance (p : ResultPage) : Decidable p.ReadsBack :=
  inferInstanceAs (Decidable (∀ q ∈ ofText? p.toJson.compact, q = p))

end ResultPage

/-- After the operation pages of its dataset may be different from before: a write to it has got
to the store, or its columns have been replaced or forgotten. -/
def EngineOperation.Outdates {σ ρ : Type} [Store σ] (e : Engine σ ρ) : EngineOperation → Prop
  | register id specs => ∃ table registry,
    e.registry.register id specs = .ok (table, .replaced, registry)
  | drop id => ∃ registry, e.registry.drop id = .ok (true, registry)
  | query .. => False
  | write id request => ∃ table planned, e.registry.get id = .ok table ∧
    (request.plan e.config.query.maxInList table : Except _ (Action σ Nat × List String)) =
      .ok planned

namespace Engine

variable {σ ρ : Type} [Store σ] [DistributedTier ρ] [LawfulTier ρ]

/-- The value is the text of the page that the store has for the key. -/
def IsBacked (filters : List Json) (e : Engine σ ρ) (key value : String) : Prop :=
  ∃ id filter page limit p, filter ∈ filters ∧ p.ReadsBack ∧
    key = e.cache.keyFor id page limit filter ∧ value = p.toJson.compact ∧
      e.freshPage id filter page limit = .ok p

/-- What is in the caches is what the store has. -/
structure IsSound (filters : List Json) (e : Engine σ ρ) : Prop where
  named : e.registry.IsNamed
  quiet : e.config.advisorEnabled = false
  answers : e.cache.Answers
  plain : e.cache.attached = true → IsPlainPattern e.cache.keyPrefix
  unused : e.cache.enabled = false → ∀ key value, ¬e.cache.Holds key value
  backed : ∀ key value, e.cache.Holds key value → e.IsBacked filters key value

/-! ## Pages that are dropped -/

theorem tableName_injective {id id' : String} (h : tableName id = tableName id') : id = id' := by
  have hlists := congrArg String.toList h
  unfold tableName at hlists
  rw [String.toList_append, String.toList_append] at hlists
  exact String.toList_injective (List.append_cancel_left hlists)

namespace IsSound

variable {filters : List Json} {e d : Engine σ ρ}

/-- Once the pages of a dataset are dropped the caches have none of them. -/
theorem lacks_invalidate (h : e.IsSound filters) (now : Instant) {id : String}
    (hid : isDatasetId id = true) : (e.cache.invalidate now id).2.Lacks id := by
  obtain ⟨hshrinks, hgone⟩ := e.cache.invalidate_spec now id
  intro page limit filter value hheld
  cases henabled : e.cache.enabled with
  | false => exact h.unused henabled _ value (hshrinks.holds _ value hheld)
  | true =>
    have hnone := hgone henabled h.answers
      (fun hin => (isPlainPattern_keyNamespace (h.plain hin) hid).listsStart) _ value hheld
    rw [TieredCache.keyFor, hshrinks.keyPrefix, beginsWith_cacheKey] at hnone
    cases hnone

/-- The caches have no pages of datasets that are not registered. -/
theorem lacks_of_find? (h : e.IsSound filters) {id : String} (hid : isDatasetId id = true)
    (hnone : e.registry.find? id = none) : e.cache.Lacks id := by
  intro page limit filter value hheld
  obtain ⟨id', filter', page', limit', p, -, -, hkey, -, hfresh⟩ := h.backed _ _ hheld
  obtain ⟨table, _, -, htable, -⟩ := freshPage_eq_ok.mp hfresh
  obtain ⟨hid', hfind⟩ := Registry.get_eq_ok.mp htable
  obtain ⟨rfl, -, -, -⟩ := cacheKey_inj hid hid' hkey
  rw [hnone] at hfind
  cases hfind

/-- What happens to one dataset leaves the others, and its own pages are not in the caches. -/
theorem of_others (h : e.IsSound filters) {id : String} (hconfig : d.config = e.config)
    (hnamed : d.registry.IsNamed) (hcache : e.cache.Shrinks d.cache) (hlacks : d.cache.Lacks id)
    (hothers : ∀ id' filter page limit p, id' ≠ id → e.freshPage id' filter page limit = .ok p →
      d.freshPage id' filter page limit = .ok p) : d.IsSound filters := by
  have hkeep (id' : String) (page limit : Nat) (filter : Json) :
      d.cache.keyFor id' page limit filter = e.cache.keyFor id' page limit filter := by
    rw [TieredCache.keyFor, TieredCache.keyFor, hcache.keyPrefix]
  refine ⟨hnamed, hconfig ▸ h.quiet, hcache.answers h.answers, fun hin => ?_, fun hoff k v hv => ?_,
    fun k v hv => ?_⟩
  · rw [hcache.keyPrefix]
    exact h.plain (hcache.attached ▸ hin)
  · exact h.unused (hcache.enabled ▸ hoff) k v (hcache.holds k v hv)
  · obtain ⟨id', filter, page, limit, p, hfilter, hreads, rfl, rfl, hfresh⟩ :=
      h.backed k v (hcache.holds k v hv)
    refine ⟨id', filter, page, limit, p, hfilter, hreads, (hkeep ..).symm, rfl, ?_⟩
    refine hothers id' filter page limit p (fun heq => ?_) hfresh
    rw [← hkeep, heq] at hv
    exact hlacks page limit filter _ hv

/-! ## Operations -/

/-- The registry changes for one dataset, whose pages are not in the caches afterwards. -/
theorem of_differs (h : e.IsSound filters) {id : String} {registry : Registry}
    {cache : TieredCache ρ} (hregistry : e.registry.Differs id registry)
    (hcache : e.cache.Shrinks cache) (hlacks : cache.Lacks id) :
    IsSound filters { e with registry, cache } := by
  refine h.of_others rfl (hregistry.named h.named) hcache hlacks
    fun id' filter page limit p hne => freshPage_of_find? rfl ?_ fun _ _ _ => rfl
  rw [hregistry.others id' hne]

theorem register (h : e.IsSound filters) (now : Instant) (id : String) (specs : List ColumnSpec) :
    ((Engine.register now id specs).exec e).2.IsSound filters ∧
      (EngineOperation.Outdates e (.register id specs) →
        ((Engine.register now id specs).exec e).2.cache.Lacks id) := by
  rw [register_exec]
  simp only [EngineOperation.Outdates]
  cases hregister : e.registry.register id specs with
  | error fault => exact ⟨h, by rintro ⟨_, _, hout⟩; cases hout⟩
  | ok out =>
    obtain ⟨table, registration, registry⟩ := out
    obtain ⟨hdiffers, hreused, hadded⟩ := Registry.register_differs hregister
    have hgone := h.lacks_invalidate now hdiffers.valid
    cases registration with
    | reused =>
      rw [hreused rfl]
      exact ⟨h, by rintro ⟨_, _, hout⟩; cases hout⟩
    | added =>
      refine ⟨h.of_differs hdiffers (.refl _) (h.lacks_of_find? hdiffers.valid (hadded rfl)), ?_⟩
      rintro ⟨_, _, hout⟩
      cases hout
    | replaced =>
      exact ⟨h.of_differs hdiffers (e.cache.invalidate_spec now id).1 hgone, fun _ => hgone⟩

theorem drop (h : e.IsSound filters) (now : Instant) (id : String) :
    ((Engine.drop now id).exec e).2.IsSound filters ∧
      (EngineOperation.Outdates e (.drop id) →
        ((Engine.drop now id).exec e).2.cache.Lacks id) := by
  rw [drop_exec]
  simp only [EngineOperation.Outdates]
  cases hdrop : e.registry.drop id with
  | error fault => exact ⟨h, by rintro ⟨_, hout⟩; cases hout⟩
  | ok out =>
    obtain ⟨found, registry⟩ := out
    obtain ⟨hdiffers, hnone⟩ := Registry.drop_differs hdrop
    have hgone := h.lacks_invalidate now hdiffers.valid
    cases found with
    | false =>
      refine ⟨h.of_differs hdiffers (.refl _) (h.lacks_of_find? hdiffers.valid (hnone rfl)), ?_⟩
      rintro ⟨_, hout⟩
      cases hout
    | true =>
      exact ⟨h.of_differs hdiffers (e.cache.invalidate_spec now id).1 hgone, fun _ => hgone⟩

/-- A write may change the pages of its dataset only, and they are dropped. -/
theorem write [LawfulStore σ] (h : e.IsSound filters) (now : Instant) (id : String)
    (request : WriteRequest) :
    ((request.perform now id).exec e).2.IsSound filters ∧
      (EngineOperation.Outdates e (.write id request) →
        ((request.perform now id).exec e).2.cache.Lacks id) := by
  rw [WriteRequest.perform_exec]
  simp only [EngineOperation.Outdates]
  cases htable : e.registry.get id with
  | error fault => exact ⟨h, by rintro ⟨_, _, hout, -⟩; cases hout⟩
  | ok table =>
    cases hplan : (request.plan e.config.query.maxInList table : Except _ (Action σ Nat × _)) with
    | error fault =>
      simp only [hplan]
      refine ⟨h, ?_⟩
      rintro ⟨_, _, hout, hplan'⟩
      cases hout
      rw [hplan] at hplan'
      cases hplan'
    | ok planned =>
      obtain ⟨write, dropped⟩ := planned
      simp only [hplan]
      obtain ⟨hid, hfind⟩ := Registry.get_eq_ok.mp htable
      have hgone := h.lacks_invalidate now hid
      refine ⟨h.of_others rfl h.named (e.cache.invalidate_spec now id).1 hgone ?_, fun _ => hgone⟩
      intro id' filter page limit p hne
      refine freshPage_of_find? rfl rfl fun other request' hother => ?_
      refine WriteRequest.plan_keepsOthers hplan _ _ _ _ _ fun hname => hne ?_
      obtain ⟨hmem, rfl⟩ := Registry.mem_of_find? hfind
      obtain ⟨hmem', rfl⟩ := Registry.mem_of_find? hother
      rw [h.named _ hmem, h.named _ hmem'] at hname
      exact tableName_injective hname

/-- A query puts the page that the store has into the caches, if any. -/
theorem query [LawfulStore σ] (h : e.IsSound filters) (now : Instant) (id : String) {filter : Json}
    (page limit : Nat) (hfilter : filter ∈ filters)
    (hreads : ∀ p, e.freshPage id filter page limit = .ok p → p.ReadsBack) :
    ((Engine.query now id filter page limit).exec e).2.IsSound filters := by
  obtain ⟨halike, hfollows, -, hholds⟩ := query_spec now filter h.quiet id page limit
  have hkeep (id' : String) (page' limit' : Nat) (filter' : Json) :
      ((Engine.query now id filter page limit).exec e).2.cache.keyFor id' page' limit' filter' =
        e.cache.keyFor id' page' limit' filter' := by
    rw [TieredCache.keyFor, TieredCache.keyFor, hfollows.keyPrefix]
  have hbacked {k v : String} (hv : e.IsBacked filters k v) :
      ((Engine.query now id filter page limit).exec e).2.IsBacked filters k v := by
    obtain ⟨id', filter', page', limit', p, hfilter', hreads', rfl, rfl, hfresh⟩ := hv
    exact ⟨id', filter', page', limit', p, hfilter', hreads', (hkeep ..).symm, rfl,
      halike.freshPage_eq_ok hfresh⟩
  refine ⟨?_, halike.config ▸ h.quiet, hfollows.answers h.answers, fun hin => ?_,
    fun hoff k v hv => ?_, fun k v hv => ?_⟩
  · rw [← Registry.isNamed_forget, ← halike.registry, Registry.isNamed_forget]
    exact h.named
  · rw [hfollows.keyPrefix]
    exact h.plain (hfollows.attached ▸ hin)
  · have hsame := (query_disabled now filter h.quiet (hfollows.enabled ▸ hoff) id page limit).2.2
    rw [hsame] at hv
    exact h.unused (hfollows.enabled ▸ hoff) k v hv
  · rcases hholds k v hv with hv | ⟨p, hfresh, rfl, rfl⟩
    · exact hbacked (h.backed k v hv)
    · exact hbacked ⟨id, filter, page, limit, p, hfilter, hreads p hfresh, rfl, rfl, hfresh⟩

/-- A query answers the page that the store has. -/
theorem query_answer [LawfulStore σ] (h : e.IsSound filters) (now : Instant) (id : String)
    {filter : Json} (page limit : Nat)
    (hapart : ∀ f ∈ filters, DigestsApart f filter) {p : ResultPage}
    (hp : ((Engine.query now id filter page limit).exec e).1 = .ok p) :
    e.freshPage id filter page limit = .ok p := by
  obtain ⟨-, -, hanswer, -⟩ := query_spec now filter h.quiet id page limit
  rcases hanswer p hp with ⟨text, hheld, htext⟩ | hfresh
  · obtain ⟨id', filter', page', limit', p', hfilter', hreads, hkey, rfl, hfresh⟩ :=
      h.backed _ _ hheld
    obtain ⟨table, _, -, htable, -⟩ := freshPage_eq_ok.mp hfresh
    obtain ⟨rfl, rfl, rfl, hdigest⟩ := cacheKey_inj (valid_of_query hp) (Registry.get_eq_ok.mp htable).1 hkey
    cases hreads p htext
    exact freshPage_of_filterDigest hdigest.symm (hapart filter' hfilter') hfresh
  · exact hfresh

/-- One operation keeps what is in the caches sound. -/
theorem perform [LawfulStore σ] (h : e.IsSound filters) (now : Instant) (op : EngineOperation)
    (hfilter : ∀ filter, op.filter? = some filter → filter ∈ filters)
    (hreads : ∀ id filter page limit p, op = .query id filter page limit →
      e.freshPage id filter page limit = .ok p → p.ReadsBack) :
    ((op.perform now).exec e).2.IsSound filters := by
  cases op with
  | register id specs =>
    rw [EngineOperation.perform, Action.exec_map]
    exact (h.register now id specs).1
  | drop id =>
    rw [EngineOperation.perform, Action.exec_map]
    exact (h.drop now id).1
  | query id filter page limit =>
    rw [EngineOperation.perform, Action.exec_map]
    exact h.query now id page limit (hfilter filter rfl) (hreads id filter page limit · rfl)
  | write id request =>
    rw [EngineOperation.perform, Action.exec_map]
    exact (h.write now id request).1

/-- The pages that an operation outdates are dropped before it ends. -/
theorem lacks_perform [LawfulStore σ] (h : e.IsSound filters) (now : Instant)
    {op : EngineOperation} (hout : op.Outdates e) :
    ((op.perform now).exec e).2.cache.Lacks op.datasetId := by
  cases op with
  | register id specs =>
    rw [EngineOperation.perform, Action.exec_map]
    exact (h.register now id specs).2 hout
  | drop id =>
    rw [EngineOperation.perform, Action.exec_map]
    exact (h.drop now id).2 hout
  | query id filter page limit => exact hout.elim
  | write id request =>
    rw [EngineOperation.perform, Action.exec_map]
    exact (h.write now id request).2 hout

end IsSound

end Engine

end TableQuery
