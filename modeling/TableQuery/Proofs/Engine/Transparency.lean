import TableQuery.Proofs.Cache.Distributed
import TableQuery.Proofs.Engine.Soundness
import TableQuery.Proofs.Store.Rows

/-!
# Caches do not show

An engine whose caches are empty at the start answers the pages that it would answer without
caches.

* `Engine.perform_alike`: an engine without caches goes along with one that has them.
* `Engine.IsSound.run`: a run of operations.
* `Engine.cache_transparent`: the answers of a run, and what the caches have after a write.
-/

namespace TableQuery

namespace Engine

variable {σ ρ : Type} [Store σ] [DistributedTier ρ] [LawfulTier ρ]

/-! ## An engine without caches -/

section

variable {e u : Engine σ ρ}

omit [LawfulTier ρ] [Store σ] in
/-- Results that are the same but for row counts are refused alike. -/
theorem map_eq_map_cases {α β ε : Type} {f : α → β} {x y : Except ε α} (h : x.map f = y.map f) :
    (∃ fault, x = .error fault ∧ y = .error fault) ∨
      ∃ a b, x = .ok a ∧ y = .ok b ∧ f a = f b := by
  cases x with
  | error fault =>
    cases y with
    | error fault' => cases h; exact .inl ⟨fault, rfl, rfl⟩
    | ok b => cases h
  | ok a =>
    cases y with
    | error fault => cases h
    | ok b => exact .inr ⟨a, b, rfl, rfl, Except.ok.inj h⟩

omit [LawfulTier ρ] [Store σ] in
theorem register_alike (h : e.Alike u) (now : Instant) (id : String) (specs : List ColumnSpec) :
    ((register now id specs).exec e).2.Alike ((register now id specs).exec u).2 := by
  have hforget := Registry.register_forget e.registry id specs
  rw [h.registry, Registry.register_forget] at hforget
  rw [register_exec, register_exec]
  rcases map_eq_map_cases hforget with ⟨fault, hu, he⟩ | ⟨out, out', hu, he, hsame⟩
  · rw [hu, he]
    exact h
  · obtain ⟨table, registration, registry⟩ := out
    obtain ⟨table', registration', registry'⟩ := out'
    obtain ⟨-, hsame⟩ := Prod.mk.inj hsame
    obtain ⟨rfl, hregistry⟩ := Prod.mk.inj hsame
    simp only [hu, he]
    cases registration <;> exact ⟨h.config, hregistry.symm, h.store⟩

omit [LawfulTier ρ] [Store σ] in
theorem drop_alike (h : e.Alike u) (now : Instant) (id : String) :
    ((drop now id).exec e).2.Alike ((drop now id).exec u).2 := by
  have hforget := Registry.drop_forget e.registry id
  rw [h.registry, Registry.drop_forget] at hforget
  rw [drop_exec, drop_exec]
  rcases map_eq_map_cases hforget with ⟨fault, hu, he⟩ | ⟨out, out', hu, he, hsame⟩
  · rw [hu, he]
    exact h
  · obtain ⟨found, registry⟩ := out
    obtain ⟨found', registry'⟩ := out'
    obtain ⟨rfl, hregistry⟩ := Prod.mk.inj hsame
    simp only [hu, he]
    cases found <;> exact ⟨h.config, hregistry.symm, h.store⟩

omit [LawfulTier ρ] in
theorem write_alike (h : e.Alike u) (now : Instant) (id : String) (request : WriteRequest) :
    ((request.perform now id).exec e).2.Alike ((request.perform now id).exec u).2 := by
  have hforget := Registry.get_forget e.registry id
  rw [h.registry, Registry.get_forget] at hforget
  rw [WriteRequest.perform_exec, WriteRequest.perform_exec]
  rcases map_eq_map_cases hforget with ⟨fault, hu, he⟩ | ⟨table, table', hu, he, hsame⟩
  · rw [hu, he]
    exact h
  · simp only [hu, he]
    rw [← WriteRequest.plan_forget _ table', ← hsame, WriteRequest.plan_forget, h.config]
    cases (request.plan u.config.query.maxInList table : Except _ (Action σ Nat × List String)) with
    | error fault => exact h
    | ok planned =>
      exact ⟨h.config, h.registry, by show (planned.1.exec e.store).2 = _; rw [h.store]; rfl⟩

omit [LawfulTier ρ] [DistributedTier ρ] in
/-- Whether pages are outdated does not depend on the caches. -/
theorem Alike.outdates (h : e.Alike u) {op : EngineOperation} (hout : op.Outdates e) :
    op.Outdates u := by
  cases op with
  | register id specs =>
    obtain ⟨table, registry, hregister⟩ := hout
    have hforget := Registry.register_forget e.registry id specs
    rw [h.registry, Registry.register_forget, hregister] at hforget
    obtain ⟨out, hu, hsame⟩ := map_eq_ok.mp hforget
    obtain ⟨table', registration, registry'⟩ := out
    cases (Prod.mk.inj (Prod.mk.inj hsame).2).1
    exact ⟨table', registry', hu⟩
  | drop id =>
    obtain ⟨registry, hdrop⟩ := hout
    have hforget := Registry.drop_forget e.registry id
    rw [h.registry, Registry.drop_forget, hdrop] at hforget
    obtain ⟨⟨found, registry'⟩, hu, hsame⟩ := map_eq_ok.mp hforget
    cases (Prod.mk.inj hsame).1
    exact ⟨registry', hu⟩
  | query id filter page limit => exact hout.elim
  | write id request =>
    obtain ⟨table, planned, htable, hplan⟩ := hout
    have hforget := Registry.get_forget e.registry id
    rw [h.registry, Registry.get_forget, htable] at hforget
    obtain ⟨table', hu, hsame⟩ := map_eq_ok.mp hforget
    refine ⟨table', planned, hu, ?_⟩
    rw [← WriteRequest.plan_forget _ table', hsame, WriteRequest.plan_forget, ← h.config]
    exact hplan

variable [LawfulStore σ]

/-- What engines do does not depend on their caches, apart from the answers. -/
theorem perform_alike (h : e.Alike u) (hquiet : e.config.advisorEnabled = false) (now : Instant)
    (op : EngineOperation) :
    ((op.perform now).exec e).2.Alike ((op.perform now).exec u).2 := by
  cases op with
  | register id specs =>
    rw [EngineOperation.perform, Action.exec_map, Action.exec_map]
    exact register_alike h now id specs
  | drop id =>
    rw [EngineOperation.perform, Action.exec_map, Action.exec_map]
    exact drop_alike h now id
  | query id filter page limit =>
    rw [EngineOperation.perform, Action.exec_map, Action.exec_map]
    have he := (query_spec now filter hquiet id page limit).1
    have hu := (query_spec now filter (h.config ▸ hquiet) id page limit).1
    exact he.symm.trans (h.trans hu)
  | write id request =>
    rw [EngineOperation.perform, Action.exec_map, Action.exec_map]
    exact write_alike h now id request

omit [LawfulTier ρ] in
/-- Caches that are not in use stay as they are. -/
theorem perform_disabled (hdisabled : u.cache.enabled = false)
    (hquiet : u.config.advisorEnabled = false) (now : Instant) (op : EngineOperation) :
    ((op.perform now).exec u).2.cache = u.cache := by
  have hinvalidate := TieredCache.invalidate_disabled hdisabled now
  cases op with
  | register id specs =>
    rw [EngineOperation.perform, Action.exec_map, register_exec]
    cases u.registry.register id specs with
    | error fault => rfl
    | ok out =>
      obtain ⟨table, registration, registry⟩ := out
      cases registration with
      | replaced => exact hinvalidate id
      | reused => rfl
      | added => rfl
  | drop id =>
    rw [EngineOperation.perform, Action.exec_map, drop_exec]
    cases u.registry.drop id with
    | error fault => rfl
    | ok out =>
      obtain ⟨found, registry⟩ := out
      cases found with
      | false => rfl
      | true => exact hinvalidate id
  | query id filter page limit =>
    rw [EngineOperation.perform, Action.exec_map]
    exact (query_disabled now filter hquiet hdisabled id page limit).2.2
  | write id request =>
    rw [EngineOperation.perform, Action.exec_map, WriteRequest.perform_exec]
    cases u.registry.get id with
    | error fault => rfl
    | ok table =>
      simp only
      cases (request.plan u.config.query.maxInList table :
        Except _ (Action σ Nat × List String)) with
      | error fault => rfl
      | ok planned => exact hinvalidate id

/-- A page that an engine with sound caches answers, an engine without caches answers too. -/
theorem IsSound.perform_answer {filters : List Json} (h : e.IsSound filters) (halike : e.Alike u)
    (hdisabled : u.cache.enabled = false) (now : Instant) (op : EngineOperation)
    (hfilter : ∀ filter, op.filter? = some filter → ∀ f ∈ filters, DigestsApart f filter)
    {p : ResultPage} (hp : ((op.perform now).exec e).1 = .ok (.page p)) :
    ((op.perform now).exec u).1 = .ok (.page p) := by
  cases op with
  | query id filter page limit =>
    rw [EngineOperation.perform, Action.exec_map] at hp ⊢
    obtain ⟨p', hp, hpage⟩ := map_eq_ok.mp hp
    cases hpage
    have hfresh := h.query_answer now id page limit (hfilter filter rfl) hp
    rw [(query_disabled now filter (halike.config ▸ h.quiet) hdisabled id page limit).1,
      halike.freshPage_eq_ok hfresh]
    rfl
  | register id specs =>
    rw [EngineOperation.perform, Action.exec_map] at hp
    obtain ⟨_, -, hpage⟩ := map_eq_ok.mp hp
    cases hpage
  | drop id =>
    rw [EngineOperation.perform, Action.exec_map] at hp
    obtain ⟨_, -, hpage⟩ := map_eq_ok.mp hp
    cases hpage
  | write id request =>
    rw [EngineOperation.perform, Action.exec_map] at hp
    obtain ⟨_, -, hpage⟩ := map_eq_ok.mp hp
    cases hpage

/-! ## Runs -/

/-- The filters of the queries of a run. -/
def filtersOf (run : List (Instant × EngineOperation)) : List Json := run.filterMap (·.2.filter?)

omit [LawfulTier ρ] [LawfulStore σ] in
theorem afterRun_append (run more : List (Instant × EngineOperation)) (e : Engine σ ρ) :
    e.afterRun (run ++ more) = (e.afterRun run).afterRun more := by
  induction run generalizing e with
  | nil => rfl
  | cons entry rest ih => exact ih _

/-- A run keeps the caches sound, and its pages are those of an engine without caches. -/
theorem IsSound.run {filters : List Json} (run : List (Instant × EngineOperation))
    (h : e.IsSound filters) (halike : e.Alike u) (hdisabled : u.cache.enabled = false)
    (hfilters : ∀ filter ∈ filtersOf run, filter ∈ filters)
    (hapart : ∀ f ∈ filters, ∀ g ∈ filters, DigestsApart f g)
    (hreads : ∀ p ∈ u.pages run, p.ReadsBack) :
    (e.afterRun run).IsSound filters ∧
      ∀ (i : Nat) p, (e.answers run)[i]? = some (.ok (.page p)) →
        (u.answers run)[i]? = some (.ok (.page p)) := by
  induction run generalizing e u with
  | nil => exact ⟨h, fun _ _ hp => by cases hp⟩
  | cons entry rest ih =>
    obtain ⟨now, op⟩ := entry
    have hquiet : u.config.advisorEnabled = false := halike.config ▸ h.quiet
    have hcache := perform_disabled hdisabled hquiet now op
    have hop (filter : Json) (hfilter : op.filter? = some filter) : filter ∈ filters :=
      hfilters filter (List.mem_filterMap.mpr ⟨(now, op), List.mem_cons_self, hfilter⟩)
    have hnext := h.perform now op hop fun id filter page limit p hquery hfresh => by
      refine hreads p (mem_pages.mpr (List.mem_cons.mpr (.inl ?_)))
      subst hquery
      show _ = ((EngineOperation.perform now (.query id filter page limit)).exec u).1
      rw [EngineOperation.perform, Action.exec_map,
        (query_disabled now filter hquiet hdisabled id page limit).1,
        halike.freshPage_eq_ok hfresh]
      rfl
    obtain ⟨hsound, hrest⟩ := ih hnext (perform_alike halike h.quiet now op)
      (by rw [hcache]; exact hdisabled)
      (fun filter hfilter => hfilters filter (by
        obtain ⟨entry, hentry, hsome⟩ := List.mem_filterMap.mp hfilter
        exact List.mem_filterMap.mpr ⟨entry, List.mem_cons_of_mem _ hentry, hsome⟩))
      (fun p hp => hreads p (mem_pages.mpr (List.mem_cons_of_mem _ (mem_pages.mp hp))))
    refine ⟨hsound, fun i p hp => ?_⟩
    cases i with
    | zero =>
      have hp := Option.some.inj hp
      exact congrArg some (h.perform_answer halike hdisabled now op
        (fun filter hfilter f hf => hapart f hf filter (hop filter hfilter)) hp)
    | succ i => exact hrest i p hp

omit [LawfulTier ρ] [LawfulStore σ] in
theorem answers_append (run more : List (Instant × EngineOperation)) (e : Engine σ ρ) :
    e.answers (run ++ more) = e.answers run ++ (e.afterRun run).answers more := by
  induction run generalizing e with
  | nil => rfl
  | cons entry rest ih => exact congrArg (_ :: ·) (ih _)

omit [LawfulStore σ] in
/-- An engine with empty caches is sound. -/
theorem isSound_start {config : Config} {cache : TieredCache ρ} {store : σ} {filters : List Json}
    (hquiet : config.advisorEnabled = false) (hempty : ∀ key value, ¬cache.Holds key value)
    (hanswers : cache.Answers) (hplain : cache.attached = true → IsPlainPattern cache.keyPrefix) :
    (start config cache store).IsSound filters where
  named := Registry.isNamed_empty
  quiet := hquiet
  answers := hanswers
  plain := hplain
  unused _ := hempty
  backed key value hheld := absurd hheld (hempty key value)

/-- With empty caches at its start, an engine answers the pages that it would answer without
caches, whatever fails on the way. Once a write has got to the store, or the columns of a dataset
have been replaced or forgotten, the caches have no page of the dataset, so that none from before
can come back. -/
theorem cache_transparent (config : Config) (cache : TieredCache ρ) (store : σ)
    (run : List (Instant × EngineOperation)) (hquiet : config.advisorEnabled = false)
    (hempty : ∀ key value, ¬cache.Holds key value) (hanswers : cache.Answers)
    (hplain : cache.attached = true → IsPlainPattern cache.keyPrefix)
    (hapart : ∀ f ∈ filtersOf run, ∀ g ∈ filtersOf run, DigestsApart f g)
    (hreads : ∀ p ∈ (start config { cache with enabled := false } store).pages run, p.ReadsBack) :
    (∀ (i : Nat) p, ((start config cache store).answers run)[i]? = some (.ok (.page p)) →
      ((start config { cache with enabled := false } store).answers run)[i]? =
        some (.ok (.page p))) ∧
      ∀ before now op after, run = before ++ (now, op) :: after →
        op.Outdates ((start config cache store).afterRun before) →
          ((start config cache store).afterRun (before ++ [(now, op)])).cache.Lacks
            op.datasetId := by
  have hstart : (start config cache store).IsSound (filtersOf run) :=
    isSound_start hquiet hempty hanswers hplain
  have halike : (start config cache store).Alike (start config { cache with enabled := false } store) :=
    ⟨rfl, rfl, rfl⟩
  refine ⟨(hstart.run run halike rfl (fun _ h => h) hapart hreads).2, ?_⟩
  rintro before now op after rfl hout
  have hbefore := (hstart.run before halike rfl (fun filter hfilter => ?_) hapart fun p hp => ?_).1
  · rw [afterRun_append]
    exact hbefore.lacks_perform now hout
  · obtain ⟨entry, hentry, hsome⟩ := List.mem_filterMap.mp hfilter
    exact List.mem_filterMap.mpr ⟨entry, List.mem_append_left _ hentry, hsome⟩
  · refine hreads p (mem_pages.mpr ?_)
    rw [answers_append]
    exact List.mem_append_left _ (mem_pages.mp hp)

end

/-! ### A page before and after a write -/

/-- A sale of the north, and the filter for it. -/
def northSales : Json := .object [("region", .string "north")]

/-- The north is asked for before and after its first sale. -/
def saleRun : List (Instant × EngineOperation) := [
  (⟨0⟩, .register saleTable.datasetId [⟨"region", "string", none⟩]),
  (⟨1⟩, .query saleTable.datasetId northSales 1 10),
  (⟨2⟩, .write saleTable.datasetId (.insert [northSales])),
  (⟨3⟩, .query saleTable.datasetId northSales 1 10)]

/-- Both caches are in use and empty. -/
def saleCache : TieredCache SwitchableTier := .make .default ⟨0⟩ .empty true

/-- No sales. -/
def noSales : ResultPage := ⟨[], 0, 1, 10, 0⟩

/-- The first sale. -/
def firstSale : ResultPage := ⟨[[("id", .int 1), ("region", .string "north")]], 1, 1, 10, 1⟩

theorem cache_transparent_sale :
    let e := start { Config.default with advisorEnabled := false } saleCache RowStore.empty
    (∀ p, (e.answers saleRun)[3]? = some (.ok (.page p)) → p = firstSale) ∧
      (e.afterRun (saleRun.take 3)).cache.Lacks saleTable.datasetId := by
  intro e
  have hempty (key value : String) : ¬saleCache.Holds key value := by
    rintro (⟨entry, hentry, -⟩ | ⟨-, hvalue⟩)
    · cases hentry
    · cases hvalue
  have hplain : IsPlainPattern saleCache.keyPrefix := fun c hc => by
    have hall : saleCache.keyPrefix.toList.all (· ∉ globCharacters) = true := by decide
    simpa using List.all_eq_true.mp hall c hc
  have hapart : ∀ f ∈ filtersOf saleRun, ∀ g ∈ filtersOf saleRun, DigestsApart f g := by
    have hnorth {f : Json} (hf : f ∈ filtersOf saleRun) : f = northSales := by
      have hf : f ∈ [northSales, northSales] := hf
      simpa using hf
    intro f hf g hg
    rw [hnorth hf, hnorth hg]
    exact fun _ => rfl
  have hpages : ((start { Config.default with advisorEnabled := false }
      { saleCache with enabled := false } RowStore.empty).answers saleRun).map EngineAnswer.page? =
        [none, some noSales, none, some firstSale] := by
    decide +kernel
  obtain ⟨hanswers, hlacks⟩ := cache_transparent _ saleCache RowStore.empty saleRun rfl hempty
    (fun _ => rfl) (fun _ => hplain) hapart fun p hp => by
      have hp := List.mem_map.mpr (List.mem_filterMap.mp hp)
      rw [hpages] at hp
      have hp : p = noSales ∨ p = firstSale := by simpa using hp
      rcases hp with rfl | rfl
      · decide +kernel
      · decide +kernel
  refine ⟨fun p hp => ?_, ?_⟩
  · have hp := congrArg (Option.map EngineAnswer.page?) (hanswers 3 p hp)
    rw [← List.getElem?_map, hpages] at hp
    exact (Option.some.inj (Option.some.inj hp)).symm
  · refine hlacks (saleRun.take 2) ⟨2⟩ _ (saleRun.drop 3) rfl ?_
    have hregistered : EngineOperation.Outdates (e.afterRun (saleRun.take 1))
        (.write saleTable.datasetId (.insert [northSales])) := ⟨_, _, rfl, rfl⟩
    show EngineOperation.Outdates ((EngineOperation.perform ⟨1⟩
      (.query saleTable.datasetId northSales 1 10)).exec (e.afterRun (saleRun.take 1))).2 _
    rw [EngineOperation.perform, Action.exec_map]
    exact (query_spec ⟨1⟩ northSales rfl saleTable.datasetId 1 10).1.outdates hregistered

end Engine

end TableQuery
