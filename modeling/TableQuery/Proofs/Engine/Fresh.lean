import TableQuery.Proofs.Cache.Key
import TableQuery.Proofs.Engine.Operation

/-!
# Pages as the store has them

What a query answers without caches, and what becomes of it when other things happen.

* `Engine.freshPage`: the page that the store has for a query.
* `Engine.Alike`: engines that differ in their caches and row counts at most.
* `freshPage_of_filterDigest`: filters with one digest have one page.
* `query_spec`: a query answers the page in a cache or the page that the store has.
* `WriteRequest.plan_keepsOthers`: a write to one table leaves the pages of the others.
-/

namespace TableQuery

variable {σ ρ : Type} [Store σ]

namespace Engine

/-- The page that the store has for a query. -/
def freshPage (e : Engine σ ρ) (id : String) (filter : Json) (page limit : Nat) :
    Except QueryError ResultPage := do
  let (table, request) ← e.requested id page limit
  storePage e.config e.store table filter request

omit [Store σ] in
theorem requested_eq_ok {e : Engine σ ρ} {id : String} {page limit : Nat} {table : Table}
    {request : PageRequest} :
    e.requested id page limit = .ok (table, request) ↔
      PageRequest.make page limit = .ok request ∧ e.registry.get id = .ok table := by
  unfold requested
  constructor
  · intro h
    obtain ⟨_, -, h⟩ := bind_eq_ok.mp h
    obtain ⟨request', hrequest, h⟩ := bind_eq_ok.mp h
    obtain ⟨table', htable, h⟩ := bind_eq_ok.mp h
    cases h
    cases hmake : PageRequest.make page limit with
    | error fault => rw [hmake] at hrequest; cases hrequest
    | ok made => rw [hmake] at hrequest; cases hrequest; exact ⟨rfl, htable⟩
  · rintro ⟨hrequest, htable⟩
    have hid : checkDatasetId id = .ok () := by
      unfold checkDatasetId
      rw [(Registry.get_eq_ok.mp htable).1]
      rfl
    rw [hrequest]
    exact bind_eq_ok.mpr ⟨(), hid, bind_eq_ok.mpr ⟨request, rfl,
      bind_eq_ok.mpr ⟨table, htable, rfl⟩⟩⟩

theorem freshPage_eq_ok {e : Engine σ ρ} {id : String} {filter : Json} {page limit : Nat}
    {p : ResultPage} :
    e.freshPage id filter page limit = .ok p ↔
      ∃ table request, PageRequest.make page limit = .ok request ∧ e.registry.get id = .ok table ∧
        storePage e.config e.store table filter request = .ok p := by
  constructor
  · intro h
    obtain ⟨⟨table, request⟩, hrequested, h⟩ := bind_eq_ok.mp h
    obtain ⟨hrequest, htable⟩ := requested_eq_ok.mp hrequested
    exact ⟨table, request, hrequest, htable, h⟩
  · rintro ⟨table, request, hrequest, htable, h⟩
    exact bind_eq_ok.mpr ⟨(table, request), requested_eq_ok.mpr ⟨hrequest, htable⟩, h⟩

/-- Filters with one digest have one page. -/
theorem freshPage_of_filterDigest [LawfulStore σ] {e : Engine σ ρ} {id : String} {f g : Json}
    {page limit : Nat} {p : ResultPage} (hdigest : filterDigest f = filterDigest g)
    (hapart : DigestsApart f g) (h : e.freshPage id f page limit = .ok p) :
    e.freshPage id g page limit = .ok p := by
  obtain ⟨table, request, hrequest, htable, h⟩ := freshPage_eq_ok.mp h
  refine freshPage_eq_ok.mpr ⟨table, request, hrequest, htable, ?_⟩
  rcases filterDigest_cases hdigest hapart with ⟨hf, hg⟩ | hcanonical
  · rwa [storePage_of_isNoFilter hg hf]
  · exact storePage_canonical hcanonical h

/-! ## Engines that differ in their caches -/

/-- The engines differ in their caches and row counts at most. -/
structure Alike (e u : Engine σ ρ) : Prop where
  config : e.config = u.config
  registry : e.registry.forget = u.registry.forget
  store : e.store = u.store

namespace Alike

omit [Store σ]

theorem refl (e : Engine σ ρ) : e.Alike e := ⟨rfl, rfl, rfl⟩

theorem symm {e u : Engine σ ρ} (h : e.Alike u) : u.Alike e :=
  ⟨h.config.symm, h.registry.symm, h.store.symm⟩

theorem trans {e u v : Engine σ ρ} (h : e.Alike u) (h' : u.Alike v) : e.Alike v :=
  ⟨h.config.trans h'.config, h.registry.trans h'.registry, h.store.trans h'.store⟩

end Alike

/-- The page does not change where the table of its dataset and what is read of it do not. -/
theorem freshPage_of_find? {e d : Engine σ ρ} {id : String} {filter : Json} {page limit : Nat}
    {p : ResultPage} (hconfig : e.config = d.config)
    (hfind : (e.registry.find? id).map Table.forget = (d.registry.find? id).map Table.forget)
    (hstore : ∀ table request, e.registry.find? id = some table →
      storePage d.config d.store table filter request =
        storePage d.config e.store table filter request)
    (h : e.freshPage id filter page limit = .ok p) : d.freshPage id filter page limit = .ok p := by
  obtain ⟨table, request, hrequest, htable, h⟩ := freshPage_eq_ok.mp h
  obtain ⟨hid, htable⟩ := Registry.get_eq_ok.mp htable
  rw [htable, Option.map_some] at hfind
  obtain ⟨table', htable', hforget⟩ := Option.map_eq_some_iff.mp hfind.symm
  refine freshPage_eq_ok.mpr ⟨table', request, hrequest, Registry.get_eq_ok.mpr ⟨hid, htable'⟩, ?_⟩
  rw [← storePage_forget table', hforget, storePage_forget, hstore table request htable, ← hconfig]
  exact h

theorem Alike.freshPage_eq_ok {e u : Engine σ ρ} (h : e.Alike u) {id : String} {filter : Json}
    {page limit : Nat} {p : ResultPage} (hp : e.freshPage id filter page limit = .ok p) :
    u.freshPage id filter page limit = .ok p := by
  refine freshPage_of_find? h.config ?_ (fun table request _ => ?_) hp
  · rw [← Registry.find?_forget, ← Registry.find?_forget, h.registry]
  · rw [h.store]

/-! ## Reads -/

section

variable [LawfulStore σ] {e : Engine σ ρ} (now : Instant) (filter : Json)

/-- Reading a page leaves the engine as it is. -/
theorem readFresh_exec (table : Table) (request : PageRequest) :
    ∃ answer, (readFresh table filter request).exec e = (answer, e) ∧
      answer.map (·.2) = storePage e.config e.store table filter request := by
  unfold readFresh compile storePage
  simp only [Action.exec_bind, Action.exec_get, Action.exec_request]
  cases Query.compile e.config.query.maxInList table filter request with
  | error fault => exact ⟨_, rfl, rfl⟩
  | ok q =>
    simp only [Except.mapError, onStore, Action.exec_zoom]
    have hstate : ((readPage e.config.query.numericStringThreshold q).exec e.store).2 = e.store := by
      rw [readPage_exec]
    rw [hstate]
    cases ((readPage e.config.query.numericStringThreshold q).exec e.store).1 with
    | error fault => exact ⟨_, rfl, rfl⟩
    | ok answer => exact ⟨_, rfl, rfl⟩

variable [DistributedTier ρ] (hquiet : e.config.advisorEnabled = false)

include hquiet

/-- A page that is not in the caches is read from the store and put there. -/
theorem readThrough_exec (key : String) (table : Table) (request : PageRequest) :
    match storePage e.config e.store table filter request with
    | .error fault => (readThrough now key table filter request).exec e = (.error fault, e)
    | .ok p =>
      let (stored, cache) := (TieredCache.set now key p.toJson.compact none).exec e.cache
      ∃ registry : Registry, registry.forget = e.registry.forget ∧
        (readThrough now key table filter request).exec e =
          (stored.map fun _ => p, { e with registry, cache }) := by
  obtain ⟨answer, hexec, hpage⟩ := readFresh_exec (e := e) filter table request
  rw [← hpage]
  unfold readThrough
  rw [Action.exec_bind, hexec]
  cases answer with
  | error fault => rfl
  | ok out =>
    obtain ⟨q, p⟩ := out
    simp only [Except.map]
    let noted : Registry :=
      if q.isUnfiltered then e.registry.updateRowCount q.datasetId p.totalCount else e.registry
    have hforget : noted.forget = e.registry.forget := by
      simp only [noted]
      split
      · exact Registry.updateRowCount_forget ..
      · rfl
    have hnoted : (noteRowCount q p.totalCount).exec e = (.ok ⟨⟩, { e with registry := noted }) := by
      unfold noteRowCount
      simp only [noted]
      split <;> rfl
    refine ⟨noted, hforget, ?_⟩
    rw [Action.exec_bind, hnoted]
    simp only [cachePage, onCache, Action.exec_bind, Action.exec_zoom]
    cases (TieredCache.set now key p.toJson.compact none).exec e.cache with
    | mk stored cache =>
      cases stored with
      | error fault => rfl
      | ok taken =>
        simp only [Action.exec_pure, afterRead, Action.exec_bind, Action.exec_get, hquiet]
        rfl

/-- Without caches a query answers the page that the store has. -/
theorem query_disabled (hdisabled : e.cache.enabled = false) (id : String) (page limit : Nat) :
    ((query now id filter page limit).exec e).1 = e.freshPage id filter page limit ∧
      e.Alike ((query now id filter page limit).exec e).2 ∧
        ((query now id filter page limit).exec e).2.cache = e.cache := by
  rw [query_exec]
  unfold freshPage
  cases e.requested id page limit with
  | error fault => exact ⟨rfl, .refl e, rfl⟩
  | ok asked =>
    obtain ⟨table, request⟩ := asked
    simp only [TieredCache.getDecoded_disabled hdisabled, afterLookup]
    have hread := readThrough_exec now filter hquiet (e.cache.keyFor id page limit filter) table request
    show _ = storePage e.config e.store table filter request ∧ _
    cases hpage : storePage e.config e.store table filter request with
    | error fault =>
      rw [hpage] at hread
      simp only at hread
      rw [hread]
      exact ⟨rfl, .refl e, rfl⟩
    | ok p =>
      rw [hpage] at hread
      simp only [TieredCache.set_disabled hdisabled] at hread
      obtain ⟨registry, hforget, hread⟩ := hread
      rw [hread]
      exact ⟨rfl, ⟨rfl, hforget.symm, rfl⟩, rfl⟩

omit [LawfulStore σ] hquiet in
/-- Only datasets are queried. -/
theorem valid_of_query {now : Instant} {id : String} {filter : Json} {page limit : Nat}
    {p : ResultPage} (h : ((query now id filter page limit).exec e).1 = .ok p) :
    isDatasetId id = true := by
  rw [query_exec] at h
  cases hrequested : e.requested id page limit with
  | error fault => rw [hrequested] at h; cases h
  | ok asked => exact (Registry.get_eq_ok.mp (requested_eq_ok.mp hrequested).2).1

end

/-! ### What gets into the caches -/

section

variable [DistributedTier ρ] [LawfulTier ρ] {e d : Engine σ ρ} {key : String}
  {fresh answer : Except QueryError ResultPage}

/-- A read under a key answers what the caches hold under it or the page that the store has, and
no other page gets into the caches. -/
structure Reads (key : String) (fresh : Except QueryError ResultPage) (e : Engine σ ρ)
    (answer : Except QueryError ResultPage) (d : Engine σ ρ) : Prop where
  alike : e.Alike d
  follows : e.cache.Follows d.cache
  answers : ∀ p, answer = .ok p →
    (∃ text, e.cache.Holds key text ∧ ResultPage.ofText? text = some p) ∨ fresh = .ok p
  holds : ∀ k v, d.cache.Holds k v →
    e.cache.Holds k v ∨ ∃ p, fresh = .ok p ∧ k = key ∧ v = p.toJson.compact

omit [Store σ] in
/-- Nothing new gets into the caches. -/
theorem Reads.of_shrinks {cache : TieredCache ρ} (h : e.cache.Shrinks cache)
    (hanswer : ∀ p, answer = .ok p →
      ∃ text, e.cache.Holds key text ∧ ResultPage.ofText? text = some p) :
    Reads key fresh e answer { e with cache } :=
  ⟨⟨rfl, rfl, rfl⟩, h.toFollows, fun p hp => .inl (hanswer p hp), fun k v hv => .inl (h.holds k v hv)⟩

omit [Store σ] in
/-- A lookup that loses values may come before a read. -/
theorem Reads.of_cache {cache : TieredCache ρ} (h : e.cache.Shrinks cache)
    (hreads : Reads key fresh { e with cache } answer d) : Reads key fresh e answer d where
  alike := ⟨hreads.alike.config, hreads.alike.registry, hreads.alike.store⟩
  follows := h.toFollows.trans hreads.follows
  answers p hp := (hreads.answers p hp).imp_left fun ⟨text, hheld, htext⟩ =>
    ⟨text, h.holds key text hheld, htext⟩
  holds k v hv := (hreads.holds k v hv).imp_left (h.holds k v)

variable [LawfulStore σ] (now : Instant) (filter : Json)
  (hquiet : e.config.advisorEnabled = false)

include hquiet

theorem readThrough_spec (key : String) (table : Table) (request : PageRequest) :
    Reads key (storePage e.config e.store table filter request) e
      ((readThrough now key table filter request).exec e).1
      ((readThrough now key table filter request).exec e).2 := by
  have hread := readThrough_exec now filter hquiet key table request
  cases hpage : storePage e.config e.store table filter request with
  | error fault =>
    rw [hpage] at hread
    simp only at hread
    rw [hread]
    exact .of_shrinks (.refl e.cache) fun _ h => (nomatch h)
  | ok p =>
    rw [hpage] at hread
    obtain ⟨registry, hforget, hread⟩ := hread
    obtain ⟨hfollows, hholds⟩ := e.cache.set_spec now key p.toJson.compact none
    rw [hread]
    refine ⟨⟨rfl, hforget.symm, rfl⟩, hfollows, fun p' hp => ?_, fun k v hv => ?_⟩
    · obtain ⟨_, -, rfl⟩ := map_eq_ok.mp hp
      exact .inr rfl
    · rcases hholds k v hv with hv | ⟨rfl, rfl⟩
      · exact .inl hv
      · exact .inr ⟨p, rfl, rfl, rfl⟩

/-- A query answers a page in a cache or the page that the store has, and no other page gets into
the caches. -/
theorem query_spec (id : String) (page limit : Nat) :
    Reads (e.cache.keyFor id page limit filter) (e.freshPage id filter page limit) e
      ((query now id filter page limit).exec e).1 ((query now id filter page limit).exec e).2 := by
  rw [query_exec]
  unfold freshPage
  cases e.requested id page limit with
  | error fault => exact .of_shrinks (.refl e.cache) fun _ h => (nomatch h)
  | ok asked =>
    obtain ⟨table, request⟩ := asked
    obtain ⟨hshrinks, hfound⟩ := e.cache.getDecoded_spec ResultPage.ofText? now
      (e.cache.keyFor id page limit filter)
    simp only
    cases hget : (TieredCache.getDecoded ResultPage.ofText? now
      (e.cache.keyFor id page limit filter)).exec e.cache with
    | mk found cache =>
      rw [hget] at hshrinks hfound
      cases found with
      | error fault => exact .of_shrinks hshrinks fun _ h => (nomatch h)
      | ok found =>
        cases found with
        | some cached =>
          refine .of_shrinks hshrinks fun p hp => ?_
          cases hp
          exact hfound cached rfl
        | none => exact .of_cache hshrinks (readThrough_spec (e := { e with cache }) now filter hquiet _ table request)

end

end Engine

/-! ## Writes -/

/-- The write leaves the pages of tables with other names. -/
def KeepsOthers (name : String) (write : Action σ Nat) : Prop :=
  ∀ (config : Config) (store : σ) (table : Table) (filter : Json) (page : PageRequest),
    table.name ≠ name → storePage config (write.exec store).2 table filter page =
      storePage config store table filter page

section

variable [LawfulStore σ]

/-- A statement that cannot be made is not run. -/
theorem keepsOthers_statement {name : String} {statement : Except RequestFault Statement}
    (h : ∀ s, statement = .ok s → s.target? = some name) :
    KeepsOthers name (do
      let s ← Action.request statement
      Store.call (Store.execute s) : Action σ Nat) := by
  intro config store table filter page hname
  rw [Action.exec_bind, Action.exec_request]
  cases hs : statement with
  | error fault => rfl
  | ok s =>
    simp only [Except.mapError, Store.exec_call]
    exact storePage_execute (h s hs) hname

/-- Rows that are inserted before a failure are in the table of the write too. -/
theorem insertRows_keepsOthers (table : Table) (rows : List (List (String × Json))) :
    KeepsOthers table.name (insertRows table rows : Action σ Nat) := by
  induction rows with
  | nil => exact fun _ _ _ _ _ _ => rfl
  | cons row rest ih =>
    intro config store other filter page hname
    unfold insertRows
    rw [Action.exec_bind, Action.exec_request]
    cases writeValues table row with
    | error fault => rfl
    | ok values =>
      simp only [Except.mapError]
      rw [Action.exec_bind, Action.exec_request]
      cases hinsert : insertRow table values.assignments with
      | error fault => rfl
      | ok s =>
        have hone : storePage config (Store.execute s store).2 other filter page =
            storePage config store other filter page :=
          storePage_execute (insertRow_target? table values.assignments hinsert) hname
        simp only [Except.mapError]
        rw [Action.exec_bind, Store.exec_call]
        cases (Store.execute s store).1 with
        | error fault => exact hone
        | ok n =>
          simp only [Except.mapError]
          rw [Action.exec_bind]
          have hrest := ih config (Store.execute s store).2 other filter page hname
          rw [hone] at hrest
          cases hmore : (insertRows table rest).exec (Store.execute s store).2 with
          | mk more store' =>
            rw [hmore] at hrest
            cases more <;> exact hrest

theorem compileFiltered_means {n : Nat} {table : Table} {filter : Json} {unfiltered : RequestFault}
    {q : Query} (h : Query.compileFiltered n table filter unfiltered = .ok q) :
    ∃ truth, q.table = table.name ∧ q.Means truth := by
  obtain ⟨q', hcompile, h⟩ := bind_eq_ok.mp h
  split at h
  · cases h
  · cases h
    obtain ⟨filters, ps, -, -, hname, -, -, hmeans⟩ := compile_means hcompile
    exact ⟨_, hname, hmeans⟩

end

namespace WriteRequest

/-- A write to one table leaves the pages of the others. -/
theorem plan_keepsOthers [LawfulStore σ] {n : Nat} {table : Table} {request : WriteRequest}
    {write : Action σ Nat} {dropped : List String} (h : request.plan n table = .ok (write, dropped)) :
    KeepsOthers table.name write := by
  cases request with
  | insert rows =>
    obtain ⟨⟨rows, dropped⟩, -, h⟩ := bind_eq_ok.mp h
    cases h
    exact insertRows_keepsOthers table rows
  | update filter values =>
    obtain ⟨q, hq, h⟩ := bind_eq_ok.mp h
    obtain ⟨fields, -, h⟩ := bind_eq_ok.mp h
    obtain ⟨values, -, h⟩ := bind_eq_ok.mp h
    cases h
    obtain ⟨truth, hname, hmeans⟩ := compileFiltered_means hq
    exact keepsOthers_statement fun s hs =>
      hname ▸ updateRows_target? hmeans.isProper hmeans.saysWhere hs
  | delete filter =>
    obtain ⟨q, hq, h⟩ := bind_eq_ok.mp h
    cases h
    obtain ⟨truth, hname, hmeans⟩ := compileFiltered_means hq
    exact keepsOthers_statement fun s hs =>
      hname ▸ deleteRows_target? hmeans.isProper hmeans.saysWhere hs

theorem plan_forget (n : Nat) (table : Table) (request : WriteRequest) :
    (request.plan n table.forget : Except RequestFault (Action σ Nat × List String)) =
      request.plan n table := by
  cases request with
  | insert rows => simp only [plan, checkRows_forget, insertRows_forget]
  | update filter values =>
    simp only [plan, Query.compileFiltered, compile_forget, writeValues_forget]
  | delete filter => simp only [plan, Query.compileFiltered, compile_forget]

end WriteRequest

end TableQuery
