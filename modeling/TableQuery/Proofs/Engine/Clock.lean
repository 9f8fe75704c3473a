import TableQuery.Config.Environment
import TableQuery.Config.Reader
import TableQuery.Proofs.Cache.Range
import TableQuery.Proofs.Engine.Transparency

/-!
# Reads and the range of the clock

A page that was read from the store goes into the caches for the usual time, which the settings may
make longer than the clock can tell. Then the read fails although it has its page.

* `CacheConfig.TellsEnd`: the clock can tell the end of a page that goes into the caches now.
* `CacheConfig.tellsEnd_iff_le`: the usual times that are safe as long as the clock is below half of
  its range.
* `Engine.Fetches`: a read that finds no page in the caches and one in the store.
* `Engine.query_of_fetches`: what such a read answers.
* `caching_within_clock`: after any calls of caches with any settings, the clock is all that a new
  value may fail on. There are settings for which it does (`caching_beyond_clock`).
-/

namespace TableQuery

variable {σ ρ : Type}

namespace CacheConfig

/-- The clock can tell the end of what is put in memory now for the usual time. Caches that are not
in use put nothing there. -/
def TellsEnd (config : CacheConfig) (now : Instant) : Prop :=
  config.enabled = true → now.nanos + config.memory.defaultTtl.nanos < Instant.limit

instance (config : CacheConfig) (now : Instant) : Decidable (config.TellsEnd now) :=
  inferInstanceAs (Decidable (_ → _))

/-- At every moment in the first half of the clock's range, it can tell an end that is as far away
as that half is long, and none further away. -/
theorem tellsEnd_iff_le (config : CacheConfig) :
    (∀ now : Instant, now.nanos < 2 ^ 62 * 10 ^ 9 → config.TellsEnd now) ↔
      (config.enabled = true → config.memory.defaultTtl.nanos ≤ 2 ^ 62 * 10 ^ 9) := by
  unfold TellsEnd Instant.limit
  constructor
  · intro h henabled
    have hlast := h ⟨2 ^ 62 * 10 ^ 9 - 1⟩ (by simp) henabled
    simp only at hlast
    omega
  · intro h now hnow henabled
    have hspan := h henabled
    omega

end CacheConfig

theorem readMillis?_le {text : String} {span : Duration} (h : readMillis? text = some span) :
    span.nanos ≤ 2 ^ 62 * 10 ^ 9 := by
  obtain ⟨n, hn, rfl⟩ := Option.map_eq_some_iff.mp h
  have hword : n ≤ maxWord64 := by
    obtain ⟨m, -, hm⟩ := Option.bind_eq_some_iff.mp hn
    obtain ⟨hle, rfl⟩ := Option.ite_some_none_eq_some.mp hm
    exact hle
  unfold maxWord64 at hword
  simp only [Duration.ofMillis]
  omega

/-- A usual time that is taken from the environment is never too long. -/
theorem tellsEnd_withOverrides (config : Config) {lookup : String → Option String} {text : String}
    {span : Duration} (htext : lookup "CACHE_TTL" = some text)
    (hspan : readMillis? (trimBlank text) = some span) {now : Instant}
    (hnow : now.nanos < 2 ^ 62 * 10 ^ 9) : (config.withOverrides lookup).cache.TellsEnd now := by
  have htaken : (config.withOverrides lookup).cache.memory.defaultTtl = span := by
    simp [Config.withOverrides, override, htext, hspan]
  refine (CacheConfig.tellsEnd_iff_le _).mpr (fun _ => ?_) now hnow
  rw [htaken]
  exact readMillis?_le hspan

namespace TieredCache

variable [DistributedTier ρ]

theorem tellsEnd_afterCalls (config : CacheConfig) (begun : Instant) (shared : ρ) (attached : Bool)
    (calls : List (Instant × CacheCall)) (now : Instant) :
    ((make config begun shared attached).afterCalls calls).TellsEnd now none ↔
      config.TellsEnd now := by
  have hsetup := (make config begun shared attached).afterCalls_sameSetup calls
  unfold TellsEnd
  rw [hsetup.enabled, hsetup.limits]
  exact Iff.rfl

end TieredCache

/-! ## Reads -/

namespace Engine

variable [Store σ] {now : Instant} {id : String} {filter : Json} {e : Engine σ ρ}

/-- The store answers a read whatever is in the caches, and the read leaves them alone. -/
theorem readFresh_cache (table : Table) (filter : Json) (request : PageRequest)
    (cache : TieredCache ρ) :
    ((readFresh table filter request).exec { e with cache }).1 =
        ((readFresh table filter request).exec e).1 ∧
      ((readFresh table filter request).exec { e with cache }).2.cache = cache := by
  unfold readFresh
  rw [Action.exec_bind, Action.exec_bind, compile_exec, compile_exec]
  cases Query.compile e.config.query.maxInList table filter request with
  | error fault => exact ⟨rfl, rfl⟩
  | ok q =>
    simp only [Except.mapError, Action.exec_bind, Action.exec_get, onStore, Action.exec_zoom]
    cases ((readPage e.config.query.numericStringThreshold q).exec e.store).1 with
    | error fault => exact ⟨rfl, rfl⟩
    | ok answer => exact ⟨rfl, rfl⟩

omit [Store σ] in
theorem noteRowCount_exec (q : Query) (rows : Nat) (e : Engine σ ρ) :
    ∃ registry, (noteRowCount q rows).exec e = (.ok ⟨⟩, { e with registry }) := by
  unfold noteRowCount
  split <;> exact ⟨_, rfl⟩

omit [Store σ] in
theorem afterRead_exec (table : Table) (e : Engine σ ρ) :
    ∃ d, (afterRead table).exec e = (.ok ⟨⟩, d) := by
  unfold afterRead
  rw [Action.exec_bind, Action.exec_get]
  simp only
  split <;> exact ⟨_, rfl⟩

variable [DistributedTier ρ]

/-- A page that was fetched is the answer if it can be put into the caches. -/
theorem readThrough_of_fetched {key : String} {table : Table} {request : PageRequest} {q : Query}
    {result : ResultPage}
    (hfetched : ((readFresh table filter request).exec e).1 = .ok (q, result)) :
    ((readThrough now key table filter request).exec e).1 =
      ((TieredCache.set now key result.toJson.compact none).exec e.cache).1.map
        fun _ => result := by
  have hkept := (readFresh_cache (e := e) table filter request e.cache).2
  unfold readThrough
  rw [Action.exec_bind]
  cases hread : (readFresh table filter request).exec e with
  | mk fetched read =>
    have hcache : read.cache = e.cache := by
      rw [← hkept]
      exact (congrArg (·.2.cache) hread).symm
    rw [hread] at hfetched
    cases hfetched
    obtain ⟨registry, hnoted⟩ := noteRowCount_exec q result.totalCount read
    simp only [Action.exec_bind, hnoted, cachePage, onCache, Action.exec_zoom, hcache]
    cases (TieredCache.set now key result.toJson.compact none).exec e.cache with
    | mk stored cache =>
      cases stored with
      | error fault => rfl
      | ok taken =>
        obtain ⟨d, hinspected⟩ := afterRead_exec table { read with registry, cache }
        simp only [Action.exec_pure, hinspected, Except.map]

/-- A read finds no page in the caches and fetches one from the store. -/
def Fetches (e : Engine σ ρ) (now : Instant) (id : String) (filter : Json) (page limit : Nat)
    (result : ResultPage) : Prop :=
  ∃ table request q, e.requested id page limit = .ok (table, request) ∧
    ((TieredCache.getDecoded ResultPage.ofText? now (e.cache.keyFor id page limit filter)).exec
      e.cache).1 = .ok none ∧
    ((readFresh table filter request).exec e).1 = .ok (q, result)

/-- Such a read answers the page that it has fetched, if the clock can tell when the caches are to
forget it. -/
theorem query_of_fetches {page limit : Nat} {result : ResultPage}
    (h : e.Fetches now id filter page limit result) :
    (e.cache.TellsEnd now none → ((query now id filter page limit).exec e).1 = .ok result) ∧
      (¬e.cache.TellsEnd now none →
        ((query now id filter page limit).exec e).1 = .error .clock) := by
  obtain ⟨table, request, q, hrequested, hnone, hfetched⟩ := h
  let key := e.cache.keyFor id page limit filter
  have hsetup := e.cache.getDecoded_sameSetup ResultPage.ofText? now key
  rw [query_exec, hrequested]
  simp only
  cases hlooked : (TieredCache.getDecoded ResultPage.ofText? now key).exec e.cache with
  | mk found cache =>
    rw [hlooked] at hnone hsetup
    cases hnone
    have hread : ((readFresh table filter request).exec { e with cache }).1 = .ok (q, result) :=
      (readFresh_cache table filter request cache).1.trans hfetched
    have htells : cache.TellsEnd now none ↔ e.cache.TellsEnd now none := by
      unfold TieredCache.TellsEnd
      rw [hsetup.enabled, hsetup.limits]
    simp only [afterLookup]
    rw [readThrough_of_fetched hread, ← htells]
    refine ⟨fun h => ?_, fun h => ?_⟩
    · obtain ⟨stored, hstored⟩ := TieredCache.set_of_tellsEnd h key result.toJson.compact
      rw [hstored]
      rfl
    · rw [TieredCache.set_of_not_tellsEnd h]
      rfl

end Engine

/-- After any calls of caches with any settings, a new value has a result exactly if the clock can
tell its end, and no number of bytes is more than a word as long as the keys and values that are
held have fewer bytes together with the new ones. While the clock is in the first half of its range,
it tells every end exactly if the usual time is no longer than that half, as every time is that
comes from the environment. A read that has fetched its page answers it if the clock can tell the
end of the page in the caches, and fails otherwise. -/
theorem caching_within_clock [Store σ] [DistributedTier ρ] (accepted : Config)
    (lookup : String → Option String) (begun : Instant) (shared : ρ) (attached : Bool)
    (calls : List (Instant × CacheCall)) :
    let config := (accepted.withOverrides lookup).cache
    let c := (TieredCache.make config begun shared attached).afterCalls calls
    (∀ now key value, (∃ stored, ((TieredCache.set now key value none).exec c).1 = .ok stored) ↔
      config.TellsEnd now) ∧
    ((∀ now : Instant, now.nanos < 2 ^ 62 * 10 ^ 9 → config.TellsEnd now) ↔
      (config.enabled = true → config.memory.defaultTtl.nanos ≤ 2 ^ 62 * 10 ^ 9)) ∧
    (∀ text span, lookup "CACHE_TTL" = some text → readMillis? (trimBlank text) = some span →
      ∀ now : Instant, now.nanos < 2 ^ 62 * 10 ^ 9 → config.TellsEnd now) ∧
    (∀ now key value, (c.memory.entries.map CacheEntry.cost).sum +
        (key.utf8ByteSize + value.utf8ByteSize) ≤ maxWord64 →
      c.memory.setWords? now key value none = some (c.memory.set now key value none)) ∧
    ∀ e : Engine σ ρ, e.cache = c → ∀ now id filter page limit result,
      e.Fetches now id filter page limit result →
        ((Engine.query now id filter page limit).exec e).1 =
          if config.TellsEnd now then .ok result else .error .clock := by
  intro config c
  have htells (now : Instant) : c.TellsEnd now none ↔ config.TellsEnd now :=
    TieredCache.tellsEnd_afterCalls config begun shared attached calls now
  obtain ⟨ops, hmemory⟩ := TieredCache.afterCalls_memory config begun shared attached calls
  refine ⟨fun now key value => ⟨fun hstored => ?_, fun h => ?_⟩, config.tellsEnd_iff_le,
    fun text span htext hspan now => tellsEnd_withOverrides accepted htext hspan,
    fun now key value hbytes => ?_, ?_⟩
  · rw [← htells now]
    by_contra hends
    obtain ⟨stored, hstored⟩ := hstored
    rw [TieredCache.set_of_not_tellsEnd hends] at hstored
    cases hstored
  · exact TieredCache.set_of_tellsEnd ((htells now).mpr h) key value
  · have haccount : c.memory.WellAccounted :=
      hmemory ▸ (MemoryTier.after_wellAccounted (.ofConfig config.memory) ops).1
    refine MemoryTier.setWords?_eq haccount now none ?_
    rwa [haccount.account.bytes]
  · intro e hcache now id filter page limit result hfetches
    have hquery := Engine.query_of_fetches hfetches
    rw [hcache, htells now] at hquery
    split
    · exact hquery.1 ‹_›
    · exact hquery.2 ‹_›

/-! ### Settings that are accepted -/

/-- Entries live for some time. -/
def settingsText (time : String) : String := "cache:\n  memory:\n    default_ttl: " ++ time ++ "\n"

/-- The settings where entries live for so many seconds. -/
def settingsOf (seconds : Nat) : Config :=
  { Config.default with cache := { CacheConfig.default with
      memory := { MemoryConfig.default with defaultTtl := .ofSeconds seconds } } }

theorem ofYaml_century : Config.ofYaml (settingsText "100years") = .ok (settingsOf 3155695200) := by
  decide +kernel

/-- An engine with settings that has the table of the sales, and none of its pages. -/
def saleEngine (config : Config) : Engine RowStore SwitchableTier where
  config
  registry := ⟨[saleTable]⟩
  cache := .make config.cache ⟨0⟩ .empty true
  advised := .none
  inspections := []
  store := .empty

theorem withOverrides_none (config : Config) : config.withOverrides (fun _ => none) = config := rfl

theorem saleEngine_cache (config : Config) :
    (saleEngine config).cache = (TieredCache.make (config.withOverrides fun _ => none).cache ⟨0⟩
      SwitchableTier.empty true).afterCalls [] := rfl

/-- There are no sales in the store, and no page in the caches. -/
theorem fetches_noSales {config : Config} {now : Instant}
    (hread : ((Engine.readFresh saleTable Engine.northSales ⟨1, 10⟩).exec
      (saleEngine config)).1.map (·.2) = .ok Engine.noSales)
    (hrequested : (saleEngine config).requested saleTable.datasetId 1 10 =
      .ok (saleTable, ⟨1, 10⟩))
    (hnone : ((TieredCache.getDecoded ResultPage.ofText? now ((saleEngine config).cache.keyFor
      saleTable.datasetId 1 10 Engine.northSales)).exec (saleEngine config).cache).1 = .ok none) :
    (saleEngine config).Fetches now saleTable.datasetId Engine.northSales 1 10 Engine.noSales := by
  obtain ⟨⟨q, _⟩, hread, rfl⟩ := map_eq_ok.mp hread
  exact ⟨saleTable, ⟨1, 10⟩, q, hrequested, hnone, hread⟩

/-- Just before the clock has got halfway, sales are looked for, and kept for a century. -/
theorem caching_within_clock_century :
    let config := settingsOf 3155695200
    let now : Instant := ⟨2 ^ 62 * 10 ^ 9 - 1⟩
    Config.ofYaml (settingsText "100years") = .ok config ∧ now.nanos < 2 ^ 62 * 10 ^ 9 ∧
      config.cache.TellsEnd now ∧
      (saleEngine config).Fetches now saleTable.datasetId Engine.northSales 1 10 Engine.noSales ∧
      ((Engine.query now saleTable.datasetId Engine.northSales 1 10).exec (saleEngine config)).1 =
        .ok Engine.noSales := by
  intro config now
  have htells : config.cache.TellsEnd now := by decide +kernel
  have hfetches : (saleEngine config).Fetches now saleTable.datasetId Engine.northSales 1 10
      Engine.noSales :=
    fetches_noSales (by decide +kernel) (by decide +kernel) (by decide +kernel)
  have hquery := (caching_within_clock config (fun _ => none) ⟨0⟩
    SwitchableTier.empty true []).2.2.2.2 (saleEngine config) (saleEngine_cache _) now
    saleTable.datasetId Engine.northSales 1 10 Engine.noSales hfetches
  rw [withOverrides_none, if_pos htells] at hquery
  exact ⟨ofYaml_century, by decide, htells, hfetches, hquery⟩

theorem ofYaml_endless :
    Config.ofYaml (settingsText "18446744073709551615s") = .ok (settingsOf maxWord64) := by
  decide +kernel

/-- Entries may be set to live for as many seconds as a word can say. Then no new value has a
result, however early it comes, and a read that has fetched its page fails. -/
theorem caching_beyond_clock :
    (¬∀ (text : String) (accepted : Config), Config.ofYaml text = .ok accepted →
      ∀ (lookup : String → Option String) (begun : Instant) (shared : SwitchableTier)
        (attached : Bool) (calls : List (Instant × CacheCall)) (now : Instant) (key value : String),
        now.nanos < 2 ^ 62 * 10 ^ 9 →
        let c := (TieredCache.make (accepted.withOverrides lookup).cache begun shared
          attached).afterCalls calls
        ∃ stored, ((TieredCache.set now key value none).exec c).1 = .ok stored) ∧
    (saleEngine (settingsOf maxWord64)).Fetches ⟨0⟩ saleTable.datasetId Engine.northSales 1 10
      Engine.noSales ∧
    ((Engine.query ⟨0⟩ saleTable.datasetId Engine.northSales 1 10).exec
      (saleEngine (settingsOf maxWord64))).1 = .error .clock := by
  have hends : ¬(settingsOf maxWord64).cache.TellsEnd ⟨0⟩ := by decide +kernel
  have hreached (now : Instant) := TieredCache.tellsEnd_afterCalls (settingsOf maxWord64).cache ⟨0⟩
    SwitchableTier.empty true [] now
  refine ⟨fun h => ?_, ?_⟩
  · obtain ⟨stored, hstored⟩ := h _ _ ofYaml_endless (fun _ => none) ⟨0⟩ .empty true [] ⟨0⟩ "page"
      "no rows" (by decide)
    rw [withOverrides_none, TieredCache.set_of_not_tellsEnd (mt (hreached ⟨0⟩).mp hends)] at hstored
    cases hstored
  · have hfetches : (saleEngine (settingsOf maxWord64)).Fetches ⟨0⟩ saleTable.datasetId
        Engine.northSales 1 10 Engine.noSales :=
      fetches_noSales (by decide +kernel) (by decide +kernel) (by decide +kernel)
    exact ⟨hfetches, (Engine.query_of_fetches hfetches).2 (mt (hreached ⟨0⟩).mp hends)⟩

end TableQuery
