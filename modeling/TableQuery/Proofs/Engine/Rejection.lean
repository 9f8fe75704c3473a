import TableQuery.Proofs.Cache.Distributed
import TableQuery.Proofs.Engine.Operation
import TableQuery.Proofs.Query.Meaning
import TableQuery.Proofs.Store.Recorded
import TableQuery.Proofs.Store.Refusal
import TableQuery.Proofs.Store.Rows

/-!
# Requests that are refused

A request that is refused by a fault of the caller leaves the engine as it was: the store has got
no call, the datasets are the same, and memory has no page that it did not have before.

* `Table.TakesRow`, `checkRows_isOk_iff`: rows are taken all together or not at all.
* `WriteRequest.plan_refusesFirst`: a write refuses before it begins.
* `Engine.Untouched`: what a refused request leaves.
* `refused_untouched`: every operation, and insertions with a row that does not fit.
-/

namespace TableQuery

/-! ## Rows to insert -/

/-- The row is an object whose values fit their columns. -/
def Table.TakesRow (table : Table) (row : Json) : Prop :=
  ∃ fields values, row = .object fields ∧ writeValues table fields = .ok values

namespace Engine

/-- Rows are taken all together: one that does not fit keeps the others out, wherever it is. -/
theorem checkRows_isOk_iff (table : Table) (dropped : List String) (rows : List Json) :
    (∃ checked, checkRows table dropped rows = .ok checked) ↔
      ∀ row ∈ rows, table.TakesRow row := by
  induction rows generalizing dropped with
  | nil =>
    refine ⟨fun _ row hrow => ?_, fun _ => ⟨_, rfl⟩⟩
    cases hrow
  | cons row rest ih =>
    rw [List.forall_mem_cons]
    constructor
    · rintro ⟨checked, hchecked⟩
      cases row with
      | object fields =>
        obtain ⟨values, hvalues, hchecked⟩ := bind_eq_ok.mp hchecked
        obtain ⟨others, hothers, -⟩ := bind_eq_ok.mp hchecked
        exact ⟨⟨fields, values, rfl, hvalues⟩, (ih _).mp ⟨others, hothers⟩⟩
      | _ => cases hchecked
    · rintro ⟨⟨fields, values, rfl, hvalues⟩, hrest⟩
      obtain ⟨others, hothers⟩ :=
        (ih (firstOccurrences (dropped ++ values.dropped))).mpr hrest
      refine ⟨(fields :: others.1, others.2), ?_⟩
      apply bind_eq_ok.mpr
      refine ⟨values, hvalues, ?_⟩
      apply bind_eq_ok.mpr
      exact ⟨others, hothers, rfl⟩

/-- The rows that come out of the check have values that fit. -/
theorem writeValues_of_checkRows {table : Table} {dropped : List String} {rows : List Json}
    {checked : List (List (String × Json)) × List String}
    (h : checkRows table dropped rows = .ok checked) :
    ∀ fields ∈ checked.1, ∃ values, writeValues table fields = .ok values := by
  induction rows generalizing dropped checked with
  | nil =>
    cases h
    intro fields hfields
    cases hfields
  | cons row rest ih =>
    cases row with
    | object fields =>
      obtain ⟨values, hvalues, h⟩ := bind_eq_ok.mp h
      obtain ⟨others, hothers, h⟩ := bind_eq_ok.mp h
      cases h
      intro fields' hfields
      rcases List.mem_cons.mp hfields with rfl | hrest
      · exact ⟨values, hvalues⟩
      · exact ih hothers fields' hrest
    | _ => cases h

end Engine

/-! ## Writes -/

/-- A planned write is refused before its first call of the store or not at all. -/
theorem WriteRequest.plan_refusesFirst {σ : Type} [Store σ] {n : Nat} {table : Table}
    {request : WriteRequest} {write : Action σ Nat} {dropped : List String}
    (h : request.plan n table = .ok (write, dropped)) : write.RefusesFirst := by
  cases request with
  | insert rows =>
    obtain ⟨checked, hchecked, h⟩ := bind_eq_ok.mp h
    cases h
    apply Action.NeverRefuses.refusesFirst
    exact insertRows_neverRefuses (Engine.writeValues_of_checkRows hchecked)
  | update filter values =>
    obtain ⟨q, -, h⟩ := bind_eq_ok.mp h
    obtain ⟨fields, -, h⟩ := bind_eq_ok.mp h
    obtain ⟨values, -, h⟩ := bind_eq_ok.mp h
    cases h
    exact updateMatching_refusesFirst q values
  | delete filter =>
    obtain ⟨q, -, h⟩ := bind_eq_ok.mp h
    cases h
    exact deleteMatching_refusesFirst q

/-! ## What is left in memory -/

namespace TieredCache

variable {ρ : Type} [DistributedTier ρ]

theorem delete_memory {now : Instant} {key : String} {c : TieredCache ρ} (h : c.enabled = true) :
    (c.delete now key).2.memory = c.memory.remove key := by
  unfold delete
  rw [if_pos h]
  simp only
  split
  · obtain ⟨counters, hstate⟩ :=
      { c with memory := (c.memory.delete key).2 }.dropShared_state now [key]
    rw [hstate]
    rfl
  · rfl

/-- A lookup that finds nothing adds nothing to memory, and one that finds something adds the key
that was looked up at most. -/
theorem get_memory (now : Instant) (key : String) (c : TieredCache ρ) :
    ((get now key).exec c).2.enabled = c.enabled ∧
      ∀ entry ∈ ((get now key).exec c).2.memory.entries, entry ∈ c.memory.entries ∨
        entry.key = key ∧ c.enabled = true ∧ ((get now key).exec c).1 ≠ .ok none := by
  have hlooked := (c.memory.get_spec now key).2
  rcases c.get_cases now key with ⟨-, hget⟩ | ⟨-, value, -, hget⟩ | ⟨-, -, hget⟩ | ⟨hon, -, -, hget⟩
  · rw [hget]
    exact ⟨rfl, fun entry hentry => .inl hentry⟩
  · rw [hget]
    exact ⟨rfl, fun entry hentry => .inl (hlooked entry hentry)⟩
  · rw [hget]
    exact ⟨rfl, fun entry hentry => .inl (hlooked entry hentry)⟩
  · obtain ⟨_, _, hstate, -⟩ := settle_state now key
      ((c.lookInMemory now key).2.askShared now key).1 ((c.lookInMemory now key).2.askShared now key).2
    rw [hget]
    constructor
    · rw [hstate]
      rfl
    · intro entry hentry
      rcases settle_memory now key _ _ entry hentry with hold | ⟨hkey, -, hresult, -⟩
      · exact .inl (hlooked entry hold)
      · refine .inr ⟨hkey, hon, ?_⟩
        rw [hresult]
        exact nofun

/-- A lookup with a form that finds nothing adds nothing to memory: a value that cannot be read
does not stay there. -/
theorem getDecoded_memory_subset {α : Type} {decode : String → Option α} {now : Instant}
    {key : String} {c : TieredCache ρ} (h : ((getDecoded decode now key).exec c).1 = .ok none) :
    ((getDecoded decode now key).exec c).2.memory.entries ⊆ c.memory.entries := by
  obtain ⟨henabled, hentries⟩ := c.get_memory now key
  unfold getDecoded at h ⊢
  rw [Action.exec_bind] at h ⊢
  cases hget : (get now key).exec c with
  | mk result d =>
    rw [hget] at h henabled hentries
    cases result with
    | error fault => cases h
    | ok found =>
      cases found with
      | none =>
        intro entry hentry
        rcases hentries entry hentry with hold | ⟨-, -, hfound⟩
        · exact hold
        · exact absurd rfl hfound
      | some text =>
        simp only at h ⊢
        cases hdecode : decode text with
        | some a =>
          rw [hdecode] at h
          cases h
        | none =>
          intro entry hentry
          have hentry : entry ∈ (d.delete now key).2.memory.entries := hentry
          by_cases hon : c.enabled = true
          · rw [delete_memory (henabled.trans hon)] at hentry
            obtain ⟨hentry, hkey⟩ := MemoryTier.mem_remove.mp hentry
            rcases hentries entry hentry with hold | ⟨hsame, -⟩
            · exact hold
            · exact absurd hsame hkey
          · have hoff : d.enabled = false := henabled.trans (Bool.eq_false_iff.mpr hon)
            unfold delete at hentry
            rw [hoff] at hentry
            rcases hentries entry hentry with hold | ⟨-, hon', -⟩
            · exact hold
            · exact absurd hon' hon

omit [DistributedTier ρ] in
/-- The caller is not at fault where the clock cannot tell the end of a value. -/
theorem putInMemory_not_refused {now : Instant} {key value : String} {ttl : Option Duration}
    {c : TieredCache ρ} {fault : QueryError}
    (h : (c.putInMemory now key value ttl).1 = .error fault) : fault.isClientError = false := by
  unfold putInMemory at h
  cases hset : c.memory.set now key value ttl with
  | mk admission memory =>
    rw [hset] at h
    cases admission with
    | beyondClock =>
      cases h
      rfl
    | _ => cases h

theorem get_neverRefuses (now : Instant) (key : String) :
    (get now key : Action (TieredCache ρ) _).NeverRefuses := by
  intro c fault hfault
  rcases c.get_cases now key with ⟨-, hget⟩ | ⟨-, value, -, hget⟩ | ⟨-, -, hget⟩ | ⟨-, -, -, hget⟩
  · cases hget ▸ hfault
  · cases hget ▸ hfault
  · cases hget ▸ hfault
  · rw [hget] at hfault
    unfold settle at hfault
    split at hfault
    · exact putInMemory_not_refused (map_eq_error.mp hfault)
    · cases hfault
    · cases hfault

theorem set_neverRefuses (now : Instant) (key value : String) (ttl : Option Duration) :
    (set now key value ttl : Action (TieredCache ρ) _).NeverRefuses := by
  intro c fault hfault
  unfold set at hfault
  rw [Action.exec_make] at hfault
  split at hfault
  · exact putInMemory_not_refused (map_eq_error.mp hfault)
  · cases hfault

theorem getDecoded_neverRefuses {α : Type} (decode : String → Option α) (now : Instant)
    (key : String) : (getDecoded decode now key : Action (TieredCache ρ) _).NeverRefuses := by
  apply (get_neverRefuses now key).bind
  intro found
  cases found with
  | none => exact Action.neverRefuses_pure none
  | some text =>
    simp only
    split
    · exact Action.neverRefuses_pure _
    · apply Action.NeverRefuses.bind
      · exact Action.neverRefuses_of_ok fun _ => ⟨_, rfl⟩
      · intro _
        exact Action.neverRefuses_pure none

end TieredCache

/-! ## Requests -/

namespace Engine

variable {σ ρ : Type}

/-- The engine is as before, apart from pages that may be gone and from what its caches count. -/
structure Untouched (e d : Engine σ ρ) : Prop where
  store : d.store = e.store
  registry : d.registry = e.registry
  config : d.config = e.config
  advised : d.advised = e.advised
  inspections : d.inspections = e.inspections
  memory : d.cache.memory.entries ⊆ e.cache.memory.entries

theorem Untouched.refl (e : Engine σ ρ) : e.Untouched e :=
  ⟨rfl, rfl, rfl, rfl, rfl, fun _ h => h⟩

/-- Only the caches have changed, and memory has nothing new. -/
theorem Untouched.of_cache {e : Engine σ ρ} {cache : TieredCache ρ}
    (h : cache.memory.entries ⊆ e.cache.memory.entries) : e.Untouched { e with cache } :=
  ⟨rfl, rfl, rfl, rfl, rfl, h⟩

variable [Store σ]

/-- A read of the store is refused before its first call or not at all. -/
theorem readFresh_refusesFirst (table : Table) (filter : Json) (page : PageRequest) :
    (readFresh table filter page : Action (Engine σ ρ) _).RefusesFirst := by
  unfold readFresh
  apply Action.RefusesFirst.after
  · intro e
    rw [compile_exec]
  · intro q
    apply Action.RefusesFirst.after
    · exact fun _ => rfl
    · intro e
      apply Action.RefusesFirst.bind
      · exact (readPage_refusesFirst _ q).zoom fun _ => rfl
      · intro _
        exact Action.neverRefuses_pure _

variable [DistributedTier ρ]

omit [Store σ] in
theorem cachePage_neverRefuses (now : Instant) (key : String) (page : ResultPage) :
    (cachePage now key page : Action (Engine σ ρ) Unit).NeverRefuses := by
  apply Action.NeverRefuses.bind
  · exact (TieredCache.set_neverRefuses now key page.toJson.compact none).zoom
  · intro _
    exact Action.neverRefuses_pure _

/-- What comes after the read of a query does not refuse. -/
theorem readThrough_refusesFirst (now : Instant) (key : String) (table : Table) (filter : Json)
    (request : PageRequest) :
    (readThrough now key table filter request : Action (Engine σ ρ) _).RefusesFirst := by
  apply (readFresh_refusesFirst table filter request).bind
  rintro ⟨q, result⟩
  apply Action.NeverRefuses.bind
  · unfold noteRowCount
    split
    · exact Action.neverRefuses_of_ok fun _ => ⟨_, rfl⟩
    · exact Action.neverRefuses_pure _
  · intro _
    apply (cachePage_neverRefuses now key result).bind
    intro _
    apply Action.NeverRefuses.bind
    · apply Action.NeverRefuses.bind
      · exact Action.neverRefuses_of_ok fun _ => ⟨_, rfl⟩
      · intro e
        split
        · exact Action.neverRefuses_of_ok fun _ => ⟨_, rfl⟩
        · exact Action.neverRefuses_pure _
    · intro _
      exact Action.neverRefuses_pure _

section

variable (now : Instant) (id : String) (e : Engine σ ρ) {fault : QueryError}

theorem query_untouched (filter : Json) (page limit : Nat)
    (h : ((query now id filter page limit).exec e).1 = .error fault)
    (hclient : fault.isClientError = true) :
    e.Untouched ((query now id filter page limit).exec e).2 := by
  rw [query_exec] at h ⊢
  cases hasked : e.requested id page limit with
  | error refusal => exact .refl e
  | ok asked =>
    obtain ⟨table, request⟩ := asked
    simp only [hasked] at h ⊢
    have hnever := TieredCache.getDecoded_neverRefuses (ρ := ρ) ResultPage.ofText? now
      (e.cache.keyFor id page limit filter) e.cache
    cases hlookup : (TieredCache.getDecoded ResultPage.ofText? now
      (e.cache.keyFor id page limit filter)).exec e.cache with
    | mk result cache =>
      simp only [hlookup] at h hnever ⊢
      cases result with
      | error broken =>
        cases h
        rw [hnever _ rfl] at hclient
        cases hclient
      | ok found =>
        cases found with
        | some cached => cases h
        | none =>
          have hsubset := TieredCache.getDecoded_memory_subset (congrArg Prod.fst hlookup)
          rw [hlookup] at hsubset
          have hrefused := readThrough_refusesFirst now (e.cache.keyFor id page limit filter) table
            filter request { e with cache } fault h hclient
          show e.Untouched ((readThrough now _ table filter request).exec { e with cache }).2
          rw [hrefused]
          exact .of_cache hsubset

theorem write_untouched (request : WriteRequest)
    (h : ((request.perform now id).exec e).1 = .error fault)
    (hclient : fault.isClientError = true) :
    e.Untouched ((request.perform now id).exec e).2 := by
  rw [WriteRequest.perform_exec] at h ⊢
  cases htable : e.registry.get id with
  | error refusal => exact .refl e
  | ok table =>
    simp only [htable] at h ⊢
    cases hplan : (request.plan e.config.query.maxInList table :
        Except RequestFault (Action σ Nat × List String)) with
    | error refusal => exact .refl e
    | ok planned =>
      obtain ⟨write, dropped⟩ := planned
      rw [hplan] at h
      have hwrite : (write.exec e.store).1 = .error fault := map_eq_error.mp h
      have hstore := WriteRequest.plan_refusesFirst hplan e.store fault hwrite hclient
      exact ⟨hstore, rfl, rfl, rfl, rfl, (e.cache.invalidate_reduces now id).memory⟩

/-- An operation that is refused leaves the engine untouched. -/
theorem perform_untouched (op : EngineOperation)
    (h : ((op.perform now).exec e).1 = .error fault) (hclient : fault.isClientError = true) :
    e.Untouched ((op.perform now).exec e).2 := by
  cases op with
  | register id specs =>
    rw [EngineOperation.perform, Action.exec_map] at h ⊢
    have h := map_eq_error.mp h
    rw [register_exec] at h ⊢
    cases hregister : e.registry.register id specs with
    | error refusal => exact .refl e
    | ok out =>
      rw [hregister] at h
      cases h
  | drop id =>
    rw [EngineOperation.perform, Action.exec_map] at h ⊢
    have h := map_eq_error.mp h
    rw [drop_exec] at h ⊢
    cases hdrop : e.registry.drop id with
    | error refusal => exact .refl e
    | ok out =>
      rw [hdrop] at h
      cases h
  | query id filter page limit =>
    rw [EngineOperation.perform, Action.exec_map] at h ⊢
    exact query_untouched now id e filter page limit (map_eq_error.mp h) hclient
  | write id request =>
    rw [EngineOperation.perform, Action.exec_map] at h ⊢
    exact write_untouched now id e request (map_eq_error.mp h) hclient

/-- A row that does not fit keeps out all the rows that are inserted with it. -/
theorem insert_of_not_takesRow {table : Table} {rows : List Json}
    (htable : e.registry.get id = .ok table) (hrow : ∃ row ∈ rows, ¬table.TakesRow row) :
    ∃ fault, (insert now id rows).exec e = (.error (.request fault), e) := by
  rw [WriteRequest.insert_exec, htable]
  obtain ⟨row, hmem, hrow⟩ := hrow
  cases hchecked : checkRows table [] rows with
  | error refusal =>
    refine ⟨refusal, ?_⟩
    simp only [WriteRequest.plan, hchecked]
    rfl
  | ok checked =>
    have hall := (checkRows_isOk_iff table [] rows).mp ⟨checked, hchecked⟩
    exact absurd (hall row hmem) hrow

end

/-- An operation that is refused by a fault of the caller leaves the engine as it was: the store is
the same and has got no call, the datasets are the same, and memory has no new page. Rows with one
among them that does not fit are refused together. -/
theorem refused_untouched (now : Instant) (e : Engine (Recorded σ) ρ) :
    (∀ (op : EngineOperation) (fault : QueryError),
      ((op.perform now).exec e).1 = .error fault → fault.isClientError = true →
        e.Untouched ((op.perform now).exec e).2) ∧
      ∀ (id : String) (table : Table) (rows : List Json), e.registry.get id = .ok table →
        (∃ row ∈ rows, ¬table.TakesRow row) →
          ∃ fault, (insert now id rows).exec e = (.error (.request fault), e) := by
  constructor
  · intro op fault h hclient
    exact perform_untouched now e op h hclient
  · intro id table rows htable hrow
    exact insert_of_not_takesRow now id e htable hrow

/-- An engine whose sales have a region, with nothing in its caches and in its store. -/
def saleEngine : Engine (Recorded RowStore) SwitchableTier :=
  { start .default (.make .default ⟨0⟩ .empty true) ⟨.empty, []⟩ with registry := ⟨[saleTable]⟩ }

/-- A sale of the north before something that is no row. -/
def saleAndNothing : List Json := [.object [("region", .string "north")], .null]

theorem refused_untouched_sale :
    let op := EngineOperation.write saleTable.datasetId (.insert saleAndNothing)
    ((op.perform ⟨1⟩).exec saleEngine).1 = .error (.request .rowNotObject) ∧
      ((op.perform ⟨1⟩).exec saleEngine).2.store.calls = [] ∧
      ∃ fault, (insert ⟨1⟩ saleTable.datasetId saleAndNothing).exec saleEngine =
        (.error (.request fault), saleEngine) := by
  intro op
  obtain ⟨huntouched, hrows⟩ := refused_untouched ⟨1⟩ saleEngine
  have hrefused : ((op.perform ⟨1⟩).exec saleEngine).1 = .error (.request .rowNotObject) := rfl
  refine ⟨hrefused, ?_, ?_⟩
  · rw [(huntouched op _ hrefused rfl).store]
    rfl
  · apply hrows saleTable.datasetId saleTable saleAndNothing rfl
    refine ⟨.null, by simp [saleAndNothing], ?_⟩
    rintro ⟨fields, values, hnull, -⟩
    cases hnull

end Engine

end TableQuery
