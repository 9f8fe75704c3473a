import TableQuery.Proofs.Cache.Tiered
import TableQuery.Proofs.Registry

/-!
# Operations of an engine and their runs

What each operation does to the registry, the store and the caches, as one equation for each.

* `EngineOperation`, `EngineOperation.perform`: the operations and what they answer.
* `Engine.answers`, `Engine.pages`, `Engine.afterRun`: a run of operations, one after the other.
* `WriteRequest.plan`: what a write puts to the store. Nothing else happens to the store, and the
  pages of the dataset are dropped afterwards, `WriteRequest.perform_exec`.
* `Engine.query_exec`: a query looks into the caches first.
* `Engine.Reading`: what a query may change.
-/

namespace TableQuery

variable {σ ρ : Type}

/-- The query of a filter that must put a condition. -/
def Query.compileFiltered (maxInList : Nat) (table : Table) (filter : Json)
    (unfiltered : RequestFault) : Except RequestFault Query := do
  let q ← Query.compile maxInList table filter .first
  if q.isUnfiltered then .error unfiltered else pure q

namespace Engine

theorem table_exec {id : String} (e : Engine σ ρ) :
    (Engine.table id).exec e = (e.registry.get id, e) := rfl

theorem compile_exec (table : Table) (filter : Json) (page : PageRequest) (e : Engine σ ρ) :
    (compile table filter page).exec e =
      ((Query.compile e.config.query.maxInList table filter page).mapError .request, e) := by
  unfold compile
  rw [Action.exec_bind, Action.exec_get]
  simp only [Action.exec_request]

theorem compileFiltered_exec (table : Table) (filter : Json) (unfiltered : RequestFault)
    (e : Engine σ ρ) :
    (compileFiltered table filter unfiltered).exec e =
      ((Query.compileFiltered e.config.query.maxInList table filter unfiltered).mapError .request,
        e) := by
  unfold compileFiltered Query.compileFiltered
  rw [Action.exec_bind, compile_exec]
  cases Query.compile e.config.query.maxInList table filter .first with
  | error fault => rfl
  | ok q =>
    show Action.exec (if q.isUnfiltered then _ else _) e = _
    cases hfiltered : q.isUnfiltered with
    | false =>
      show _ = (Except.mapError _ (if q.isUnfiltered then _ else _), e)
      rw [hfiltered]
      rfl
    | true =>
      show _ = (Except.mapError _ (if q.isUnfiltered then _ else _), e)
      rw [hfiltered]
      rfl

section

variable [DistributedTier ρ]

/-! ## Datasets -/

theorem register_exec (now : Instant) (id : String) (specs : List ColumnSpec) (e : Engine σ ρ) :
    (register now id specs).exec e =
      match e.registry.register id specs with
      | .error fault => (.error fault, e)
      | .ok (table, registration, registry) => (.ok (table, registration),
          if registration = .replaced then
            { e with registry, cache := (e.cache.invalidate now id).2 }
          else { e with registry }) := by
  unfold register
  rw [Action.exec_bind, Action.exec_get]
  simp only
  rw [Action.exec_bind, Action.exec_check]
  cases e.registry.register id specs with
  | error fault => rfl
  | ok out =>
    obtain ⟨table, registration, registry⟩ := out
    simp only [Action.exec_bind, Action.exec_set]
    split <;> rfl

theorem drop_exec (now : Instant) (id : String) (e : Engine σ ρ) :
    (drop now id).exec e =
      match e.registry.drop id with
      | .error fault => (.error fault, e)
      | .ok (found, registry) => (.ok found,
          if found then { e with registry, cache := (e.cache.invalidate now id).2 }
          else { e with registry }) := by
  unfold drop
  rw [Action.exec_bind, Action.exec_get]
  simp only
  rw [Action.exec_bind, Action.exec_check]
  cases e.registry.drop id with
  | error fault => rfl
  | ok out =>
    obtain ⟨found, registry⟩ := out
    simp only [Action.exec_bind, Action.exec_set]
    cases found <;> rfl

/-! ## Writes -/

/-- The engine after a write to the store: the pages of the dataset are dropped. -/
def afterWrite (now : Instant) (id : String) (write : Action σ Nat) (e : Engine σ ρ) :
    Engine σ ρ :=
  { e with store := (write.exec e.store).2, cache := (e.cache.invalidate now id).2 }

theorem writing_exec (now : Instant) (id : String) (write : Action σ Nat) (dropped : List String)
    (e : Engine σ ρ) :
    (writing now id write >>= fun affected => pure (⟨affected, dropped⟩ : WriteOutcome)).exec e =
      ((write.exec e.store).1.map fun affected => ⟨affected, dropped⟩, e.afterWrite now id write) := by
  have hwriting : (writing now id write).exec e =
      ((write.exec e.store).1, e.afterWrite now id write) := rfl
  rw [Action.exec_bind, hwriting]
  cases (write.exec e.store).1 <;> rfl

end

/-! ## What a read may change -/

section

variable [Store σ]

/-- A relation that admits all that a read does to an engine: it reads a page in the store, and it
changes the caches, the number of rows that a table is known to have, and the inspections. -/
structure Reading (R : Engine σ ρ → Engine σ ρ → Prop) : Prop where
  trans : ∀ {x y z}, R x y → R y z → R x z
  readPage : ∀ threshold q e, R e ((onStore (readPage threshold q)).exec e).2
  cache : ∀ (e : Engine σ ρ) cache, R e { e with cache }
  rowCount : ∀ (e : Engine σ ρ) id rows,
    R e { e with registry := e.registry.updateRowCount id rows }
  inspections : ∀ (e : Engine σ ρ) advised inspections, R e { e with advised, inspections }

namespace Reading

variable {R : Engine σ ρ → Engine σ ρ → Prop}

theorem refl (h : Reading R) (e : Engine σ ρ) : R e e := h.cache e e.cache

theorem bind (h : Reading R) {α β : Type} {a : Action (Engine σ ρ) α}
    {f : α → Action (Engine σ ρ) β} (ha : a.Moves R) (hf : ∀ x, (f x).Moves R) :
    (a >>= f).Moves R :=
  Action.Moves.bind (fun hfirst hnext => h.trans hfirst hnext) ha hf

theorem unchanged (h : Reading R) {α : Type} {a : Action (Engine σ ρ) α}
    (ha : ∀ e, (a.exec e).2 = e) : a.Moves R :=
  Action.moves_of_unchanged h.refl ha

theorem readFresh (h : Reading R) (table : Table) (filter : Json) (page : PageRequest) :
    (readFresh table filter page : Action (Engine σ ρ) _).Moves R := by
  apply h.bind
  · exact h.unchanged fun e => by rw [compile_exec]
  intro q
  apply h.bind
  · exact h.unchanged fun _ => rfl
  intro e
  apply h.bind
  · exact h.readPage _ q
  intro answer
  exact h.unchanged fun _ => rfl

theorem noteRowCount (h : Reading R) (q : Query) (rows : Nat) :
    (noteRowCount q rows : Action (Engine σ ρ) Unit).Moves R := by
  unfold Engine.noteRowCount
  split
  · exact fun e => h.rowCount e q.datasetId rows
  · exact h.unchanged fun _ => rfl

theorem afterRead (h : Reading R) (table : Table) :
    (afterRead table : Action (Engine σ ρ) Unit).Moves R := by
  apply h.bind
  · exact h.unchanged fun _ => rfl
  intro e
  split
  · intro e
    unfold startInspection
    rw [Action.exec_modify]
    split
    · exact h.inspections e _ _
    · exact h.refl e
  · exact h.unchanged fun _ => rfl

/-- What a query changes. -/
theorem query [DistributedTier ρ] (h : Reading R) (now : Instant) (id : String) (filter : Json)
    (page limit : Nat) : (query now id filter page limit : Action (Engine σ ρ) _).Moves R := by
  apply h.bind
  · exact h.unchanged fun _ => rfl
  intro _
  apply Action.Moves.request_bind h.refl
  intro request _
  apply h.bind
  · exact h.unchanged fun _ => rfl
  intro table
  apply h.bind
  · exact h.unchanged fun _ => rfl
  intro e
  apply h.bind
  · exact fun e => h.cache e _
  intro found
  cases found with
  | some cached => exact h.unchanged fun _ => rfl
  | none =>
    apply h.bind (h.readFresh table filter request)
    rintro ⟨q, result⟩
    apply h.bind (h.noteRowCount q result.totalCount)
    intro _
    apply h.bind
    · apply h.bind
      · exact fun e => h.cache e _
      intro _
      exact h.unchanged fun _ => rfl
    intro _
    apply h.bind (h.afterRead table)
    intro _
    exact h.unchanged fun _ => rfl

end Reading

end

end Engine

variable [Store σ]

/-- A write to a dataset. -/
inductive WriteRequest where
  | insert (rows : List Json)
  | update (filter values : Json)
  | delete (filter : Json)

/-- What a write to a table puts to the store, and the fields that it leaves out. -/
def WriteRequest.plan (maxInList : Nat) (table : Table) :
    WriteRequest → Except RequestFault (Action σ Nat × List String)
  | .insert rows => do
    let (rows, dropped) ← Engine.checkRows table [] rows
    pure (insertRows table rows, dropped)
  | .update filter values => do
    let q ← Query.compileFiltered maxInList table filter .updateUnfiltered
    let fields ← Engine.updateFields values
    let values ← writeValues table fields
    pure (updateMatching q values, values.dropped)
  | .delete filter => do
    let q ← Query.compileFiltered maxInList table filter .deleteUnfiltered
    pure (deleteMatching q, [])

variable [DistributedTier ρ]

namespace WriteRequest

open Engine

/-- Writes. -/
def perform (now : Instant) (id : String) :
    WriteRequest → Action (Engine σ ρ) WriteOutcome
  | .insert rows => Engine.insert now id rows
  | .update filter values => Engine.update now id filter values
  | .delete filter => Engine.delete now id filter

variable (now : Instant) (id : String) (e : Engine σ ρ)

/-- What a planned write comes to. One that is refused changes nothing. -/
def carryOut : Except RequestFault (Action σ Nat × List String) →
    Except QueryError WriteOutcome × Engine σ ρ
  | .error fault => (.error (.request fault), e)
  | .ok (write, dropped) =>
    ((write.exec e.store).1.map fun affected => ⟨affected, dropped⟩, e.afterWrite now id write)

theorem insert_exec (rows : List Json) :
    (Engine.insert now id rows).exec e =
      match e.registry.get id with
      | .error fault => (.error fault, e)
      | .ok table => carryOut now id e (plan e.config.query.maxInList table (.insert rows)) := by
  unfold Engine.insert
  rw [Action.exec_bind, table_exec]
  cases e.registry.get id with
  | error fault => rfl
  | ok table =>
    simp only [plan]
    rw [Action.exec_bind, Action.exec_request]
    cases checkRows table [] rows with
    | error fault => rfl
    | ok checked => exact writing_exec now id (insertRows table checked.1) _ e

theorem update_exec (filter values : Json) :
    (Engine.update now id filter values).exec e =
      match e.registry.get id with
      | .error fault => (.error fault, e)
      | .ok table =>
        carryOut now id e (plan e.config.query.maxInList table (.update filter values)) := by
  unfold Engine.update
  rw [Action.exec_bind, table_exec]
  cases e.registry.get id with
  | error fault => rfl
  | ok table =>
    simp only [plan]
    rw [Action.exec_bind, compileFiltered_exec]
    cases Query.compileFiltered e.config.query.maxInList table filter .updateUnfiltered with
    | error fault => rfl
    | ok q =>
      simp only [Except.mapError]
      rw [Action.exec_bind, Action.exec_request]
      cases updateFields values with
      | error fault => rfl
      | ok fields =>
        simp only [Except.mapError]
        rw [Action.exec_bind, Action.exec_request]
        show _ = carryOut now id e (do
          let values ← writeValues table fields
          pure (updateMatching q values, values.dropped))
        cases writeValues table fields with
        | error fault => rfl
        | ok values => exact writing_exec now id (updateMatching q values) _ e

theorem delete_exec (filter : Json) :
    (Engine.delete now id filter).exec e =
      match e.registry.get id with
      | .error fault => (.error fault, e)
      | .ok table => carryOut now id e (plan e.config.query.maxInList table (.delete filter)) := by
  unfold Engine.delete
  rw [Action.exec_bind, table_exec]
  cases e.registry.get id with
  | error fault => rfl
  | ok table =>
    simp only [plan]
    rw [Action.exec_bind, compileFiltered_exec]
    cases Query.compileFiltered e.config.query.maxInList table filter .deleteUnfiltered with
    | error fault => rfl
    | ok q => exact writing_exec now id (deleteMatching q) _ e

/-- Every write is planned for the table of its dataset first. -/
theorem perform_exec (request : WriteRequest) :
    (request.perform now id).exec e =
      match e.registry.get id with
      | .error fault => (.error fault, e)
      | .ok table => carryOut now id e (request.plan e.config.query.maxInList table) := by
  cases request with
  | insert rows => exact insert_exec now id e rows
  | update filter values => exact update_exec now id e filter values
  | delete filter => exact delete_exec now id e filter

end WriteRequest

/-! ## Reads -/

namespace Engine

/-- The table and the rows that a read asks for. -/
def requested (e : Engine σ ρ) (id : String) (page limit : Nat) :
    Except QueryError (Table × PageRequest) := do
  checkDatasetId id
  let request ← (PageRequest.make page limit).mapError .request
  let table ← e.registry.get id
  pure (table, request)

/-- What a query does that has found no page in the caches. -/
def readThrough (now : Instant) (key : String) (table : Table) (filter : Json)
    (request : PageRequest) : Action (Engine σ ρ) ResultPage := do
  let (q, result) ← readFresh table filter request
  noteRowCount q result.totalCount
  cachePage now key result
  afterRead table
  pure result

/-- What a query does when it has looked into the caches. -/
def afterLookup (now : Instant) (key : String) (table : Table) (filter : Json)
    (request : PageRequest) : Option ResultPage → Action (Engine σ ρ) ResultPage
  | some cached => pure cached
  | none => readThrough now key table filter request

omit [Store σ] [DistributedTier ρ] in
/-- A query is checked before it looks into the caches. -/
theorem requested_exec {α : Type} (id : String) (page limit : Nat) (e : Engine σ ρ)
    (go : Table → PageRequest → Action (Engine σ ρ) α) :
    (do
      Action.check (checkDatasetId id)
      let request ← Action.request (PageRequest.make page limit)
      let table ← table id
      go table request : Action (Engine σ ρ) α).exec e =
      match e.requested id page limit with
      | .error fault => (.error fault, e)
      | .ok (table, request) => (go table request).exec e := by
  unfold requested
  rw [Action.exec_bind, Action.exec_check]
  cases checkDatasetId id with
  | error fault => rfl
  | ok _ =>
    simp only
    rw [Action.exec_bind, Action.exec_request]
    cases PageRequest.make page limit with
    | error fault => rfl
    | ok request =>
      simp only [Except.mapError]
      rw [Action.exec_bind, table_exec]
      show _ = (match (do
          let table ← e.registry.get id
          pure (table, request) : Except QueryError (Table × PageRequest)) with
        | .error fault => _
        | .ok (table, request) => _)
      cases e.registry.get id <;> rfl

/-- A query looks into the caches first. -/
theorem query_exec (now : Instant) (id : String) (filter : Json) (page limit : Nat)
    (e : Engine σ ρ) :
    (query now id filter page limit).exec e =
      match e.requested id page limit with
      | .error fault => (.error fault, e)
      | .ok (table, request) =>
        let key := e.cache.keyFor id page limit filter
        match (TieredCache.getDecoded ResultPage.ofText? now key).exec e.cache with
        | (.error fault, cache) => (.error fault, { e with cache })
        | (.ok found, cache) =>
          (afterLookup now key table filter request found).exec { e with cache } := by
  unfold query
  rw [requested_exec]
  cases e.requested id page limit with
  | error fault => rfl
  | ok asked =>
    simp only [Action.exec_bind, Action.exec_get, cachedPage, onCache, Action.exec_zoom]
    show _ = (match (TieredCache.getDecoded ResultPage.ofText? now
        (e.cache.keyFor id page limit filter)).exec e.cache with
      | (.error fault, cache) => _
      | (.ok found, cache) => _)
    cases (TieredCache.getDecoded ResultPage.ofText? now
      (e.cache.keyFor id page limit filter)).exec e.cache with
    | mk found cache =>
      cases found with
      | error fault => rfl
      | ok found => cases found <;> rfl

end Engine

/-! ## Runs -/

/-- An operation of an engine. -/
inductive EngineOperation where
  | register (id : String) (specs : List ColumnSpec)
  | drop (id : String)
  | query (id : String) (filter : Json) (page limit : Nat)
  | write (id : String) (request : WriteRequest)

/-- What an operation answers if it is not refused. -/
inductive EngineAnswer where
  | registered (table : Table) (registration : Registration)
  | dropped (found : Bool)
  | page (page : ResultPage)
  | written (outcome : WriteOutcome)

/-- The page of an answer. -/
def EngineAnswer.page? : Except QueryError EngineAnswer → Option ResultPage
  | .ok (.page p) => some p
  | _ => none

namespace EngineOperation

/-- The dataset of the operation. -/
def datasetId : EngineOperation → String
  | register id _ | drop id | query id .. | write id _ => id

/-- The filter of a query. -/
def filter? : EngineOperation → Option Json
  | query _ filter _ _ => some filter
  | _ => none

/-- Runs the operation. -/
def perform (now : Instant) : EngineOperation → Action (Engine σ ρ) EngineAnswer
  | register id specs => (fun out => .registered out.1 out.2) <$> Engine.register now id specs
  | drop id => .dropped <$> Engine.drop now id
  | query id filter page limit => .page <$> Engine.query now id filter page limit
  | write id request => .written <$> request.perform now id

end EngineOperation

namespace Engine

/-- The answers to operations, one after the other. -/
def answers : List (Instant × EngineOperation) → Engine σ ρ → List (Except QueryError EngineAnswer)
  | [], _ => []
  | (now, op) :: rest, e =>
    let (answer, e) := (op.perform now).exec e
    answer :: answers rest e

/-- The pages among the answers. -/
def pages (run : List (Instant × EngineOperation)) (e : Engine σ ρ) : List ResultPage :=
  (answers run e).filterMap EngineAnswer.page?

theorem mem_pages {run : List (Instant × EngineOperation)} {e : Engine σ ρ} {p : ResultPage} :
    p ∈ pages run e ↔ .ok (.page p) ∈ answers run e := by
  unfold pages
  rw [List.mem_filterMap]
  constructor
  · rintro ⟨answer, hmem, hpage⟩
    unfold EngineAnswer.page? at hpage
    split at hpage
    · cases hpage
      exact hmem
    · cases hpage
  · intro hmem
    exact ⟨_, hmem, rfl⟩

/-- The engine after operations. -/
def afterRun : List (Instant × EngineOperation) → Engine σ ρ → Engine σ ρ
  | [], e => e
  | (now, op) :: rest, e => afterRun rest ((op.perform now).exec e).2

end Engine

end TableQuery
