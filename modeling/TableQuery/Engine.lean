import TableQuery.Advice.Report
import TableQuery.Cache.Tiered
import TableQuery.Query.Execution
import TableQuery.Registry

/-!
# The engine

Reads and writes of datasets. A read is answered from the cache if the page is there; if not, the
filter is compiled, the store is read and the page goes into the cache. A write drops the cached
pages of its dataset before it ends, also if it fails, since a part of it may have been done.

* `Engine.query`: the read.
* `Engine.insert`, `Engine.update`, `Engine.delete`: the writes. An update or deletion whose
  filter puts no condition is refused.
* `Engine.register`, `Engine.registerFromStore`, `Engine.drop`: the datasets.
* `Engine.advise`, `Engine.finishInspections`: indexes, asked for or in the background.
-/

namespace TableQuery

/-- An engine with its store and caches. -/
structure Engine (σ ρ : Type) where
  config : Config
  registry : Registry
  cache : TieredCache ρ
  advised : AdviceMarks
  /-- The tables whose inspection in the background has been started and has not ended. -/
  inspections : List Table
  store : σ

namespace Engine

variable {σ ρ : Type}

/-- The engine at its start. -/
def start (config : Config) (cache : TieredCache ρ) (store : σ) : Engine σ ρ :=
  ⟨config, .empty, cache, .none, [], store⟩

/-- Checks the settings, connects the caches and starts. -/
def opening (config : Config) (now : Instant) (shared : ρ)
    (connect : DistributedConfig → ρ → Except CacheFault Unit × ρ) (store : σ) :
    Except QueryError (Engine σ ρ) :=
  match config.check with
  | .ok () => .ok (start config (.connecting config.cache now shared connect) store)
  | .error fault => .error (.config fault)

/-- An operation of the store. -/
def onStore {α : Type} (a : Action σ α) : Action (Engine σ ρ) α :=
  a.zoom (·.store) fun store e => { e with store }

/-- An operation of the caches. -/
def onCache {α : Type} (a : Action (TieredCache ρ) α) : Action (Engine σ ρ) α :=
  a.zoom (·.cache) fun cache e => { e with cache }

/-- The table of a dataset. -/
def table (id : String) : Action (Engine σ ρ) Table := do
  let e ← get
  Action.check (e.registry.get id)

/-- Compiles a filter. -/
def compile (table : Table) (filter : Json) (page : PageRequest) : Action (Engine σ ρ) Query := do
  let e ← get
  Action.request (Query.compile e.config.query.maxInList table filter page)

section

variable [DistributedTier ρ]

/-- Drops the cached pages of a dataset. -/
def invalidate (now : Instant) (id : String) : Action (Engine σ ρ) Unit := do
  let _ ← onCache (Action.lift (TieredCache.invalidate now id))

/-! ## Datasets -/

/-- Registers the columns of a dataset. Pages with other columns are dropped. -/
def register (now : Instant) (id : String) (specs : List ColumnSpec) :
    Action (Engine σ ρ) (Table × Registration) := do
  let e ← get
  let (table, registration, registry) ← Action.check (e.registry.register id specs)
  set { e with registry }
  if registration = .replaced then invalidate now id
  pure (table, registration)

/-- Forgets a dataset and its pages, and says whether it was registered. -/
def drop (now : Instant) (id : String) : Action (Engine σ ρ) Bool := do
  let e ← get
  let (found, registry) ← Action.check (e.registry.drop id)
  set { e with registry }
  if found then invalidate now id
  pure found

/-- Looks for the page of a read in the cache. -/
def cachedPage (now : Instant) (key : String) : Action (Engine σ ρ) (Option ResultPage) :=
  onCache (TieredCache.getDecoded ResultPage.ofText? now key)

/-- Puts the page of a read into the cache. -/
def cachePage (now : Instant) (key : String) (page : ResultPage) : Action (Engine σ ρ) Unit := do
  let _ ← onCache (TieredCache.set now key page.toJson.compact none)

end

/-- Notes how many rows a dataset has, if a query has counted them all. -/
def noteRowCount (q : Query) (rows : Nat) : Action (Engine σ ρ) Unit :=
  if q.isUnfiltered then
    modify fun e => { e with registry := e.registry.updateRowCount q.datasetId rows }
  else pure ()

/-- Starts the inspection of a table in the background, unless it has been inspected or is
being inspected. -/
def startInspection (table : Table) : Action (Engine σ ρ) Unit :=
  modify fun e =>
    match e.advised.claim? table.name with
    | some advised => { e with advised, inspections := e.inspections ++ [table] }
    | none => e

/-- Starts the inspection of a table that has been read, if the settings want it. -/
def afterRead (table : Table) : Action (Engine σ ρ) Unit := do
  let e ← get
  if e.config.advisorEnabled then startInspection table

variable [Store σ]

/-- Registers a dataset with the columns that its table has in the store. -/
def registerFromStore [DistributedTier ρ] (now : Instant) (id : String) :
    Action (Engine σ ρ) (Table × Registration) := do
  let specs ← onStore (Registry.readSpecs id)
  register now id specs

/-! ## Reads -/

/-- Reads a page from the store. -/
def readFresh (table : Table) (filter : Json) (page : PageRequest) :
    Action (Engine σ ρ) (Query × ResultPage) := do
  let q ← compile table filter page
  let e ← get
  let (rows, total) ← onStore (readPage e.config.query.numericStringThreshold q)
  pure (q, {
    rows
    totalCount := total
    page := page.page
    limit := page.limit
    totalPages := page.totalPages total })

/-- One page of the rows of a dataset that a filter admits. -/
def query [DistributedTier ρ] (now : Instant) (id : String) (filter : Json) (page limit : Nat) :
    Action (Engine σ ρ) ResultPage := do
  Action.check (checkDatasetId id)
  let request ← Action.request (PageRequest.make page limit)
  let table ← table id
  let key := (← get).cache.keyFor id page limit filter
  match ← cachedPage now key with
  | some cached => pure cached
  | none => do
    let (q, result) ← readFresh table filter request
    noteRowCount q result.totalCount
    cachePage now key result
    afterRead table
    pure result

/-! ## Writes -/

/-- The fields of rows to insert, and those that the table does not have, each once. -/
def checkRows (table : Table) (dropped : List String) :
    List Json → Except RequestFault (List (List (String × Json)) × List String)
  | [] => .ok ([], dropped)
  | .object fields :: rest => do
    let values ← writeValues table fields
    let (rows, dropped) ← checkRows table (firstOccurrences (dropped ++ values.dropped)) rest
    pure (fields :: rows, dropped)
  | _ :: _ => .error .rowNotObject

/-- The fields of the values of an update. -/
def updateFields : Json → Except RequestFault (List (String × Json))
  | .object fields => .ok fields
  | _ => .error .valuesNotObject

/-- Runs a write and drops the cached pages of the dataset, whether the write failed or not. -/
def writing [DistributedTier ρ] (now : Instant) (id : String) (write : Action σ Nat) :
    Action (Engine σ ρ) Nat := do
  let outcome ← (onStore write).attempt
  invalidate now id
  Action.check outcome

/-- The query of a filter that must put a condition. -/
def compileFiltered (table : Table) (filter : Json) (unfiltered : RequestFault) :
    Action (Engine σ ρ) Query := do
  let q ← compile table filter .first
  if q.isUnfiltered then throw (.request unfiltered)
  else pure q

/-- Inserts rows, each with a new key. All rows are checked before the first is inserted. -/
def insert [DistributedTier ρ] (now : Instant) (id : String) (rows : List Json) :
    Action (Engine σ ρ) WriteOutcome := do
  let table ← table id
  let (rows, droppedFields) ← Action.request (checkRows table [] rows)
  let affected ← writing now id (insertRows table rows)
  pure { affected, droppedFields }

/-- Sets values in the rows that a filter admits. -/
def update [DistributedTier ρ] (now : Instant) (id : String) (filter values : Json) :
    Action (Engine σ ρ) WriteOutcome := do
  let table ← table id
  let q ← compileFiltered table filter .updateUnfiltered
  let fields ← Action.request (updateFields values)
  let values ← Action.request (writeValues table fields)
  let affected ← writing now id (updateMatching q values)
  pure { affected, droppedFields := values.dropped }

/-- Removes the rows that a filter admits. -/
def delete [DistributedTier ρ] (now : Instant) (id : String) (filter : Json) :
    Action (Engine σ ρ) WriteOutcome := do
  let table ← table id
  let q ← compileFiltered table filter .deleteUnfiltered
  let affected ← writing now id (deleteMatching q)
  pure { affected, droppedFields := [] }

/-! ## Indexes -/

/-- Inspects a dataset's table and creates the indexes that it lacks. -/
def advise (now : Instant) (id : String) : Action (Engine σ ρ) AdviceReport := do
  let table ← table id
  let outcome ← (onStore (adviseTable now table)).attempt
  modify fun e => { e with advised := e.advised.afterDirect table.name outcome }
  Action.check outcome

/-- Ends an inspection in the background. Its report goes nowhere. -/
def inspect (now : Instant) (table : Table) : Action (Engine σ ρ) Unit := do
  let outcome ← (onStore (adviseTable now table)).attempt
  modify fun e => { e with advised := e.advised.afterBackground table.name outcome }

/-- Ends the inspections in the background, the oldest first. -/
def finishInspections (now : Instant) : Action (Engine σ ρ) Unit := do
  let e ← get
  set { e with inspections := [] }
  e.inspections.forM (inspect now)

end Engine

end TableQuery
