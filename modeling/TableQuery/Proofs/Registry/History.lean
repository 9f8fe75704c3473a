import TableQuery.Proofs.Engine.Operation
import TableQuery.Proofs.History
import TableQuery.Proofs.Registry.Proper
import TableQuery.Store.Prepared

/-!
# What a registry remembers

After any calls a dataset has the columns that were declared last, unless it has been dropped since,
and the number of rows that was noted last, unless its columns have changed since.

* `RegistryCall`, `RegistryStep`: the calls, and what each of them came to.
* `RegistryStep.Effect`: what a call does to the registry, `step_effect`.
* `DeclaredLast`, `CountedLast`: what a row of steps says of a dataset.
* `Registry.Follows`: a registry that is proper and holds just that, kept by every call.
* `Engine.registry_follows`: the registry after any calls.
-/

namespace TableQuery

/-! ## Calls -/

/-- A call that concerns the registry. -/
inductive RegistryCall where
  | register (id : String) (specs : List ColumnSpec)
  /-- Registers a dataset with the columns that its table has in the store. -/
  | registerFromStore (id : String)
  | drop (id : String)
  | updateRowCount (id : String) (rows : Nat)

/-- What a call answers if it is not refused. -/
inductive RegistryAnswer where
  | registered (table : Table)
  | dropped (found : Bool)
  | counted

/-- A call, with the engine before and after it. -/
structure RegistryStep (σ ρ : Type) where
  call : RegistryCall
  before : Engine σ ρ
  answer : Except QueryError RegistryAnswer
  after : Engine σ ρ

namespace RegistryCall

/-- The number of rows of a dataset that the call notes. -/
def count? (id : String) : RegistryCall → Option Nat
  | updateRowCount id' rows => if id' = id then some rows else none
  | _ => none

variable {σ ρ : Type} [Store σ]

/-- The dataset that the call registers, with what it declares. -/
def declares? (store : σ) : RegistryCall → Option (String × List ColumnSpec)
  | register id specs => some (id, specs)
  | registerFromStore id =>
    match (Store.describeTable (tableName id) store).1 with
    | .ok columns => some (id, columns.map StoredColumn.toSpec)
    | .error _ => none
  | drop _ | updateRowCount .. => none

variable [DistributedTier ρ]

/-- Makes the call. -/
def perform (now : Instant) : RegistryCall → Action (Engine σ ρ) RegistryAnswer
  | register id specs => (fun out => .registered out.1) <$> Engine.register now id specs
  | registerFromStore id => (fun out => .registered out.1) <$> Engine.registerFromStore now id
  | drop id => .dropped <$> Engine.drop now id
  | updateRowCount id rows =>
    Action.lift fun e => (.counted, { e with registry := e.registry.updateRowCount id rows })

/-- Makes the call and keeps what it came to. -/
def step (now : Instant) (call : RegistryCall) (e : Engine σ ρ) : RegistryStep σ ρ :=
  ⟨call, e, ((call.perform now).exec e).1, ((call.perform now).exec e).2⟩

end RegistryCall

namespace RegistryStep

variable {σ ρ : Type} [Store σ] {s : RegistryStep σ ρ} {id id' : String}
  {specs specs' : List ColumnSpec}

/-- The step has registered a dataset. -/
def Registers (s : RegistryStep σ ρ) (id : String) (specs : List ColumnSpec) : Prop :=
  (∃ table, s.answer = .ok (.registered table)) ∧
    s.call.declares? s.before.store = some (id, specs)

/-- The step has dropped a dataset. -/
def Drops (s : RegistryStep σ ρ) (id : String) : Prop :=
  (∃ found, s.answer = .ok (.dropped found)) ∧ s.call = .drop id

/-- The step has registered a dataset that was not there or had other columns. -/
def Reshapes (s : RegistryStep σ ρ) (id : String) : Prop :=
  (∃ specs, s.Registers id specs) ∧ s.before.registry.columns? id ≠ s.after.registry.columns? id

theorem Registers.unique (h : s.Registers id specs) (h' : s.Registers id' specs') :
    id' = id ∧ specs' = specs := by
  have heq := h'.2.symm.trans h.2
  cases heq
  exact ⟨rfl, rfl⟩

theorem Registers.not_drops (h : s.Registers id specs) : ¬s.Drops id' := by
  rintro ⟨-, hcall⟩
  have hnone := h.2
  rw [hcall] at hnone
  cases hnone

theorem Registers.count?_eq (h : s.Registers id specs) : s.call.count? id' = none := by
  obtain ⟨-, hdeclares⟩ := h
  cases hcall : s.call with
  | updateRowCount =>
    rw [hcall] at hdeclares
    cases hdeclares
  | _ => rfl

/-- What a call does to the registry. -/
inductive Effect (s : RegistryStep σ ρ) : Prop where
  | refused {fault : QueryError} (answer : s.answer = .error fault)
      (uncounted : ∀ id, s.call.count? id = none)
      (registry : s.after.registry = s.before.registry)
  | reused {id : String} {specs : List ColumnSpec} {declared existing : Table}
      (registers : s.Registers id specs) (declare : Table.declare id specs = .ok declared)
      (found : s.before.registry.find? id = some existing)
      (same : existing.columns = declared.columns)
      (answer : s.answer = .ok (.registered existing))
      (registry : s.after.registry = s.before.registry) (cache : s.after.cache = s.before.cache)
  | declared {id : String} {specs : List ColumnSpec} {declared : Table}
      (registers : s.Registers id specs) (declare : Table.declare id specs = .ok declared)
      (other : s.before.registry.columns? id ≠ some declared.columns)
      (registry : s.after.registry = ⟨Registry.insertIn declared s.before.registry.tables⟩)
  | dropped {id : String} (drops : s.Drops id)
      (registry : s.after.registry = ⟨s.before.registry.tables.filter (·.datasetId != id)⟩)
  | counted {id : String} {rows : Nat} (call : s.call = .updateRowCount id rows)
      (answer : s.answer = .ok .counted)
      (registry : s.after.registry = s.before.registry.updateRowCount id rows)

/-- What is refused changes nothing. -/
theorem Effect.registry_of_error (h : s.Effect) {fault : QueryError}
    (hanswer : s.answer = .error fault) :
    s.after.registry = s.before.registry := by
  cases h with
  | refused answer uncounted registry => exact registry
  | reused registers declare found same answer registry cache => exact registry
  | declared registers declare other registry =>
    obtain ⟨_, hok⟩ := registers.1
    cases hok.symm.trans hanswer
  | dropped drops registry =>
    obtain ⟨_, hok⟩ := drops.1
    cases hok.symm.trans hanswer
  | counted call answer registry => cases answer.symm.trans hanswer

/-- A registration of the columns that the dataset has changes nothing. -/
theorem Effect.reused_of_columns (h : s.Effect) {declared t : Table}
    (hregisters : s.Registers id specs)
    (hdeclare : Table.declare id specs = .ok declared) (hfind : s.before.registry.find? id = some t)
    (hcolumns : t.columns = declared.columns) :
    s.answer = .ok (.registered t) ∧ s.after.registry = s.before.registry ∧
      s.after.cache = s.before.cache := by
  cases h with
  | refused answer uncounted registry =>
    obtain ⟨_, hok⟩ := hregisters.1
    cases hok.symm.trans answer
  | reused registers declare found same answer registry cache =>
    obtain ⟨rfl, -⟩ := hregisters.unique registers
    cases found.symm.trans hfind
    exact ⟨answer, registry, cache⟩
  | declared registers declare other registry =>
    obtain ⟨rfl, rfl⟩ := hregisters.unique registers
    cases hdeclare.symm.trans declare
    rw [Registry.columns?, hfind, Option.map_some, hcolumns] at other
    exact absurd rfl other
  | dropped drops registry => exact absurd drops hregisters.not_drops
  | counted call answer registry =>
    have hnone := hregisters.2
    rw [call] at hnone
    cases hnone

end RegistryStep

/-! ## What a call does -/

section

variable {σ ρ : Type} [Store σ]

theorem readSpecs_eq_ok {id : String} {specs : List ColumnSpec} {store : σ}
    (h : ((Registry.readSpecs id).exec store).1 = .ok specs) :
    (RegistryCall.registerFromStore id).declares? store = some (id, specs) := by
  unfold Registry.readSpecs at h
  rw [Action.exec_bind, Action.exec_check] at h
  cases hid : checkDatasetId id with
  | error fault =>
    rw [hid] at h
    cases h
  | ok _ =>
    rw [hid] at h
    simp only [Action.exec_bind, Store.exec_call] at h
    simp only [RegistryCall.declares?]
    cases hanswer : (Store.describeTable (tableName id) store).1 with
    | error fault =>
      rw [hanswer] at h
      cases h
    | ok columns =>
      rw [hanswer] at h
      simp only [Except.mapError] at h
      split at h
      · cases h
      · cases h
        rfl

variable [DistributedTier ρ]

omit [Store σ] in
/-- A registration is refused, finds its columns there or puts a table into the registry. -/
theorem register_outcome (now : Instant) (id : String) (specs : List ColumnSpec) (e : Engine σ ρ) :
    let out := (Engine.register now id specs).exec e
    (∃ fault, out.1 = .error fault ∧ out.2.registry = e.registry) ∨
      ∃ table registration declared, out.1 = .ok (table, registration) ∧
        Table.declare id specs = .ok declared ∧
          (e.registry.find? id = some table ∧ table.columns = declared.columns ∧ out.2 = e ∨
            e.registry.columns? id ≠ some declared.columns ∧
              out.2.registry = ⟨Registry.insertIn declared e.registry.tables⟩) := by
  intro out
  have hout : out = _ := Engine.register_exec now id specs e
  cases hregister : e.registry.register id specs with
  | error fault =>
    rw [hregister] at hout
    exact .inl ⟨fault, by rw [hout], by rw [hout]⟩
  | ok result =>
    obtain ⟨table, registration, registry⟩ := result
    obtain ⟨declared, hdeclare, hcases⟩ := Registry.register_cases hregister
    rw [hregister] at hout
    refine .inr ⟨table, registration, declared, by rw [hout], hdeclare, ?_⟩
    rcases hcases with ⟨hfind, hcolumns, rfl, rfl⟩ | ⟨hother, -, rfl⟩
    · exact .inl ⟨hfind, hcolumns, by rw [hout]; rfl⟩
    · refine .inr ⟨hother, ?_⟩
      rw [hout]
      dsimp only
      split <;> rfl

namespace RegistryCall

open RegistryStep

/-- What a registration comes to, also one that has asked the store first. -/
theorem effect_of_register {now : Instant} {call : RegistryCall} {e : Engine σ ρ}
    (e' : Engine σ ρ) {id : String} {specs : List ColumnSpec}
    (hdeclares : call.declares? e.store = some (id, specs))
    (hregistry : e'.registry = e.registry) (hcache : e'.cache = e.cache)
    (hstep : call.step now e = ⟨call, e,
      ((Engine.register now id specs).exec e').1.map fun out => .registered out.1,
      ((Engine.register now id specs).exec e').2⟩) : (call.step now e).Effect := by
  rw [hstep]
  rcases register_outcome now id specs e' with
    ⟨fault, hanswer, hkept⟩ | ⟨table, registration, declared, hanswer, hdeclare, hcases⟩
  · have huncounted (id : String) : call.count? id = none := by
      cases call with
      | updateRowCount => cases hdeclares
      | _ => rfl
    exact .refused (by rw [hanswer]; rfl) huncounted (hkept.trans hregistry)
  · have hanswered : ((Engine.register now id specs).exec e').1.map
        (fun out => RegistryAnswer.registered out.1) = .ok (.registered table) := by
      rw [hanswer]
      rfl
    rcases hcases with ⟨hfind, hcolumns, hsame⟩ | ⟨hother, hinserted⟩
    · exact .reused ⟨⟨table, hanswered⟩, hdeclares⟩ hdeclare (hregistry ▸ hfind) hcolumns hanswered
        (by rw [hsame]; exact hregistry) (by rw [hsame]; exact hcache)
    · exact .declared ⟨⟨table, hanswered⟩, hdeclares⟩ hdeclare (hregistry ▸ hother)
        (hregistry ▸ hinserted)

/-- Every call has one of the effects. -/
theorem step_effect (now : Instant) (call : RegistryCall) (e : Engine σ ρ) :
    (call.step now e).Effect := by
  cases call with
  | register id specs =>
    have hdeclares : (register id specs).declares? e.store = some (id, specs) := rfl
    refine effect_of_register e hdeclares rfl rfl ?_
    rw [step, perform, Action.exec_map]
  | registerFromStore id =>
    have hexec : (perform now (registerFromStore id)).exec e = _ := Action.exec_map _ _ e
    unfold Engine.registerFromStore at hexec
    rw [Action.exec_bind, Engine.onStore, Action.exec_zoom] at hexec
    cases hspecs : ((Registry.readSpecs id).exec e.store).1 with
    | error fault =>
      rw [hspecs] at hexec
      rw [step, hexec]
      exact .refused rfl (fun _ => rfl) rfl
    | ok specs =>
      rw [hspecs] at hexec
      refine effect_of_register { e with store := ((Registry.readSpecs id).exec e.store).2 }
        (readSpecs_eq_ok hspecs) rfl rfl ?_
      rw [step, hexec]
  | drop id =>
    have hexec : (perform now (drop id)).exec e = _ := Action.exec_map _ _ e
    rw [Engine.drop_exec] at hexec
    rw [step, hexec]
    cases hdrop : e.registry.drop id with
    | error fault => exact .refused rfl (fun _ => rfl) rfl
    | ok result =>
      obtain ⟨found, registry⟩ := result
      obtain ⟨_, -, hresult⟩ := bind_eq_ok.mp hdrop
      cases hresult
      refine .dropped (show Drops _ id from ⟨⟨_, rfl⟩, rfl⟩) ?_
      dsimp only
      split <;> rfl
  | updateRowCount id rows => exact .counted rfl rfl rfl

end RegistryCall

end

/-! ## What the steps say -/

variable {σ ρ : Type} [Store σ]

/-- The columns are those that the last registration of the dataset has declared, and the dataset
has not been dropped since. -/
def DeclaredLast (steps : List (RegistryStep σ ρ)) (id : String) (columns : List Column) : Prop :=
  ∃ s after specs declared,
    IsLast (fun s => s.Drops id ∨ ∃ specs, s.Registers id specs) steps s after ∧
      s.Registers id specs ∧ Table.declare id specs = .ok declared ∧ declared.columns = columns

/-- The number of rows that has been noted last among steps, and none if there is no such step. -/
def lastCount (id : String) (steps : List (RegistryStep σ ρ)) : Nat :=
  ((steps.filterMap fun s => s.call.count? id).getLast?).getD 0

/-- The number of rows is the one that has been noted last since the dataset got its columns. -/
def CountedLast (steps : List (RegistryStep σ ρ)) (id : String) (rows : Nat) : Prop :=
  ∃ s after, IsLast (·.Reshapes id) steps s after ∧ rows = lastCount id after

section

variable {steps : List (RegistryStep σ ρ)} {s : RegistryStep σ ρ} {id : String}
  {columns : List Column} {rows : Nat}

theorem declaredLast_append : DeclaredLast (steps ++ [s]) id columns ↔
    (∃ specs declared, s.Registers id specs ∧ Table.declare id specs = .ok declared ∧
        declared.columns = columns) ∨
      ¬(s.Drops id ∨ ∃ specs, s.Registers id specs) ∧ DeclaredLast steps id columns := by
  unfold DeclaredLast
  simp only [isLast_append]
  constructor
  · rintro ⟨t, after, specs, declared, ⟨-, rfl, -⟩ | ⟨hnot, rest, -, hlast⟩, hregisters, hcolumns⟩
    · exact .inl ⟨specs, declared, hregisters, hcolumns⟩
    · exact .inr ⟨hnot, t, rest, specs, declared, hlast, hregisters, hcolumns⟩
  · rintro (⟨specs, declared, hregisters, hcolumns⟩ |
      ⟨hnot, t, rest, specs, declared, hlast, hregisters, hcolumns⟩)
    · exact ⟨s, [], specs, declared, .inl ⟨.inr ⟨specs, hregisters⟩, rfl, rfl⟩, hregisters,
        hcolumns⟩
    · exact ⟨t, rest ++ [s], specs, declared, .inr ⟨hnot, rest, rfl, hlast⟩, hregisters, hcolumns⟩

/-- A step that neither registers nor drops the dataset. -/
theorem declaredLast_append_other (h : ¬s.Drops id) (h' : ∀ specs, ¬s.Registers id specs) :
    DeclaredLast (steps ++ [s]) id columns ↔ DeclaredLast steps id columns := by
  have hnot : ¬(s.Drops id ∨ ∃ specs, s.Registers id specs) := by
    rintro (hdrops | ⟨specs, hregisters⟩)
    · exact h hdrops
    · exact h' specs hregisters
  rw [declaredLast_append]
  constructor
  · rintro (⟨specs, _, hregisters, -⟩ | ⟨-, hlast⟩)
    · exact absurd hregisters (h' specs)
    · exact hlast
  · exact fun hlast => .inr ⟨hnot, hlast⟩

theorem CountedLast.of_reshapes (h : s.Reshapes id) : CountedLast (steps ++ [s]) id 0 :=
  ⟨s, [], isLast_append.mpr (.inl ⟨h, rfl, rfl⟩), rfl⟩

/-- A step that leaves the columns of the dataset may note its rows. -/
theorem CountedLast.append (h : CountedLast steps id rows) (hkept : ¬s.Reshapes id) :
    CountedLast (steps ++ [s]) id ((s.call.count? id).getD rows) := by
  obtain ⟨t, after, hlast, rfl⟩ := h
  refine ⟨t, after ++ [s], isLast_append.mpr (.inr ⟨hkept, after, rfl, hlast⟩), ?_⟩
  unfold lastCount
  rw [List.filterMap_append, List.getLast?_append]
  cases hcount : s.call.count? id <;> simp [hcount]

end

/-! ## Runs -/

namespace Registry

/-- After steps, the registry holds what they say. -/
structure Follows (steps : List (RegistryStep σ ρ)) (r : Registry) : Prop where
  proper : r.IsProper
  columns : ∀ id columns, r.columns? id = some columns ↔ DeclaredLast steps id columns
  counts : ∀ id t, r.find? id = some t → CountedLast steps id t.rowCount

variable {steps : List (RegistryStep σ ρ)} {s : RegistryStep σ ρ}

/-- The columns after a registration, whether they were there or not. -/
theorem declaredLast_registers {id : String} {specs : List ColumnSpec} {declared : Table}
    (hregisters : s.Registers id specs) (hdeclare : Table.declare id specs = .ok declared)
    (h : ∀ id columns, s.before.registry.columns? id = some columns ↔ DeclaredLast steps id columns)
    (hcolumns : ∀ id', s.after.registry.columns? id' =
      if id = id' then some declared.columns else s.before.registry.columns? id')
    (id' : String) (columns : List Column) :
    s.after.registry.columns? id' = some columns ↔ DeclaredLast (steps ++ [s]) id' columns := by
  rw [hcolumns]
  by_cases hid : id = id'
  · subst hid
    rw [if_pos rfl, declaredLast_append]
    constructor
    · rintro ⟨⟩
      exact .inl ⟨specs, declared, hregisters, hdeclare, rfl⟩
    · rintro (⟨specs', declared', hregisters', hdeclare', rfl⟩ | ⟨hnot, -⟩)
      · obtain ⟨-, rfl⟩ := hregisters.unique hregisters'
        cases hdeclare.symm.trans hdeclare'
        rfl
      · exact absurd (.inr ⟨specs, hregisters⟩) hnot
  · rw [if_neg hid, declaredLast_append_other hregisters.not_drops fun _ hregisters' =>
      hid (hregisters.unique hregisters').1.symm]
    exact h id' columns

namespace Follows

variable (h : s.before.registry.Follows steps)

include h

theorem refused {fault : QueryError} (hanswer : s.answer = .error fault)
    (huncounted : ∀ id, s.call.count? id = none)
    (hregistry : s.after.registry = s.before.registry) :
    s.after.registry.Follows (steps ++ [s]) := by
  have hdrops (id : String) : ¬s.Drops id := by
    rintro ⟨⟨_, hok⟩, -⟩
    cases hok.symm.trans hanswer
  have hregisters (id : String) (specs : List ColumnSpec) : ¬s.Registers id specs := by
    rintro ⟨⟨_, hok⟩, -⟩
    cases hok.symm.trans hanswer
  rw [hregistry]
  refine ⟨h.proper, fun id columns => ?_, fun id t ht => ?_⟩
  · rw [declaredLast_append_other (hdrops id) (hregisters id)]
    exact h.columns id columns
  · have hkept := (h.counts id t ht).append (s := s) fun hreshapes =>
      hreshapes.1.elim (hregisters id)
    rwa [huncounted id] at hkept

theorem reused {id : String} {specs : List ColumnSpec} {declared existing : Table}
    (hregisters : s.Registers id specs) (hdeclare : Table.declare id specs = .ok declared)
    (hfound : s.before.registry.find? id = some existing)
    (hsame : existing.columns = declared.columns)
    (hregistry : s.after.registry = s.before.registry) :
    s.after.registry.Follows (steps ++ [s]) := by
  refine ⟨hregistry ▸ h.proper,
    declaredLast_registers hregisters hdeclare h.columns fun id' => ?_, fun id' t ht => ?_⟩
  · rw [hregistry]
    split
    · rename_i hid
      rw [← hid, columns?, hfound, Option.map_some, hsame]
    · rfl
  · rw [hregistry] at ht
    have hkept := (h.counts id' t ht).append (s := s) fun hreshapes =>
      hreshapes.2 (congrArg (·.columns? id') hregistry.symm)
    rwa [hregisters.count?_eq] at hkept

theorem declared {id : String} {specs : List ColumnSpec} {declared : Table}
    (hregisters : s.Registers id specs) (hdeclare : Table.declare id specs = .ok declared)
    (hother : s.before.registry.columns? id ≠ some declared.columns)
    (hregistry : s.after.registry = ⟨insertIn declared s.before.registry.tables⟩) :
    s.after.registry.Follows (steps ++ [s]) := by
  have hfind (id' : String) : s.after.registry.find? id' =
      if id = id' then some declared else s.before.registry.find? id' := by
    rw [hregistry, ← (declare_forget hdeclare).2.1]
    exact find?_insertIn declared s.before.registry.tables id'
  have hcolumns (id' : String) : s.after.registry.columns? id' =
      if id = id' then some declared.columns else s.before.registry.columns? id' := by
    unfold columns?
    rw [hfind]
    split <;> rfl
  refine ⟨hregistry ▸ h.proper.insertIn (declare_isProper hdeclare),
    declaredLast_registers hregisters hdeclare h.columns hcolumns, fun id' t ht => ?_⟩
  rw [hfind] at ht
  by_cases hid : id = id'
  · subst hid
    rw [if_pos rfl] at ht
    cases ht
    rw [declare_rowCount hdeclare]
    refine .of_reshapes ⟨⟨specs, hregisters⟩, ?_⟩
    rw [hcolumns, if_pos rfl]
    exact hother
  · rw [if_neg hid] at ht
    have hkept := (h.counts id' t ht).append (s := s) fun hreshapes =>
      hreshapes.1.elim fun _ hregisters' => hid (hregisters.unique hregisters').1.symm
    rwa [hregisters.count?_eq] at hkept

theorem dropped {id : String} (hdrops : s.Drops id)
    (hregistry : s.after.registry = ⟨s.before.registry.tables.filter (·.datasetId != id)⟩) :
    s.after.registry.Follows (steps ++ [s]) := by
  have hregisters (id' : String) (specs : List ColumnSpec) : ¬s.Registers id' specs :=
    fun hregisters => hregisters.not_drops hdrops
  have hfind (id' : String) : s.after.registry.find? id' =
      if id = id' then none else s.before.registry.find? id' := by
    rw [hregistry]
    exact find?_filter s.before.registry.tables id id'
  refine ⟨hregistry ▸ h.proper.filter _, fun id' columns => ?_, fun id' t ht => ?_⟩
  · unfold columns?
    rw [hfind]
    by_cases hid : id = id'
    · subst hid
      rw [if_pos rfl, declaredLast_append]
      refine ⟨nofun, ?_⟩
      rintro (⟨specs, -, hregisters', -⟩ | ⟨hnot, -⟩)
      · exact absurd hregisters' (hregisters id specs)
      · exact absurd (.inl hdrops) hnot
    · have hother : ¬s.Drops id' := fun hdrops' => by
        cases hdrops.2.symm.trans hdrops'.2
        exact hid rfl
      rw [if_neg hid, declaredLast_append_other hother (hregisters id')]
      exact h.columns id' columns
  · rw [hfind] at ht
    split at ht
    · cases ht
    · have hkept := (h.counts id' t ht).append (s := s) fun hreshapes =>
        hreshapes.1.elim (hregisters id')
      rwa [hdrops.2] at hkept

theorem counted {id : String} {rows : Nat} (hcall : s.call = .updateRowCount id rows)
    (hregistry : s.after.registry = s.before.registry.updateRowCount id rows) :
    s.after.registry.Follows (steps ++ [s]) := by
  have hdrops (id' : String) : ¬s.Drops id' := by
    rintro ⟨-, hcall'⟩
    cases hcall.symm.trans hcall'
  have hregisters (id' : String) (specs : List ColumnSpec) : ¬s.Registers id' specs := by
    rintro ⟨-, hdeclares⟩
    rw [hcall] at hdeclares
    cases hdeclares
  refine ⟨hregistry ▸ h.proper.updateRowCount id rows, fun id' columns => ?_, fun id' t ht => ?_⟩
  · rw [hregistry, columns?_updateRowCount,
      declaredLast_append_other (hdrops id') (hregisters id')]
    exact h.columns id' columns
  · rw [hregistry, find?_updateRowCount] at ht
    have hreshapes : ¬s.Reshapes id' := fun hreshapes => hreshapes.1.elim (hregisters id')
    by_cases hid : id = id'
    · subst hid
      rw [if_pos rfl] at ht
      obtain ⟨u, hu, rfl⟩ := Option.map_eq_some_iff.mp ht
      have hkept := (h.counts id u hu).append hreshapes
      rwa [hcall, RegistryCall.count?, if_pos rfl] at hkept
    · rw [if_neg hid] at ht
      have hkept := (h.counts id' t ht).append hreshapes
      rwa [hcall, RegistryCall.count?, if_neg hid] at hkept

/-- Every call keeps the registry to what the steps say. -/
theorem append (heffect : s.Effect) : s.after.registry.Follows (steps ++ [s]) := by
  cases heffect with
  | refused answer uncounted registry => exact h.refused answer uncounted registry
  | reused registers declare found same answer registry cache =>
    exact h.reused registers declare found same registry
  | declared registers declare other registry => exact h.declared registers declare other registry
  | dropped drops registry => exact h.dropped drops registry
  | counted call answer registry => exact h.counted call registry

end Follows

end Registry

namespace Engine

variable [DistributedTier ρ]

/-- What calls come to, one after the other. -/
def registrySteps : List (Instant × RegistryCall) → Engine σ ρ → List (RegistryStep σ ρ)
  | [], _ => []
  | (now, call) :: rest, e =>
    let s := call.step now e
    s :: registrySteps rest s.after

/-- The engine after calls. -/
def afterRegistryCalls (calls : List (Instant × RegistryCall)) (e : Engine σ ρ) : Engine σ ρ :=
  calls.foldl (fun e call => (call.2.step call.1 e).after) e

theorem afterRegistryCalls_append (calls : List (Instant × RegistryCall)) (now : Instant)
    (call : RegistryCall) (e : Engine σ ρ) :
    afterRegistryCalls (calls ++ [(now, call)]) e =
      (call.step now (afterRegistryCalls calls e)).after := by
  simp [afterRegistryCalls]

theorem registrySteps_append (calls : List (Instant × RegistryCall)) (now : Instant)
    (call : RegistryCall) (e : Engine σ ρ) :
    registrySteps (calls ++ [(now, call)]) e =
      registrySteps calls e ++ [call.step now (afterRegistryCalls calls e)] := by
  induction calls generalizing e with
  | nil => rfl
  | cons first rest ih =>
    rw [List.cons_append, registrySteps, registrySteps, ih]
    rfl

/-- The registry follows its steps, and each of them has one of the effects. -/
theorem follows_afterRegistryCalls {e : Engine σ ρ} (h : e.registry.Follows (σ := σ) (ρ := ρ) [])
    (calls : List (Instant × RegistryCall)) :
    (afterRegistryCalls calls e).registry.Follows (registrySteps calls e) ∧
      ∀ s ∈ registrySteps calls e, s.Effect := by
  induction calls using List.reverseRecOn with
  | nil => exact ⟨h, fun _ hs => absurd hs List.not_mem_nil⟩
  | append_singleton calls last ih =>
    obtain ⟨now, call⟩ := last
    rw [afterRegistryCalls_append, registrySteps_append, List.forall_mem_append,
      List.forall_mem_singleton]
    have heffect := call.step_effect now (afterRegistryCalls calls e)
    exact ⟨Registry.Follows.append ih.1 heffect, ih.2, heffect⟩

/-- After any calls, whatever the store has answered to them, the tables that are listed are proper
and in the order of their datasets, each dataset once, and a dataset is found if it is listed. It
has the columns that were declared last since it was dropped, and none if there are no such, and the
number of rows that was noted last since it got its columns. A call that is refused leaves the
registry as it was, and so does a registration of the columns that the dataset has. -/
theorem registry_follows (config : Config) (cache : TieredCache ρ) (store : σ)
    (calls : List (Instant × RegistryCall)) :
    let steps := registrySteps calls (start config cache store)
    let r := (afterRegistryCalls calls (start config cache store)).registry
    (∀ t ∈ r.list, t.IsProper) ∧
    (r.list.map (·.datasetId)).Pairwise (· < ·) ∧
    (∀ id t, r.get id = .ok t ↔ t ∈ r.list ∧ t.datasetId = id) ∧
    (∀ id columns, (∃ t, r.get id = .ok t ∧ t.columns = columns) ↔ DeclaredLast steps id columns) ∧
    (∀ id t, r.get id = .ok t → CountedLast steps id t.rowCount) ∧
    ∀ s ∈ steps,
      (∀ fault, s.answer = .error fault → s.after.registry = s.before.registry) ∧
      ∀ id specs declared t, s.Registers id specs → Table.declare id specs = .ok declared →
        s.before.registry.get id = .ok t → t.columns = declared.columns →
          s.answer = .ok (.registered t) ∧ s.after.registry = s.before.registry ∧
            s.after.cache = s.before.cache := by
  intro steps r
  have hstart : (start config cache store).registry.Follows (σ := σ) (ρ := ρ) [] := by
    refine ⟨Registry.isProper_empty, fun id columns => ⟨nofun, ?_⟩, nofun⟩
    rintro ⟨_, _, _, _, ⟨⟨before, hsplit⟩, -, -⟩, -⟩
    exact absurd hsplit.symm (by simp)
  obtain ⟨hfollows, heffects⟩ := follows_afterRegistryCalls hstart calls
  refine ⟨hfollows.proper.tables, hfollows.proper.ordered, fun id t => ?_, fun id columns => ?_,
    fun id t ht => ?_, fun s hs => ?_⟩
  · rw [hfollows.proper.get_eq_ok]
    exact hfollows.proper.find?_eq_some
  · rw [← hfollows.columns id columns, Registry.columns?, Option.map_eq_some_iff]
    exact exists_congr fun t => and_congr_left fun _ => hfollows.proper.get_eq_ok
  · exact hfollows.counts id t (hfollows.proper.get_eq_ok.mp ht)
  · refine ⟨fun fault hanswer => (heffects s hs).registry_of_error hanswer, ?_⟩
    intro id specs declared t hregisters hdeclare hget hcolumns
    exact (heffects s hs).reused_of_columns hregisters hdeclare (Registry.get_eq_ok.mp hget).2
      hcolumns

/-- The columns of the sales. -/
def saleSpecs : List ColumnSpec := [⟨"region", "string", none⟩, ⟨"price", "number", none⟩]

/-- The sales are counted, dropped, counted again and registered with the columns that they have. -/
def saleCalls : List (Instant × RegistryCall) := [
  (⟨0⟩, .register saleTable.datasetId saleSpecs), (⟨1⟩, .updateRowCount saleTable.datasetId 3),
  (⟨2⟩, .drop saleTable.datasetId), (⟨3⟩, .register saleTable.datasetId saleSpecs),
  (⟨4⟩, .updateRowCount saleTable.datasetId 7), (⟨5⟩, .register saleTable.datasetId saleSpecs)]

theorem registry_follows_sale :
    let e : Engine PreparedStore SwitchableTier :=
      start .default (.make .default ⟨0⟩ .empty true) .empty
    let t := { saleTable with rowCount := 7 }
    (afterRegistryCalls saleCalls e).registry.get saleTable.datasetId = .ok t ∧
      (afterRegistryCalls saleCalls e).registry.list = [t] ∧
      DeclaredLast (registrySteps saleCalls e) saleTable.datasetId saleTable.columns ∧
      CountedLast (registrySteps saleCalls e) saleTable.datasetId 7 := by
  intro e t
  have hget : (afterRegistryCalls saleCalls e).registry.get saleTable.datasetId = .ok t := by
    decide +kernel
  obtain ⟨-, -, -, hcolumns, hcounts, -⟩ := registry_follows .default e.cache e.store saleCalls
  exact ⟨hget, by decide +kernel, (hcolumns _ _).mp ⟨t, hget, rfl⟩, hcounts _ t hget⟩

end Engine

end TableQuery
