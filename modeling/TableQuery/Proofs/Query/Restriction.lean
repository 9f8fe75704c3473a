import TableQuery.Proofs.Filter.Field
import TableQuery.Proofs.Query.Meaning

/-!
# Fields that the table does not have

A field of a filter that its table does not have says nothing. Without its entries the filter has
fewer conditions, and a group of several conditions may become one condition, or nothing. What is
pruned by that is what is pruned of the whole filter when it is held against the table.

* `Table.restrict`: a filter without the entries of unknown fields, at every depth.
* `ofJson?_restrict`: it is read as filters that come to the same predicates, or are refused alike.
* `namedFields_restrict`: the fields that it names are those that the table has.
* `compile_restrict`: its query is that of the whole filter, with nothing dropped.
-/

namespace TableQuery

namespace Table

/-- The key is that of a field that the table has, or of no field. -/
def admits (table : Table) (key : String) : Bool :=
  Filter.isOperatorKey key || (table.column? key).isSome

mutual

/-- The entries of a filter object whose keys the table admits, and in groups those of members. -/
def restrictEntries (table : Table) : List (String × Json) → List (String × Json)
  | [] => []
  | (key, .array items) :: rest =>
    (if table.admits key then
      [(key, .array (if (Connective.ofKey? key).isSome then restrictMembers table items else items))]
    else []) ++ restrictEntries table rest
  | (key, value) :: rest =>
    (if table.admits key then [(key, value)] else []) ++ restrictEntries table rest

/-- The members of a group, each with the entries that the table admits. -/
def restrictMembers (table : Table) : List Json → List Json
  | [] => []
  | .object entries :: rest => .object (restrictEntries table entries) :: restrictMembers table rest
  | v :: rest => v :: restrictMembers table rest

end

/-- A filter without the fields that the table does not have. -/
def restrict (table : Table) : Json → Json
  | .object entries => .object (table.restrictEntries entries)
  | v => v

/-- The value of an entry that stays: the members of a group are restricted. -/
def restrictValue (table : Table) (key : String) : Json → Json
  | .array items =>
    .array (if (Connective.ofKey? key).isSome then table.restrictMembers items else items)
  | v => v

theorem restrictEntries_cons (table : Table) (key : String) (value : Json)
    (rest : List (String × Json)) :
    table.restrictEntries ((key, value) :: rest) =
      (if table.admits key then [(key, table.restrictValue key value)] else []) ++
        table.restrictEntries rest := by
  cases value <;> rw [restrictEntries] <;> first | rfl | simp

theorem restrictMembers_other (table : Table) {v : Json} (h : v.kind ≠ .object)
    (rest : List Json) : table.restrictMembers (v :: rest) = v :: table.restrictMembers rest := by
  rw [restrictMembers]
  rintro entries rfl
  exact h rfl

theorem admits_of_ofKey? (table : Table) {key : String} {kind : Connective}
    (h : Connective.ofKey? key = some kind) : table.admits key = true := by
  have hkey : kind.key = key := by simpa using List.find?_some h
  rw [← hkey]
  cases kind <;> rfl

/-- Without connectives the value of an entry stays as it is. -/
theorem restrictValue_eq (table : Table) {key : String} (h : Connective.ofKey? key = none)
    (value : Json) : table.restrictValue key value = value := by
  cases value <;> simp [restrictValue, h]

end Table

/-! ## Predicates -/

theorem lowerAll_unknown {n : Nat} {table : Table} {field : String} {fs : List Filter}
    (hunknown : table.column? field = none)
    (h : ∀ f ∈ fs, ∃ operator value, f = .condition ⟨field, operator, value⟩) :
    lowerAll n table fs = .ok [] := by
  induction fs with
  | nil => rfl
  | cons f rest ih =>
    obtain ⟨operator, value, rfl⟩ := h f (by simp)
    rw [lowerAll, lower, hunknown, ih fun g hg => h g (by simp [hg])]
    rfl

/-- The conditions of an entry that stays, or none, come to the predicates of the entry. -/
theorem ofField?_restrict (n : Nat) (table : Table) {key : String} {value : Json}
    {here : List Filter} (hkey : Connective.ofKey? key = none)
    (hname : Filter.isOperatorKey key = false) (h : Filter.ofField? key value = .ok here) :
    ∃ gs, (∀ rest, Filter.ofEntries? (table.restrictEntries ((key, value) :: rest)) =
        Filter.ofEntries? (table.restrictEntries rest) >>= fun more => .ok (gs ++ more)) ∧
      lowerAll n table gs = lowerAll n table here := by
  have hadmits : table.admits key = (table.column? key).isSome := by simp [Table.admits, hname]
  cases hcolumn : table.column? key with
  | none =>
    refine ⟨[], fun rest => ?_, (lowerAll_unknown hcolumn (Filter.ofField?_eq_ok h).2).symm⟩
    rw [Table.restrictEntries_cons, hadmits, hcolumn]
    show Filter.ofEntries? (table.restrictEntries rest) = _
    cases Filter.ofEntries? (table.restrictEntries rest) <;> rfl
  | some column =>
    refine ⟨here, fun rest => ?_, rfl⟩
    have hentry : Filter.ofEntry? key value = .ok here := by
      unfold Filter.ofEntry?
      simp [hkey, hname, h]
    rw [Table.restrictEntries_cons, hadmits, hcolumn, Table.restrictValue_eq table hkey]
    show Filter.ofEntries? ((key, value) :: table.restrictEntries rest) = _
    rw [Filter.ofEntries?_cons, hentry]
    rfl

mutual

/-- The entries that stay are read, and come to the predicates of all entries. -/
theorem ofEntries?_restrict (n : Nat) (table : Table) : (es : List (String × Json)) →
    {fs : List Filter} → Filter.ofEntries? es = .ok fs →
    ∃ gs, Filter.ofEntries? (table.restrictEntries es) = .ok gs ∧
      lowerAll n table gs = lowerAll n table fs
  | [], fs, h => ⟨fs, by rwa [Table.restrictEntries], rfl⟩
  | (key, value) :: rest, fs, h => by
    rw [Filter.ofEntries?_cons] at h
    obtain ⟨here, hhere, h⟩ := bind_eq_ok.mp h
    obtain ⟨more, hmore, h⟩ := bind_eq_ok.mp h
    cases h
    obtain ⟨more', hmore', hlower⟩ := ofEntries?_restrict n table rest hmore
    rcases Filter.ofEntry?_eq_ok hhere with
      ⟨kind, items, members, hkey, rfl, hmembers, rfl⟩ | ⟨hkey, hname, hfield⟩
    · obtain ⟨members', hmembers', hsame⟩ := ofMembers?_restrict n table kind items hmembers
      refine ⟨.group kind members' :: more', ?_, ?_⟩
      · have hentry : Filter.ofEntry? key (.array (table.restrictMembers items)) =
            .ok [.group kind members'] := by
          unfold Filter.ofEntry?
          rw [hkey]
          simp only [hmembers']
          rfl
        rw [Table.restrictEntries_cons, table.admits_of_ofKey? hkey, Table.restrictValue, hkey]
        show Filter.ofEntries? ((key, .array (table.restrictMembers items)) ::
          table.restrictEntries rest) = _
        rw [Filter.ofEntries?_cons, hentry, hmore']
        rfl
      · rw [← List.singleton_append, lowerAll_append, lowerAll_append, lowerAll_group,
          lowerAll_group, hsame, hlower]
    · obtain ⟨gs, hgs, hsame⟩ := ofField?_restrict n table hkey hname hfield
      refine ⟨gs ++ more', ?_, ?_⟩
      · rw [hgs, hmore']
        rfl
      · rw [lowerAll_append, lowerAll_append, hsame, hlower]

/-- The members are read, each with the entries that stay. -/
theorem ofMembers?_restrict (n : Nat) (table : Table) (kind : Connective) : (items : List Json) →
    {fs : List Filter} → Filter.ofMembers? kind items = .ok fs →
    ∃ gs, Filter.ofMembers? kind (table.restrictMembers items) = .ok gs ∧
      lowerAll n table gs = lowerAll n table fs
  | [], fs, h => ⟨fs, by rwa [Table.restrictMembers], rfl⟩
  | v :: rest, fs, h => by
    obtain ⟨entries, parsed, more, rfl, hparsed, hmore, rfl⟩ := Filter.ofMembers?_cons_eq_ok h
    obtain ⟨parsed', hparsed', hsame⟩ := ofEntries?_restrict n table entries hparsed
    obtain ⟨more', hmore', hlower⟩ := ofMembers?_restrict n table kind rest hmore
    refine ⟨Filter.asMember parsed' ++ more', ?_, ?_⟩
    · rw [Table.restrictMembers, Filter.ofMembers?_object, hparsed', hmore']
      rfl
    · -- The member may be wrapped in another way now, which makes no difference once it is lowered.
      rw [lowerAll_append, lowerAll_append, lowerAll_asMember, lowerAll_asMember, hsame, hlower]

end

/-! ## Plans -/

namespace Filter

/-- Groups are read from entries with connectives, and from no others. -/
theorem any_isGroup_ofEntries? {es : List (String × Json)} {fs : List Filter}
    (h : ofEntries? es = .ok fs) :
    fs.any isGroup = es.any fun e => (Connective.ofKey? e.1).isSome := by
  induction es generalizing fs with
  | nil =>
    rw [ofEntries?] at h
    cases h
    rfl
  | cons e rest ih =>
    obtain ⟨key, value⟩ := e
    rw [ofEntries?_cons] at h
    obtain ⟨here, hhere, h⟩ := bind_eq_ok.mp h
    obtain ⟨more, hmore, h⟩ := bind_eq_ok.mp h
    cases h
    rw [List.any_append, List.any_cons, ih hmore]
    refine congrArg (· || _) ?_
    rcases ofEntry?_eq_ok hhere with ⟨kind, _, members, hkey, -, -, rfl⟩ | ⟨hkey, -, hfield⟩
    · rw [hkey]
      rfl
    · rw [hkey, Option.isSome_none, List.any_eq_false]
      intro f hf
      obtain ⟨operator, value, rfl⟩ := (ofField?_eq_ok hfield).2 f hf
      exact Bool.false_ne_true

end Filter

theorem any_connective_restrictEntries (table : Table) (es : List (String × Json)) :
    (table.restrictEntries es).any (fun e => (Connective.ofKey? e.1).isSome) =
      es.any fun e => (Connective.ofKey? e.1).isSome := by
  induction es with
  | nil => rw [Table.restrictEntries]
  | cons e rest ih =>
    obtain ⟨key, value⟩ := e
    rw [Table.restrictEntries_cons, List.any_append, List.any_cons, ih]
    refine congrArg (· || _) ?_
    cases hkey : Connective.ofKey? key with
    | some kind => simp [table.admits_of_ofKey? hkey, hkey]
    | none => cases table.admits key <;> simp [hkey]

/-- A filter without unknown fields is read as filters that make the same plan. -/
theorem ofJson?_restrict (n : Nat) (table : Table) {filter : Json} {fs : List Filter}
    (h : Filter.ofJson? filter = .ok fs) :
    ∃ gs, Filter.ofJson? (table.restrict filter) = .ok gs ∧
      lowerAll n table gs = lowerAll n table fs ∧
      ∀ ps, planFor gs ps = planFor fs ps := by
  cases filter with
  | object entries =>
    obtain ⟨gs, hgs, hlower⟩ := ofEntries?_restrict n table entries h
    refine ⟨gs, hgs, hlower, fun ps => ?_⟩
    have hgroups : gs.any Filter.isGroup = fs.any Filter.isGroup := by
      rw [Filter.any_isGroup_ofEntries? hgs, Filter.any_isGroup_ofEntries? h,
        any_connective_restrictEntries]
    rw [planFor, planFor, hgroups]
  | _ => exact ⟨fs, h, rfl, fun _ => rfl⟩

/-! ## Fields -/

namespace Filter

/-- The fields that a key names are left of it if the table admits the key. -/
theorem namedByKey_admits (table : Table) (key : String) :
    (if table.admits key then namedByKey key else []) =
      (namedByKey key).filter fun name => (table.column? name).isSome := by
  unfold namedByKey Table.admits
  cases isOperatorKey key <;> cases hcolumn : (table.column? key).isSome <;> simp [hcolumn]

mutual

theorem namedInEntry_restrictValue (table : Table) (key : String) : (value : Json) →
    (if table.admits key then namedInEntry key (table.restrictValue key value) else []) =
      (namedInEntry key value).filter fun name => (table.column? name).isSome
  | .array items => by
    cases hkey : Connective.ofKey? key with
    | some kind =>
      rw [table.admits_of_ofKey? hkey, Table.restrictValue, namedInEntry, namedInEntry, hkey]
      exact namedInMembers_restrictMembers table items
    | none =>
      rw [Table.restrictValue, namedInEntry, namedInEntry, hkey]
      exact namedByKey_admits table key
  | .null | .bool _ | .number _ | .string _ | .object _ => namedByKey_admits table key

theorem namedFields_restrictEntries (table : Table) : (es : List (String × Json)) →
    namedFields (table.restrictEntries es) =
      (namedFields es).filter fun name => (table.column? name).isSome
  | [] => by rw [Table.restrictEntries, namedFields]; rfl
  | (key, value) :: rest => by
    rw [Table.restrictEntries_cons, namedFields_cons, List.filter_append,
      ← namedInEntry_restrictValue table key value, ← namedFields_restrictEntries table rest]
    cases table.admits key with
    | true => exact namedFields_cons ..
    | false => rfl

theorem namedInMembers_restrictMembers (table : Table) : (items : List Json) →
    namedInMembers (table.restrictMembers items) =
      (namedInMembers items).filter fun name => (table.column? name).isSome
  | [] => by rw [Table.restrictMembers, namedInMembers]; rfl
  | .object entries :: rest => by
    rw [Table.restrictMembers, namedInMembers, namedInMembers, List.filter_append,
      namedFields_restrictEntries table entries, namedInMembers_restrictMembers table rest]
  | .null :: rest | .bool _ :: rest | .number _ :: rest | .string _ :: rest | .array _ :: rest => by
    rw [Table.restrictMembers_other table (by simp [Json.kind]),
      namedInMembers_other (by simp [Json.kind]), namedInMembers_other (by simp [Json.kind]),
      namedInMembers_restrictMembers table rest]

end

end Filter

/-- The fields that are left of a filter are those that the table has. -/
theorem namedFields_restrict (table : Table) (filter : Json) :
    (table.restrict filter).namedFields =
      filter.namedFields.filter fun name => (table.column? name).isSome := by
  cases filter with
  | object entries => exact Filter.namedFields_restrictEntries table entries
  | _ => rfl

/-- Nothing that is left is unknown. -/
theorem unknownFields_restrict {table : Table} {filter : Json} {gs : List Filter}
    (h : Filter.ofJson? (table.restrict filter) = .ok gs) : unknownFields table gs = [] := by
  have hnone : ∀ name ∈ filter.namedFields.filter (fun name => (table.column? name).isSome),
      ¬(table.column? name).isNone = true := by
    intro name hname
    have hsome := (List.mem_filter.mp hname).2
    simpa [Option.isNone_iff_eq_none, Option.isSome_iff_ne_none] using hsome
  rw [unknownFields_eq h, namedFields_restrict, List.filter_eq_nil_iff.mpr hnone]
  rfl

/-! ## Queries -/

/-- The fields that the table does not have are dropped and make no other difference: without them
a filter is refused with the same fault, or it has the same query. -/
theorem compile_restrict (n : Nat) (table : Table) (page : PageRequest) {filter : Json}
    {fs : List Filter} (h : Filter.ofJson? filter = .ok fs) :
    Query.compile n table (table.restrict filter) page =
        (Query.compile n table filter page).map (fun q => { q with dropped := [] }) ∧
      ∀ q, Query.compile n table filter page = .ok q →
        q.dropped =
          (filter.namedFields.filter fun name => (table.column? name).isNone).eraseDups := by
  obtain ⟨gs, hgs, hlower, hplan⟩ := ofJson?_restrict (max n 1) table h
  unfold Query.compile
  rw [h, hgs]
  show Query.ofFilters _ table gs page = Except.map _ (Query.ofFilters _ table fs page) ∧
    ∀ q, Query.ofFilters _ table fs page = .ok q → _
  unfold Query.ofFilters
  rw [hlower]
  cases lowerAll (max n 1) table fs with
  | error fault => exact ⟨rfl, by rintro q ⟨⟩⟩
  | ok ps =>
    refine ⟨?_, ?_⟩
    · refine congrArg Except.ok ?_
      rw [hplan, unknownFields_restrict hgs]
    · rintro q ⟨⟩
      exact unknownFields_eq h

/-- The sales of `saleFilter` without the field that the table does not have. -/
def saleFilterKnown : Json := .object [
  ("$or", .array [
    .object [("region", .object [("$like", .string "nor")])],
    .object [("price", .object [("$gt", .int 5), ("$lte", .int 9)])],
    .object [("$and", .array [.object []])]]),
  ("id", .object [("$in", .array [.int 1, .int 2])])]

theorem compile_restrict_sale :
    saleTable.restrict saleFilter = saleFilterKnown ∧
      Query.compile 2 saleTable saleFilterKnown .first =
        (Query.compile 2 saleTable saleFilter .first).map (fun q => { q with dropped := [] }) ∧
      ∃ q, Query.compile 2 saleTable saleFilter .first = .ok q ∧ q.dropped = ["ghost"] := by
  have hfilters : Filter.ofJson? saleFilter = .ok saleConditions := by cbv
  have hknown : saleTable.restrict saleFilter = saleFilterKnown := by cbv
  obtain ⟨hcompile, hdropped⟩ := compile_restrict 2 saleTable .first hfilters
  rw [hknown] at hcompile
  refine ⟨hknown, hcompile, ?_⟩
  obtain ⟨q, hq⟩ : ∃ q, Query.compile 2 saleTable saleFilter .first = .ok q :=
    exists_eq_ok (by decide +kernel)
  exact ⟨q, hq, (hdropped q hq).trans (by decide +kernel)⟩

end TableQuery
