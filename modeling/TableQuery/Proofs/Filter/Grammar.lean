import TableQuery.Proofs.Filter.Entry
import TableQuery.Proofs.Filter.Meaning

/-!
# The grammar of filters

Which values are filters, and what a filter is read as.

* `Json.IsFilter`: `null`, or an object of well-formed entries.
* `Filter.ReadsJson`: the conditions and groups that a value stands for. A member of a group is a
  condition or group of its own, or several that are joined by `$and`.
* `Json.placed`, `Filter.placedAll`: conditions with the groups around them.
* `ofJson?_eq_ok_iff`: values are read as what they stand for.
* `ofJson?_exact`: filters and nothing else are read, and no condition is lost or moved.
-/

namespace TableQuery

/-! ## Keys -/

theorem Connective.ofKey?_key (kind : Connective) : ofKey? kind.key = some kind := by
  cases kind <;> decide

theorem Connective.eq_key {key : String} {kind : Connective} (h : ofKey? key = some kind) :
    key = kind.key := by
  have hfound := List.find?_some h
  exact (eq_of_beq hfound).symm

theorem Operator.ofKey?_key (operator : Operator) : ofKey? operator.key = some operator := by
  cases operator <;> decide

theorem Operator.eq_key {key : String} {operator : Operator} (h : ofKey? key = some operator) :
    key = operator.key := by
  have hfound := List.find?_some h
  exact (eq_of_beq hfound).symm

namespace Filter

theorem isOperatorKey_key (operator : Operator) : isOperatorKey operator.key = true := by
  cases operator <;> decide

/-- The key of a field joins nothing. -/
theorem ofKey?_eq_none {key : String} (h : isOperatorKey key = false) :
    Connective.ofKey? key = none := by
  rw [Option.eq_none_iff_forall_ne_some]
  intro kind hkind
  rw [Connective.eq_key hkind] at h
  cases kind <;> exact absurd h (by decide)

end Filter

/-! ## Well-formed filters -/

/-- The value is `null`, a truth value, a number or a string. -/
def Json.isScalar : Json → Bool
  | .array _ | .object _ => false
  | .null | .bool _ | .number _ | .string _ => true

/-- Operators with their operands, as an object writes them. -/
def Operator.entries (operands : List (Operator × Json)) : List (String × Json) :=
  operands.map fun o => (o.1.key, o.2)

/-- There are operators, and the operands of `$in` and `$notIn` are arrays. -/
structure Operator.AreOperands (operands : List (Operator × Json)) : Prop where
  nonempty : operands ≠ []
  lists : ∀ o ∈ operands, o.1.takesList = true → o.2.kind = .array

/-- An entry of a filter object is well formed. -/
inductive IsFilterEntry : String → Json → Prop where
  /-- `$and` or `$or`, with an array of filter objects. -/
  | group (kind : Connective) (members : List (List (String × Json)))
      (h : ∀ entries ∈ members, ∀ e ∈ entries, IsFilterEntry e.1 e.2) :
      IsFilterEntry kind.key (.array (members.map .object))
  /-- A field with a value to equal. -/
  | scalar {field : String} {value : Json} (hfield : Filter.isOperatorKey field = false)
      (hvalue : value.isScalar = true) : IsFilterEntry field value
  /-- A field with operators. -/
  | operators {field : String} {operands : List (Operator × Json)}
      (hfield : Filter.isOperatorKey field = false) (h : Operator.AreOperands operands) :
      IsFilterEntry field (.object (Operator.entries operands))

/-- The value is a filter: `null`, or an object of well-formed entries. -/
def Json.IsFilter : Json → Prop
  | .null => True
  | .object entries => ∀ e ∈ entries, IsFilterEntry e.1 e.2
  | _ => False

/-! ## What filters are read as -/

namespace Filter

mutual

/-- An entry of a filter object stands for conditions or for a group. -/
inductive ReadsEntry : String → Json → List Filter → Prop where
  /-- A field with a value is to equal it. -/
  | scalar {field : String} {value : Json} (hfield : isOperatorKey field = false)
      (hvalue : value.isScalar = true) :
      ReadsEntry field value [.condition ⟨field, .eq, value⟩]
  /-- A field with operators has a condition for each of them. -/
  | operators {field : String} {operands : List (Operator × Json)}
      (hfield : isOperatorKey field = false) (h : Operator.AreOperands operands) :
      ReadsEntry field (.object (Operator.entries operands))
        (operands.map fun o => .condition ⟨field, o.1, o.2⟩)
  /-- A group has the members that its filter objects stand for. -/
  | group {kind : Connective} {items : List Json} {members : List Filter}
      (h : ReadsMembers items members) : ReadsEntry kind.key (.array items) [.group kind members]

/-- The entries of a filter object stand for conditions and groups, in the order of the entries. -/
inductive Reads : List (String × Json) → List Filter → Prop where
  | nil : Reads [] []
  | cons {key : String} {value : Json} {rest : List (String × Json)} {here more : List Filter}
      (h : ReadsEntry key value here) (hrest : Reads rest more) :
      Reads ((key, value) :: rest) (here ++ more)

/-- The filter objects of a group stand for its members. -/
inductive ReadsMembers : List Json → List Filter → Prop where
  | nil : ReadsMembers [] []
  /-- An empty object is no member. -/
  | absent {rest : List Json} {members : List Filter} (hrest : ReadsMembers rest members) :
      ReadsMembers (.object [] :: rest) members
  /-- One condition or group stands alone. -/
  | alone {entries : List (String × Json)} {f : Filter} {rest : List Json} {members : List Filter}
      (h : Reads entries [f]) (hrest : ReadsMembers rest members) :
      ReadsMembers (.object entries :: rest) (f :: members)
  /-- Several are a group, all of whose members must hold. -/
  | several {entries : List (String × Json)} {fs : List Filter} {rest : List Json}
      {members : List Filter} (h : Reads entries fs) (hlength : 2 ≤ fs.length)
      (hrest : ReadsMembers rest members) :
      ReadsMembers (.object entries :: rest) (.group .and fs :: members)

end

/-- What a value stands for as a filter; `null` stands for nothing. -/
def ReadsJson : Json → List Filter → Prop
  | .null, fs => fs = []
  | .object entries, fs => Reads entries fs
  | _, _ => False

/-! ## Fields -/

theorem ofOperator?_eq_ok_iff {field key : String} {operand : Json} {f : Filter} :
    ofOperator? field key operand = .ok f ↔
      ∃ operator : Operator, key = operator.key ∧
        (operator.takesList = true → operand.kind = .array) ∧
        f = .condition ⟨field, operator, operand⟩ := by
  constructor
  · intro h
    unfold ofOperator? at h
    cases hkey : Operator.ofKey? key with
    | none =>
      rw [hkey] at h
      cases h
    | some operator =>
      rw [hkey] at h
      simp only at h
      split at h
      · cases h
      · rename_i hsuits
        cases h
        refine ⟨operator, Operator.eq_key hkey, fun hlist => ?_, rfl⟩
        simpa [hlist] using hsuits
  · rintro ⟨operator, rfl, hsuits, rfl⟩
    have hno : ¬ (operator.takesList && operand.kind != .array) = true := by simpa using hsuits
    rw [ofOperator?, Operator.ofKey?_key]
    exact if_neg hno

/-- Operators are read one by one: each is known and has an operand that suits it. -/
theorem mapM_ofOperator?_eq_ok_iff {field : String} {entries : List (String × Json)}
    {fs : List Filter} :
    entries.mapM (fun e => ofOperator? field e.1 e.2) = .ok fs ↔
      ∃ operands : List (Operator × Json), entries = Operator.entries operands ∧
        (∀ o ∈ operands, o.1.takesList = true → o.2.kind = .array) ∧
        fs = operands.map fun o => .condition ⟨field, o.1, o.2⟩ := by
  induction entries generalizing fs with
  | nil =>
    constructor
    · intro h
      cases h
      exact ⟨[], rfl, by simp, rfl⟩
    · rintro ⟨operands, hnil, -, rfl⟩
      rw [List.map_eq_nil_iff.mp hnil.symm]
      rfl
  | cons e rest ih =>
    rw [List.mapM_cons]
    constructor
    · intro h
      obtain ⟨f, hf, h⟩ := bind_eq_ok.mp h
      obtain ⟨more, hmore, h⟩ := bind_eq_ok.mp h
      cases h
      obtain ⟨operator, hkey, hsuits, rfl⟩ := ofOperator?_eq_ok_iff.mp hf
      obtain ⟨operands, rfl, hall, rfl⟩ := ih.mp hmore
      refine ⟨(operator, e.2) :: operands, ?_, ?_, rfl⟩
      · show _ = (operator.key, e.2) :: Operator.entries operands
        rw [← hkey]
      · rw [List.forall_mem_cons]
        exact ⟨hsuits, hall⟩
    · rintro ⟨operands, hsplit, hall, rfl⟩
      cases operands with
      | nil => cases hsplit
      | cons o operands =>
        obtain ⟨rfl, rfl⟩ := List.cons.inj hsplit
        rw [List.forall_mem_cons] at hall
        refine bind_eq_ok.mpr ⟨.condition ⟨field, o.1, o.2⟩, ?_, bind_eq_ok.mpr ⟨_, ?_, rfl⟩⟩
        · exact ofOperator?_eq_ok_iff.mpr ⟨o.1, rfl, hall.1, rfl⟩
        · exact ih.mpr ⟨operands, rfl, hall.2, rfl⟩

theorem any_isOperatorKey_entries {operands : List (Operator × Json)} (h : operands ≠ []) :
    (Operator.entries operands).any (isOperatorKey ·.1) = true := by
  cases operands with
  | nil => exact absurd rfl h
  | cons o rest => simp [Operator.entries, isOperatorKey_key]

/-- A field has a value to equal, or operators. -/
theorem ofField?_eq_ok_iff {field : String} {value : Json} {fs : List Filter} :
    ofField? field value = .ok fs ↔
      (value.isScalar = true ∧ fs = [.condition ⟨field, .eq, value⟩]) ∨
      ∃ operands : List (Operator × Json), value = .object (Operator.entries operands) ∧
        Operator.AreOperands operands ∧
        fs = operands.map fun o => .condition ⟨field, o.1, o.2⟩ := by
  constructor
  · intro h
    cases value with
    | object entries =>
      rw [ofField?] at h
      split at h
      · rename_i hany
        obtain ⟨operands, rfl, hlists, rfl⟩ := mapM_ofOperator?_eq_ok_iff.mp h
        refine .inr ⟨operands, rfl, ⟨?_, hlists⟩, rfl⟩
        rintro rfl
        cases hany
      · cases h
    | array items => cases h
    | null | bool | number | string =>
      cases h
      exact .inl ⟨rfl, rfl⟩
  · rintro (⟨hvalue, rfl⟩ | ⟨operands, rfl, hoperands, rfl⟩)
    · cases value <;> first | rfl | cases hvalue
    · rw [ofField?, if_pos (any_isOperatorKey_entries hoperands.nonempty)]
      exact mapM_ofOperator?_eq_ok_iff.mpr ⟨operands, rfl, hoperands.lists, rfl⟩

/-! ## Entries -/

theorem ReadsEntry.ne_nil {key : String} {value : Json} {here : List Filter}
    (h : ReadsEntry key value here) : here ≠ [] := by
  cases h with
  | scalar | group => exact List.cons_ne_nil _ _
  | operators _ hoperands => exact mt List.map_eq_nil_iff.mp hoperands.nonempty

/-- Only an empty object stands for nothing. -/
theorem Reads.eq_nil {es : List (String × Json)} (h : Reads es []) : es = [] := by
  generalize hfs : ([] : List Filter) = fs at h
  cases h with
  | nil => rfl
  | cons h _ => exact absurd (List.append_eq_nil_iff.mp hfs.symm).1 h.ne_nil

theorem asMember_of_two_le {fs : List Filter} (h : 2 ≤ fs.length) :
    asMember fs = [.group .and fs] := by
  match fs with
  | f :: g :: rest => rfl

mutual

/-- Entries that are read are read as what they stand for. -/
theorem reads_of_ofEntries? : (es : List (String × Json)) → {fs : List Filter} →
    ofEntries? es = .ok fs → Reads es fs
  | [], fs, h => by
    rw [ofEntries?] at h
    cases h
    exact .nil
  | (key, value) :: rest, fs, h => by
    rw [ofEntries?_cons] at h
    obtain ⟨here, hhere, h⟩ := bind_eq_ok.mp h
    obtain ⟨more, hmore, h⟩ := bind_eq_ok.mp h
    cases h
    refine .cons ?_ (reads_of_ofEntries? rest hmore)
    rcases ofEntry?_eq_ok hhere with
      ⟨kind, items, members, hkey, rfl, hmembers, rfl⟩ | ⟨-, hname, hfield⟩
    · rw [Connective.eq_key hkey]
      exact .group (readsMembers_of_ofMembers? kind items hmembers)
    · rcases ofField?_eq_ok_iff.mp hfield with ⟨hvalue, rfl⟩ | ⟨operands, rfl, hoperands, rfl⟩
      · exact .scalar hname hvalue
      · exact .operators hname hoperands

theorem readsMembers_of_ofMembers? (kind : Connective) : (items : List Json) →
    {members : List Filter} → ofMembers? kind items = .ok members → ReadsMembers items members
  | [], members, h => by
    rw [ofMembers?] at h
    cases h
    exact .nil
  | v :: rest, members, h => by
    obtain ⟨entries, parsed, more, rfl, hparsed, hmore, rfl⟩ := ofMembers?_cons_eq_ok h
    have hentries := reads_of_ofEntries? entries hparsed
    have hrest := readsMembers_of_ofMembers? kind rest hmore
    match parsed with
    | [] =>
      rw [hentries.eq_nil]
      exact .absent hrest
    | [f] => exact .alone hentries hrest
    | f :: g :: fs => exact .several hentries (by simp) hrest

end

mutual

theorem ReadsEntry.ofEntry? : {key : String} → {value : Json} → {here : List Filter} →
    ReadsEntry key value here → ofEntry? key value = .ok here
  | key, value, _, .scalar hfield hvalue => by
    rw [Filter.ofEntry?, ofKey?_eq_none hfield]
    simpa [hfield] using ofField?_eq_ok_iff.mpr (.inl ⟨hvalue, rfl⟩)
  | key, _, _, .operators hfield h => by
    rw [Filter.ofEntry?, ofKey?_eq_none hfield]
    simpa [hfield] using ofField?_eq_ok_iff.mpr (.inr ⟨_, rfl, h, rfl⟩)
  | _, _, _, .group h => by
    rw [Filter.ofEntry?, Connective.ofKey?_key]
    exact bind_eq_ok.mpr ⟨_, h.ofMembers? _, rfl⟩

/-- Entries that stand for something are read as that. -/
theorem Reads.ofEntries? : {es : List (String × Json)} → {fs : List Filter} → Reads es fs →
    ofEntries? es = .ok fs
  | _, _, .nil => by rw [Filter.ofEntries?]
  | _, _, .cons h hrest => by
    rw [ofEntries?_cons]
    exact bind_eq_ok.mpr ⟨_, h.ofEntry?, bind_eq_ok.mpr ⟨_, hrest.ofEntries?, rfl⟩⟩

theorem ReadsMembers.ofMembers? (kind : Connective) : {items : List Json} →
    {members : List Filter} → ReadsMembers items members → ofMembers? kind items = .ok members
  | _, _, .nil => by rw [Filter.ofMembers?]
  | _, _, .absent hrest => by
    rw [ofMembers?_object]
    exact bind_eq_ok.mpr ⟨_, Reads.nil.ofEntries?, bind_eq_ok.mpr ⟨_, hrest.ofMembers? kind, rfl⟩⟩
  | _, _, .alone h hrest => by
    rw [ofMembers?_object]
    exact bind_eq_ok.mpr ⟨_, h.ofEntries?, bind_eq_ok.mpr ⟨_, hrest.ofMembers? kind, rfl⟩⟩
  | _, _, .several h hlength hrest => by
    rw [ofMembers?_object]
    refine bind_eq_ok.mpr ⟨_, h.ofEntries?, bind_eq_ok.mpr ⟨_, hrest.ofMembers? kind, ?_⟩⟩
    rw [asMember_of_two_le hlength]
    rfl

end

/-- Values are read as what they stand for. -/
theorem ofJson?_eq_ok_iff {v : Json} {fs : List Filter} : ofJson? v = .ok fs ↔ ReadsJson v fs := by
  cases v with
  | null =>
    constructor
    · intro h
      cases h
      rfl
    · rintro rfl
      rfl
  | object entries => exact ⟨reads_of_ofEntries? entries, Reads.ofEntries?⟩
  | bool | number | string | array => exact ⟨nofun, nofun⟩

/-! ## Acceptance -/

mutual

theorem ReadsEntry.isFilterEntry : {key : String} → {value : Json} → {here : List Filter} →
    ReadsEntry key value here → IsFilterEntry key value
  | _, _, _, .scalar hfield hvalue => .scalar hfield hvalue
  | _, _, _, .operators hfield h => .operators hfield h
  | _, _, _, .group h => by
    obtain ⟨members, rfl, hmembers⟩ := h.objects
    exact .group _ members hmembers

theorem Reads.areFilterEntries : {es : List (String × Json)} → {fs : List Filter} → Reads es fs →
    ∀ e ∈ es, IsFilterEntry e.1 e.2
  | _, _, .nil => by simp
  | _, _, .cons h hrest => List.forall_mem_cons.mpr ⟨h.isFilterEntry, hrest.areFilterEntries⟩

theorem ReadsMembers.objects : {items : List Json} → {members : List Filter} →
    ReadsMembers items members → ∃ objects : List (List (String × Json)),
      items = objects.map .object ∧ ∀ entries ∈ objects, ∀ e ∈ entries, IsFilterEntry e.1 e.2
  | _, _, .nil => ⟨[], rfl, by simp⟩
  | _, _, .absent hrest => by
    obtain ⟨objects, rfl, hobjects⟩ := hrest.objects
    exact ⟨[] :: objects, rfl, List.forall_mem_cons.mpr ⟨by simp, hobjects⟩⟩
  | _, _, .alone h hrest => by
    obtain ⟨objects, rfl, hobjects⟩ := hrest.objects
    exact ⟨_ :: objects, rfl, List.forall_mem_cons.mpr ⟨h.areFilterEntries, hobjects⟩⟩
  | _, _, .several h _ hrest => by
    obtain ⟨objects, rfl, hobjects⟩ := hrest.objects
    exact ⟨_ :: objects, rfl, List.forall_mem_cons.mpr ⟨h.areFilterEntries, hobjects⟩⟩

end

theorem exists_reads {es : List (String × Json)} (h : ∀ e ∈ es, ∃ here, ReadsEntry e.1 e.2 here) :
    ∃ fs, Reads es fs := by
  induction es with
  | nil => exact ⟨[], .nil⟩
  | cons e rest ih =>
    rw [List.forall_mem_cons] at h
    obtain ⟨here, hhere⟩ := h.1
    obtain ⟨more, hmore⟩ := ih h.2
    exact ⟨here ++ more, .cons hhere hmore⟩

theorem exists_readsMembers {objects : List (List (String × Json))}
    (h : ∀ entries ∈ objects, ∃ fs, Reads entries fs) :
    ∃ members, ReadsMembers (objects.map .object) members := by
  induction objects with
  | nil => exact ⟨[], .nil⟩
  | cons entries rest ih =>
    rw [List.forall_mem_cons] at h
    obtain ⟨fs, hfs⟩ := h.1
    obtain ⟨members, hmembers⟩ := ih h.2
    match fs with
    | [] =>
      rw [hfs.eq_nil]
      exact ⟨members, .absent hmembers⟩
    | [f] => exact ⟨f :: members, .alone hfs hmembers⟩
    | f :: g :: fs => exact ⟨_ :: members, .several hfs (by simp) hmembers⟩

theorem exists_readsEntry {key : String} {value : Json} (h : IsFilterEntry key value) :
    ∃ here, ReadsEntry key value here := by
  induction h with
  | group kind members _ ih =>
    obtain ⟨fs, hfs⟩ := exists_readsMembers fun entries hentries =>
      exists_reads (ih entries hentries)
    exact ⟨_, .group hfs⟩
  | scalar hfield hvalue => exact ⟨_, .scalar hfield hvalue⟩
  | operators hfield hoperands => exact ⟨_, .operators hfield hoperands⟩

/-- Filters stand for something, and nothing else does. -/
theorem exists_readsJson_iff {v : Json} : (∃ fs, ReadsJson v fs) ↔ v.IsFilter := by
  cases v with
  | null => exact ⟨fun _ => trivial, fun _ => ⟨[], rfl⟩⟩
  | object entries =>
    constructor
    · rintro ⟨fs, hfs⟩
      exact hfs.areFilterEntries
    · intro h
      exact exists_reads fun e he => exists_readsEntry (h e he)
  | bool | number | string | array => exact ⟨nofun, nofun⟩

/-! ## Places of conditions -/

mutual

/-- The conditions of a filter, each with the groups around it, the outermost first. -/
def placed (around : List Connective) : Filter → List (List Connective × Condition)
  | .condition c => [(around, c)]
  | .group kind members => placedAll (around ++ [kind]) members

/-- The conditions of filters, each with the groups around it. -/
def placedAll (around : List Connective) : List Filter → List (List Connective × Condition)
  | [] => []
  | f :: rest => placed around f ++ placedAll around rest

end

theorem placedAll_append (around : List Connective) (fs gs : List Filter) :
    placedAll around (fs ++ gs) = placedAll around fs ++ placedAll around gs := by
  induction fs with
  | nil => rfl
  | cons f rest ih => rw [List.cons_append, placedAll, placedAll, ih, List.append_assoc]

theorem placedAll_singleton (around : List Connective) (f : Filter) :
    placedAll around [f] = placed around f := by
  rw [placedAll, placedAll, List.append_nil]

theorem placedAll_conditions {α : Type} (around : List Connective) (c : α → Condition)
    (xs : List α) : placedAll around (xs.map fun x => .condition (c x)) =
      xs.map fun x => (around, c x) := by
  induction xs with
  | nil => rfl
  | cons x rest ih =>
    rw [List.map_cons, placedAll, ih, placed, List.map_cons, List.singleton_append]

mutual

theorem placed_snd (around : List Connective) : (f : Filter) →
    (placed around f).map Prod.snd = conditions f
  | .condition _ => rfl
  | .group kind members => placedAll_snd (around ++ [kind]) members

/-- All conditions have a place. -/
theorem placedAll_snd (around : List Connective) : (fs : List Filter) →
    (placedAll around fs).map Prod.snd = conditionsOfAll fs
  | [] => rfl
  | f :: rest => by
    rw [placedAll, List.map_append, placed_snd around f, placedAll_snd around rest, conditionsOfAll]

end

end Filter

namespace Json

/-- How many conditions or groups an entry with this value writes. -/
def writtenBy : Json → Nat
  | .object operands => operands.length
  | _ => 1

/-- How many conditions and groups a filter object writes. -/
def written : List (String × Json) → Nat
  | [] => 0
  | e :: rest => writtenBy e.2 + written rest

mutual

/-- The conditions that an entry of a filter object writes, each with the groups around it. -/
def placedEntry (around : List Connective) (key : String) :
    Json → List (List Connective × Condition)
  | .array items =>
    match Connective.ofKey? key with
    | some kind => placedMembers (around ++ [kind]) items
    | none => []
  | .object operands => operands.filterMap fun o =>
    (Operator.ofKey? o.1).map fun operator => (around, ⟨key, operator, o.2⟩)
  | scalar => [(around, ⟨key, .eq, scalar⟩)]

/-- The conditions that a filter object writes, in its order. -/
def placedEntries (around : List Connective) :
    List (String × Json) → List (List Connective × Condition)
  | [] => []
  | (key, value) :: rest => placedEntry around key value ++ placedEntries around rest

/-- The conditions of the members of a group. Several conditions or groups of one member are below
a group of their own. -/
def placedMembers (around : List Connective) : List Json → List (List Connective × Condition)
  | .object entries :: rest =>
    placedEntries (if 2 ≤ written entries then around ++ [.and] else around) entries ++
      placedMembers around rest
  | _ :: rest => placedMembers around rest
  | [] => []

end

/-- The conditions that a filter writes, in its order, each with the groups around it. -/
def placed : Json → List (List Connective × Condition)
  | .object entries => placedEntries [] entries
  | _ => []

end Json

namespace Filter

theorem filterMap_entries (around : List Connective) (field : String)
    (operands : List (Operator × Json)) :
    ((Operator.entries operands).filterMap fun o =>
      (Operator.ofKey? o.1).map fun operator => (around, (⟨field, operator, o.2⟩ : Condition))) =
      operands.map fun o => (around, ⟨field, o.1, o.2⟩) := by
  rw [Operator.entries, List.filterMap_map, ← List.filterMap_eq_map]
  refine congrArg (List.filterMap · operands) (funext fun o => ?_)
  simp [Operator.ofKey?_key]

theorem ReadsEntry.length_eq {key : String} {value : Json} {here : List Filter}
    (h : ReadsEntry key value here) : here.length = Json.writtenBy value := by
  cases h with
  | scalar _ hvalue => cases value <;> first | rfl | cases hvalue
  | operators => simp [Json.writtenBy, Operator.entries]
  | group => rfl

theorem Reads.length_eq : {es : List (String × Json)} → {fs : List Filter} → Reads es fs →
    fs.length = Json.written es
  | _, _, .nil => rfl
  | _, _, .cons h hrest => by
    rw [List.length_append, h.length_eq, hrest.length_eq]
    rfl

mutual

theorem ReadsEntry.placedAll_eq : {key : String} → {value : Json} → {here : List Filter} →
    ReadsEntry key value here → (around : List Connective) →
    placedAll around here = Json.placedEntry around key value
  | _, value, _, .scalar _ hvalue, around => by
    rw [placedAll_singleton]
    cases value <;> first | rfl | cases hvalue
  | _, _, _, .operators _ _, around => by
    rw [Json.placedEntry, filterMap_entries, placedAll_conditions]
  | _, _, _, .group h, around => by
    rw [Json.placedEntry, Connective.ofKey?_key, placedAll_singleton]
    exact h.placedAll_eq _

theorem Reads.placedAll_eq : {es : List (String × Json)} → {fs : List Filter} → Reads es fs →
    (around : List Connective) → placedAll around fs = Json.placedEntries around es
  | _, _, .nil, around => by rw [Json.placedEntries, placedAll]
  | _, _, .cons h hrest, around => by
    rw [Json.placedEntries, placedAll_append, h.placedAll_eq around, hrest.placedAll_eq around]

theorem ReadsMembers.placedAll_eq : {items : List Json} → {members : List Filter} →
    ReadsMembers items members → (around : List Connective) →
    placedAll around members = Json.placedMembers around items
  | _, _, .nil, around => by rw [Json.placedMembers, placedAll]
  | _, _, .absent hrest, around => by
    rw [Json.placedMembers, Json.placedEntries, hrest.placedAll_eq around]
    rfl
  | _, _, .alone h hrest, around => by
    have hone := h.length_eq
    rw [Json.placedMembers, if_neg (by simp [← hone]), placedAll, ← hrest.placedAll_eq around,
      ← h.placedAll_eq around, placedAll_singleton]
  | _, _, .several h hlength hrest, around => by
    rw [h.length_eq] at hlength
    rw [Json.placedMembers, if_pos hlength, placedAll, ← hrest.placedAll_eq around,
      ← h.placedAll_eq (around ++ [Connective.and])]
    rfl

end

/-- The conditions of a filter are below the groups that they were written in. -/
theorem ReadsJson.placedAll_eq {v : Json} {fs : List Filter} (h : ReadsJson v fs) :
    placedAll [] fs = v.placed := by
  cases v with
  | null =>
    cases h
    rfl
  | object entries => exact Reads.placedAll_eq h []
  | bool | number | string | array => cases h

/-- Filters are read as what they stand for, and any other value is refused. No condition is lost,
added or moved: in order, they are those that the filter writes, below the groups around them. -/
theorem ofJson?_exact (v : Json) :
    ((∃ fs, ofJson? v = .ok fs) ↔ v.IsFilter) ∧
    (¬ v.IsFilter → ∃ fault, ofJson? v = .error fault) ∧
    (∀ fs, ofJson? v = .ok fs ↔ ReadsJson v fs) ∧
    ∀ fs, ofJson? v = .ok fs →
      placedAll [] fs = v.placed ∧ conditionsOfAll fs = v.placed.map Prod.snd := by
  have haccepted : (∃ fs, ofJson? v = .ok fs) ↔ v.IsFilter := by
    simp only [ofJson?_eq_ok_iff, exists_readsJson_iff]
  refine ⟨haccepted, fun hno => ?_, fun fs => ofJson?_eq_ok_iff, fun fs hfs => ?_⟩
  · cases hv : ofJson? v with
    | ok fs => exact absurd (haccepted.mp ⟨fs, hv⟩) hno
    | error fault => exact ⟨fault, rfl⟩
  · have hplaced := (ofJson?_eq_ok_iff.mp hfs).placedAll_eq
    refine ⟨hplaced, ?_⟩
    rw [← hplaced, placedAll_snd]

/-- Operators on a field beside a group with members of one condition, of two and of none. -/
def mixedFilter : Json := .object [
  ("age", .object [("$gt", .int 1), ("$lte", .int 9)]),
  ("$or", .array [.object [("name", .string "A")],
    .object [("open", .bool true), ("size", .null)], .object []])]

/-- The conditions of `mixedFilter`. -/
def mixedConditions : List Filter := [
  .condition ⟨"age", .gt, .int 1⟩, .condition ⟨"age", .lte, .int 9⟩,
  .group .or [.condition ⟨"name", .eq, .string "A"⟩,
    .group .and [.condition ⟨"open", .eq, .bool true⟩, .condition ⟨"size", .eq, .null⟩]]]

theorem mixedFilter_reads : ReadsJson mixedFilter mixedConditions := by
  have hname : Reads [("name", .string "A")] [.condition ⟨"name", .eq, .string "A"⟩] :=
    .cons (.scalar (by decide) rfl) .nil
  have hpair : Reads [("open", .bool true), ("size", .null)]
      [.condition ⟨"open", .eq, .bool true⟩, .condition ⟨"size", .eq, .null⟩] :=
    .cons (.scalar (by decide) rfl) (.cons (.scalar (by decide) rfl) .nil)
  have hmembers := ReadsMembers.alone hname (.several hpair (Nat.le_refl 2) (.absent .nil))
  have hage : Operator.AreOperands [(.gt, .int 1), (.lte, .int 9)] := ⟨by simp, by decide⟩
  exact .cons (.operators (by decide) hage) (.cons (@ReadsEntry.group .or _ _ hmembers) .nil)

theorem ofJson?_exact_mixed :
    mixedFilter.IsFilter ∧ ofJson? mixedFilter = .ok mixedConditions ∧
      mixedFilter.placed = [([], ⟨"age", .gt, .int 1⟩), ([], ⟨"age", .lte, .int 9⟩),
        ([.or], ⟨"name", .eq, .string "A"⟩), ([.or, .and], ⟨"open", .eq, .bool true⟩),
        ([.or, .and], ⟨"size", .eq, .null⟩)] ∧
      ¬ (Json.array [mixedFilter]).IsFilter ∧
      ∃ fault, ofJson? (.array [mixedFilter]) = .error fault := by
  obtain ⟨haccepted, -, hreads, hplaced⟩ := ofJson?_exact mixedFilter
  obtain ⟨-, hrefused, -, -⟩ := ofJson?_exact (.array [mixedFilter])
  have hmixed := (hreads _).mpr mixedFilter_reads
  refine ⟨haccepted.mp ⟨_, hmixed⟩, hmixed, ?_, id, hrefused id⟩
  rw [← (hplaced _ hmixed).1]
  rfl

end Filter

end TableQuery
