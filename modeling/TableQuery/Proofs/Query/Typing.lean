import TableQuery.Proofs.Filter.Grammar
import TableQuery.Proofs.Filter.Shape
import TableQuery.Proofs.Json.Words
import TableQuery.Proofs.Numeric.Nearest
import TableQuery.Proofs.Query.Unfiltered

/-!
# Types of comparisons

The comparisons that filters are lowered to are typed: each is of a column of the table, with
operands that suit its operator and values that the column's type can hold.

* `Param.Fits`: a parameter of a column of the type.
* `Filter.hasWords_of_ofText?`: filters that are read from text compare with words.
* `Condition.LowersTo`: what the comparison of a condition is.
* `lowerAll_lowersTo`: the conditions on columns of the table, one by one.
* `planFor_isRaw_iff`, `eq_map_compare`: which predicates a plan is built of.
* `lowerAll_typed`: all of it, for any filters that are not refused.
-/

namespace TableQuery

/-! ## Parameters -/

namespace Param

/-- The parameter is null, or a value that a column of the type holds: a word or a finite double
among numbers, a truth value, or text. -/
def Fits : Param → ColumnType → Prop
  | .null, _ => True
  | .int i, .number => minInt64 ≤ i ∧ i ≤ maxInt64
  | .float x, .number => x.isFinite = true
  | .bool _, .boolean => True
  | .text _, .string | .text _, .date => True
  | _, _ => False

theorem int64?_bounds {n : JsonNumber} {i : ℤ} (h : n.int64? = some i) :
    minInt64 ≤ i ∧ i ≤ maxInt64 := by
  cases n with
  | float x => cases h
  | integer j =>
    unfold JsonNumber.int64? at h
    simp only at h
    split at h
    · rename_i hbounds
      cases h
      exact hbounds
    · cases h

/-- Words beyond the signed ones become doubles that are finite. -/
theorem isFinite_toBinary64 {n : JsonNumber} (h : n.IsWord) : n.toBinary64.isFinite = true := by
  cases n with
  | float x => rfl
  | integer i =>
    obtain ⟨hleast, hmost⟩ := h
    unfold minInt64 at hleast
    unfold maxWord64 at hmost
    exact Binary64.isFinite_ofRatio_word _ (by omega)

theorem fits_ofNumber {n : JsonNumber} (h : n.IsWord) : (ofNumber n).Fits .number := by
  unfold ofNumber
  split
  · rename_i hi
    exact int64?_bounds hi
  · exact isFinite_toBinary64 h

theorem readInteger?_bounds {least most i : ℤ} {cs : List Char}
    (h : readInteger? least most cs = some i) : least ≤ i ∧ i ≤ most := by
  unfold readInteger? at h
  generalize splitSign cs = parts at h
  obtain ⟨negative, digits⟩ := parts
  obtain ⟨n, -, h⟩ := Option.bind_eq_some_iff.mp h
  simp only [Option.ite_none_right_eq_some, Option.some.injEq] at h
  obtain ⟨hbounds, rfl⟩ := h
  exact hbounds

theorem fits_ofNumeral? {s : String} {p : Param} (h : ofNumeral? s = some p) : p.Fits .number := by
  unfold ofNumeral? at h
  simp only at h
  split at h
  · rename_i hi
    cases h
    exact readInteger?_bounds hi
  · split at h
    · split at h
      · rename_i hfinite
        cases h
        exact hfinite
      · cases h
    · cases h

theorem fits_ofScalar? {type : ColumnType} {value : Json} {p : Param} (hwords : value.HasWords)
    (h : ofScalar? type value = some p) : p.Fits type := by
  unfold ofScalar? at h
  split at h
  · cases h
    cases hwords with
    | number hn => exact fits_ofNumber hn
  · exact fits_ofNumeral? h
  · cases h
  · cases h
    trivial
  · unfold ofTruthNumber? at h
    split at h <;> cases h <;> trivial
  · unfold ofTruthText? at h
    split at h <;> cases h <;> trivial
  · cases h
  · cases h
    trivial
  · cases h
    trivial

/-- A value is refused or becomes a parameter of the column's type. -/
theorem fits_of_coerce {value : Json} {type : ColumnType} {field : String} {p : Param}
    (hwords : value.HasWords) (h : coerce value type field = .ok p) : p.Fits type := by
  unfold coerce at h
  split at h
  · cases h
    exact trivial
  · cases h
  · cases h
  · split at h
    · rename_i hp
      cases h
      exact fits_ofScalar? hwords hp
    · cases h

/-- The items of an array become parameters of the column's type, as far as they are taken. -/
theorem fits_of_coerced {n : ℕ} {items : List Json} {type : ColumnType} {field : String}
    {ps : List Param} (hwords : (Json.array items).HasWords)
    (h : List.Forall₂ (fun item p => coerce item type field = .ok p) (items.take n) ps) :
    ∀ p ∈ ps, p.Fits type := by
  cases hwords with
  | array hitems =>
    have hall := (List.forall₂_and_left _ _).mpr ⟨fun v hv => hitems v (List.mem_of_mem_take hv), h⟩
    have hfits : List.Forall₂ (fun p item => p.Fits type ∧ coerce item type field = .ok p) ps
        (items.take n) := hall.flip.imp fun _ _ hp => ⟨fits_of_coerce hp.1 hp.2, hp.2⟩
    exact ((List.forall₂_and_left _ _).mp hfits).1

end Param

/-! ## Values of conditions -/

namespace Filter

theorem conditionsOfAll_append (fs gs : List Filter) :
    conditionsOfAll (fs ++ gs) = conditionsOfAll fs ++ conditionsOfAll gs := by
  induction fs with
  | nil => rfl
  | cons f rest ih =>
    rw [List.cons_append, conditionsOfAll, conditionsOfAll, ih, List.append_assoc]

theorem conditionsOfAll_map {α : Type} (f : α → Condition) (xs : List α) :
    conditionsOfAll (xs.map fun x => .condition (f x)) = xs.map f := by
  induction xs with
  | nil => rfl
  | cons x rest ih => rw [List.map_cons, conditionsOfAll, conditions, ih]; rfl

mutual

theorem ReadsEntry.hasWords : {key : String} → {value : Json} → {here : List Filter} →
    ReadsEntry key value here → value.HasWords → ∀ c ∈ conditionsOfAll here, c.value.HasWords
  | _, _, _, .scalar _ _, hwords => by
    simpa [conditionsOfAll, conditions] using hwords
  | _, _, _, .operators _ _, .object hfields => by
    rw [conditionsOfAll_map]
    intro c hc
    obtain ⟨o, ho, rfl⟩ := List.mem_map.mp hc
    exact hfields (o.1.key, o.2) (List.mem_map_of_mem ho)
  | _, _, _, .group h, .array hitems => by
    rw [conditionsOfAll, conditions, conditionsOfAll, List.append_nil]
    exact h.hasWords hitems

theorem Reads.hasWords : {es : List (String × Json)} → {fs : List Filter} → Reads es fs →
    (∀ e ∈ es, e.2.HasWords) → ∀ c ∈ conditionsOfAll fs, c.value.HasWords
  | _, _, .nil, _ => by simp [conditionsOfAll]
  | _, _, .cons h hrest, hwords => by
    rw [List.forall_mem_cons] at hwords
    rw [conditionsOfAll_append, List.forall_mem_append]
    exact ⟨h.hasWords hwords.1, hrest.hasWords hwords.2⟩

theorem ReadsMembers.hasWords : {items : List Json} → {members : List Filter} →
    ReadsMembers items members → (∀ v ∈ items, v.HasWords) →
      ∀ c ∈ conditionsOfAll members, c.value.HasWords
  | _, _, .nil, _ => by simp [conditionsOfAll]
  | _, _, .absent hrest, hwords => by
    rw [List.forall_mem_cons] at hwords
    exact hrest.hasWords hwords.2
  | _, _, .alone h hrest, hwords => by
    rw [List.forall_mem_cons] at hwords
    obtain ⟨hobject, hmore⟩ := hwords
    cases hobject with
    | object hfields =>
      have hone := h.hasWords hfields
      rw [conditionsOfAll, conditionsOfAll, List.append_nil] at hone
      rw [conditionsOfAll, List.forall_mem_append]
      exact ⟨hone, hrest.hasWords hmore⟩
  | _, _, .several h _ hrest, hwords => by
    rw [List.forall_mem_cons] at hwords
    obtain ⟨hobject, hmore⟩ := hwords
    cases hobject with
    | object hfields =>
      rw [conditionsOfAll, conditions, List.forall_mem_append]
      exact ⟨h.hasWords hfields, hrest.hasWords hmore⟩

end

/-- The conditions of a filter compare with words if the filter has no other integers. -/
theorem hasWords_of_ofJson? {filter : Json} {fs : List Filter} (h : ofJson? filter = .ok fs)
    (hwords : filter.HasWords) : ∀ c ∈ conditionsOfAll fs, c.value.HasWords := by
  have hreads := ofJson?_eq_ok_iff.mp h
  cases hwords with
  | null =>
    cases hreads
    simp [conditionsOfAll]
  | object hfields => exact Reads.hasWords hreads hfields
  | _ => cases hreads

/-- The conditions of a filter that is read from text compare with words. -/
theorem hasWords_of_ofText? {text : String} {fs : List Filter} (h : ofText? text = .ok fs) :
    ∀ c ∈ conditionsOfAll fs, c.value.HasWords := by
  unfold ofText? at h
  split at h
  · cases h
    simp [conditionsOfAll]
  · split at h
    · rename_i hvalue
      exact hasWords_of_ofJson? h (Json.hasWords_of_parse? hvalue)
    · cases h

end Filter

/-! ## Comparisons -/

/-- The column that a name stands for is the key column or a column of the table, of that name. -/
theorem Table.column?_cases {table : Table} {name : String} {column : Column}
    (h : table.column? name = some column) :
    column.name = name ∧ (column = keyColumn ∨ column ∈ table.columns) := by
  unfold column? at h
  split at h
  · rename_i hkey
    cases h
    exact ⟨hkey.symm, .inl rfl⟩
  · have hfound := List.find?_some h
    exact ⟨eq_of_beq hfound, .inr (List.mem_of_find?_eq_some h)⟩

/-- The parameters that a column is compared with. -/
def Operand.values : Operand → List Param
  | .scalar p => [p]
  | .list ps => ps

/-- The comparison is the one that the condition states of a column of the table, lists being cut to
their first `n` items. -/
structure Condition.LowersTo (n : ℕ) (table : Table) (c : Condition) (cmp : Comparison) : Prop where
  /-- The column is the one that the field of the condition stands for. -/
  column : ∃ column, (column = keyColumn ∨ column ∈ table.columns) ∧
    table.column? c.field = some column ∧ cmp.column = column.name ∧ cmp.type = column.type
  operator : cmp.operator = c.operator
  list_iff : (∃ values, cmp.operand = .list values) ↔
    cmp.operator = .inList ∨ cmp.operator = .notIn
  /-- A list has the first items in their order. -/
  items : ∀ values, cmp.operand = .list values → ∃ items, c.value = .array items ∧
    values.length = min items.length n ∧
    List.Forall₂ (fun item p => Param.coerce item cmp.type cmp.column = .ok p)
      (items.take n) values
  /-- A pattern is the one operand that need not be of the column's type. -/
  fits : cmp.operator ≠ .like → ∀ p ∈ cmp.operand.values, p.Fits cmp.type
  pattern : cmp.operator = .like → ∃ text, cmp.operand = .scalar (.text text)
  /-- Null has no place in an order. -/
  ordered : cmp.operator ∈ [Operator.gt, .lt, .gte, .lte] → cmp.operand ≠ .scalar .null
  casts_iff : cmp.castToText = true ↔ cmp.operator = .like ∧ cmp.type ≠ .string

theorem ColumnType.needsTextCast_iff {type : ColumnType} :
    type.needsTextCast = true ↔ type ≠ .string := by
  unfold needsTextCast
  exact bne_iff_ne

/-- The comparison of a column is as the condition states it. -/
theorem compareColumn_lowersTo {n : ℕ} {table : Table} {c : Condition} {column : Column}
    {cmp : Comparison} (hcolumn : table.column? c.field = some column)
    (hwords : c.value.HasWords) (h : compareColumn n column c.operator c.value = .ok cmp) :
    c.LowersTo n table cmp := by
  obtain ⟨field, operator, value⟩ := c
  obtain ⟨-, hmem⟩ := Table.column?_cases hcolumn
  rcases compareColumn_cases h with
    ⟨hlike, -, -, rfl⟩ | ⟨hlist, items, ps, hitems, hps, rfl⟩ | ⟨hsign, p, hp, hnull, rfl⟩
  · cases hlike
    exact {
      column := ⟨column, hmem, hcolumn, rfl, rfl⟩
      operator := rfl
      list_iff := by simp
      items := fun values hvalues => by cases hvalues
      fits := fun hne => absurd rfl hne
      pattern := fun _ => ⟨_, rfl⟩
      ordered := fun _ hnull => by cases hnull
      casts_iff := by simp [ColumnType.needsTextCast_iff] }
  · cases hitems
    have hcoerced := forall₂_of_mapM hps
    have hnotlike : operator ≠ .like := by
      rintro rfl
      cases hlist
    exact {
      column := ⟨column, hmem, hcolumn, rfl, rfl⟩
      operator := rfl
      list_iff := by cases operator <;> simp_all [Operator.takesList]
      items := fun values hvalues => by
        cases hvalues
        refine ⟨items, rfl, ?_, hcoerced⟩
        rw [mapM_length hps, List.length_take, min_comm]
      fits := fun _ => Param.fits_of_coerced hwords hcoerced
      pattern := fun hlike => absurd hlike hnotlike
      ordered := fun _ hnull => by cases hnull
      casts_iff := by simp [hnotlike] }
  · have hnotlike : operator ≠ .like := by
      rintro rfl
      cases hsign
    exact {
      column := ⟨column, hmem, hcolumn, rfl, rfl⟩
      operator := rfl
      list_iff := by cases operator <;> simp_all [Operator.comparison?]
      items := fun values hvalues => by cases hvalues
      fits := fun _ q hq => by
        cases List.mem_singleton.mp hq
        exact Param.fits_of_coerce hwords hp
      pattern := fun hlike => absurd hlike hnotlike
      ordered := fun hop heq => by
        cases heq
        rcases hnull with rfl | rfl | hnull
        · simp at hop
        · simp at hop
        · cases hnull
      casts_iff := by simp [hnotlike] }

/-- The conditions on columns that the table has. -/
def Table.known (table : Table) (cs : List Condition) : List Condition :=
  cs.filter fun c => (table.column? c.field).isSome

theorem Table.known_append (table : Table) (cs ds : List Condition) :
    table.known (cs ++ ds) = table.known cs ++ table.known ds :=
  List.filter_append _ _

mutual

theorem lower_lowersTo {n : ℕ} {table : Table} : (f : Filter) → {p : Option Predicate} →
    lower n table f = .ok p → (∀ c ∈ f.conditions, c.value.HasWords) →
      List.Forall₂ (Condition.LowersTo n table) (table.known f.conditions)
        (Predicate.comparisonsOfAll p.toList)
  | .condition c, p, h, hwords => by
    rw [Filter.conditions, List.forall_mem_singleton] at hwords
    unfold lower at h
    cases hcolumn : table.column? c.field with
    | none =>
      rw [hcolumn] at h
      cases h
      simp [Filter.conditions, Table.known, hcolumn, Predicate.comparisonsOfAll]
    | some column =>
      rw [hcolumn] at h
      obtain ⟨cmp, hcmp, h⟩ := bind_eq_ok.mp h
      cases h
      have htyped := compareColumn_lowersTo hcolumn hwords hcmp
      simpa [Filter.conditions, Table.known, hcolumn, Predicate.comparisonsOfAll,
        Predicate.comparisons] using htyped
  | .group kind members, p, h, hwords => by
    unfold lower at h
    obtain ⟨ps, hps, h⟩ := bind_eq_ok.mp h
    cases h
    rw [Predicate.comparisonsOfAll_collapse]
    exact lowerAll_lowersTo members hps hwords

/-- Each condition on a column of the table has its comparison, in the order of the conditions, and
there are no others. -/
theorem lowerAll_lowersTo {n : ℕ} {table : Table} : (fs : List Filter) → {ps : List Predicate} →
    lowerAll n table fs = .ok ps → (∀ c ∈ Filter.conditionsOfAll fs, c.value.HasWords) →
      List.Forall₂ (Condition.LowersTo n table) (table.known (Filter.conditionsOfAll fs))
        (Predicate.comparisonsOfAll ps)
  | [], ps, h, _ => by
    cases h
    exact .nil
  | f :: rest, ps, h, hwords => by
    obtain ⟨p, hp, h⟩ := bind_eq_ok.mp h
    obtain ⟨more, hmore, h⟩ := bind_eq_ok.mp h
    cases h
    rw [Filter.conditionsOfAll, List.forall_mem_append] at hwords
    rw [Filter.conditionsOfAll, Table.known_append, Predicate.comparisonsOfAll_append]
    exact List.rel_append (lower_lowersTo f hp hwords.1) (lowerAll_lowersTo rest hmore hwords.2)

end

/-! ## Plans -/

namespace Predicate

mutual

theorem casts_iff : (p : Predicate) →
    (p.casts = true ↔ ∃ c ∈ p.comparisons, c.castToText = true)
  | .compare c => by
    rw [casts, comparisons]
    simp
  | .group _ members => by
    rw [casts, comparisons]
    exact anyCasts_iff members

/-- A comparison at any depth makes the predicates compare text. -/
theorem anyCasts_iff : (ps : List Predicate) →
    (anyCasts ps = true ↔ ∃ c ∈ comparisonsOfAll ps, c.castToText = true)
  | [] => by simp [anyCasts, comparisonsOfAll]
  | p :: rest => by
    rw [anyCasts, comparisonsOfAll, Bool.or_eq_true, casts_iff p, anyCasts_iff rest]
    simp only [List.mem_append, or_and_right, exists_or]

end

end Predicate

/-- A plan is written out if the filters have a group among them or a comparison is with a column's
text. -/
theorem planFor_isRaw_iff {fs : List Filter} {ps : List Predicate} :
    (planFor fs ps).isRaw = true ↔ fs.any Filter.isGroup = true ∨
      ∃ c ∈ Predicate.comparisonsOfAll ps, c.castToText = true := by
  rw [← Predicate.anyCasts_iff, ← Bool.or_eq_true]
  unfold planFor
  split
  · rename_i hraw
    exact ⟨fun _ => hraw, fun _ => rfl⟩
  · rename_i hbuilt
    exact ⟨fun h => (nomatch h), fun h => absurd h hbuilt⟩

/-- A plan that is built has all the predicates in it, which are comparisons of values. -/
theorem eq_map_compare {n : ℕ} {table : Table} {fs : List Filter} {ps : List Predicate}
    (hps : lowerAll n table fs = .ok ps) {cs : List Comparison}
    (h : planFor fs ps = .builder cs) :
    ps = cs.map .compare ∧ ∀ c ∈ cs, c.castToText = false := by
  have hraw : ¬ (planFor fs ps).isRaw = true := by
    rw [h]
    exact nofun
  rw [planFor_isRaw_iff, not_or, Bool.not_eq_true] at hraw
  obtain ⟨hgroup, hcasts⟩ := hraw
  have hall := lowerAll_comparisons hps hgroup
  have hcs : ps.filterMap Predicate.comparison? = cs := by
    unfold planFor at h
    split at h
    · cases h
    · cases h
      rfl
  rw [hcs] at hall
  refine ⟨hall, fun c hc => ?_⟩
  rw [hall, Predicate.comparisonsOfAll_map] at hcasts
  simpa using fun htrue => hcasts ⟨c, hc, htrue⟩

/-- Filters that are not refused are lowered to typed comparisons, in groups of several members, and
to a plan that has all of them. The integers of the filters are words, as they are in filters that
are read from text. -/
theorem lowerAll_typed {n : ℕ} {table : Table} {filters : List Filter} {ps : List Predicate}
    (hps : lowerAll (max n 1) table filters = .ok ps)
    (hwords : ∀ c ∈ Filter.conditionsOfAll filters, c.value.HasWords) :
    List.Forall₂ (Condition.LowersTo (max n 1) table)
        (table.known (Filter.conditionsOfAll filters)) (Predicate.comparisonsOfAll ps) ∧
      (∀ p ∈ ps, p.IsProper) ∧
      ∀ page, ∃ q, Query.ofFilters (max n 1) table filters page = .ok q ∧
        (q.plan.isRaw = true ↔ filters.any Filter.isGroup = true ∨
          ∃ c ∈ Predicate.comparisonsOfAll ps, c.castToText = true) ∧
        (∀ cs, q.plan = .builder cs → ps = cs.map .compare ∧ ∀ c ∈ cs, c.castToText = false) ∧
        ∀ filter, Filter.ofJson? filter = .ok filters →
          Query.compile n table filter page = .ok q := by
  refine ⟨lowerAll_lowersTo filters hps hwords, lowerAll_isProper filters hps, fun page => ?_⟩
  refine ⟨_, ofFilters_eq_ok.mpr ⟨ps, hps, rfl⟩, planFor_isRaw_iff,
    fun cs hcs => eq_map_compare hps hcs, fun filter hfilter => ?_⟩
  exact bind_eq_ok.mpr ⟨filters, hfilter, ofFilters_eq_ok.mpr ⟨ps, hps, rfl⟩⟩

/-- A table with a column of each type. -/
def bookingTable : Table :=
  ⟨"00000000000000000000000000000000", "data_00000000000000000000000000000000",
    [⟨"guest", .string, true⟩, ⟨"nights", .number, true⟩, ⟨"paid", .boolean, true⟩,
      ⟨"arrival", .date, true⟩], 0⟩

/-- A list that is cut, a number and a truth value as text, and a group that is left with one
member. -/
def bookingText : String :=
  "\x7b\"nights\":\x7b\"$in\":[\"1e1\",18446744073709551615,3],\"$gt\":\" 7\"\x7d," ++
    "\"paid\":\"TRUE \"," ++
    "\"$or\":[\x7b\"arrival\":\x7b\"$like\":2024\x7d\x7d,\x7b\"ghost\":null\x7d]\x7d"

/-- What the conditions are lowered to. -/
def bookingComparisons : List Comparison := [
  ⟨"nights", .number, .inList, .list [.float (.ofNat 10), .float (.ofNat (2 ^ 64))], false⟩,
  ⟨"nights", .number, .gt, .scalar (.int 7), false⟩,
  ⟨"paid", .boolean, .eq, .scalar (.bool true), false⟩,
  ⟨"arrival", .date, .like, .scalar (.text "%2024%"), true⟩]

theorem lowerAll_typed_booking :
    ∃ filters ps q, Filter.ofText? bookingText = .ok filters ∧
      lowerAll (max 2 1) bookingTable filters = .ok ps ∧
      (∀ c ∈ Filter.conditionsOfAll filters, c.value.HasWords) ∧
      List.Forall₂ (Condition.LowersTo 2 bookingTable)
        (bookingTable.known (Filter.conditionsOfAll filters)) bookingComparisons ∧
      Query.ofFilters (max 2 1) bookingTable filters .first = .ok q ∧ q.plan.isRaw = true := by
  have hlowered : (Filter.ofText? bookingText >>= lowerAll (max 2 1) bookingTable).toOption.map
      Predicate.comparisonsOfAll = some bookingComparisons := by decide +kernel
  obtain ⟨ps, hsome, hcomparisons⟩ := Option.map_eq_some_iff.mp hlowered
  cases hboth : Filter.ofText? bookingText >>= lowerAll (max 2 1) bookingTable with
  | error fault =>
    rw [hboth] at hsome
    cases hsome
  | ok ps' =>
    rw [hboth] at hsome
    cases hsome
    obtain ⟨filters, hfilters, hps⟩ := bind_eq_ok.mp hboth
    have hwords := Filter.hasWords_of_ofText? hfilters
    obtain ⟨htyped, -, hplan⟩ := lowerAll_typed hps hwords
    obtain ⟨q, hq, hraw, -, -⟩ := hplan .first
    rw [hcomparisons] at htyped hraw
    exact ⟨filters, ps, q, hfilters, hps, hwords, htyped, hq, hraw.mpr (.inr (by decide))⟩

end TableQuery
