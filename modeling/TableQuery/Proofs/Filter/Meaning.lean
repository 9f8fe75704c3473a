import TableQuery.Cell
import TableQuery.Proofs.Sql.Coercion
import TableQuery.Proofs.Sql.Condition
import TableQuery.Query.Compile

/-!
# What filters mean

A filter holds for a row, does not hold, or it is unknown whether it does. This is said twice: of
the conditions of a filter with the columns of a table, and of the comparisons of a predicate.

* `Filter.truth?`: conditions on fields that the table does not have count for nothing, and so do
  groups of nothing else. Any other condition is a test of the field's own column.
* `Predicate.truth`: the same for predicates, where nothing is left out.
* `lowerAll_truths?`: what filters mean is what the predicates mean that they are lowered to,
  provided that no list is cut.
* `lowerAll_isProper`: operators have the operands that suit them, and groups several members.
-/

namespace TableQuery

namespace SqlDialect

variable (D : SqlDialect)

/-- The text of a column's value. A whole number below the limit is written as an integer. -/
def textForm (type : ColumnType) (value : Option D.Value) : Option D.Value :=
  let isWhole := D.compare D.equal value (value.bind (D.call .trunc))
  let isSmall := D.compare D.less (value.bind (D.call .abs)) (D.constant (.float wholeLimit))
  match type with
  | .number =>
    if isWhole.and isSmall = .yes then (value.bind (D.call .toBigint)).bind (D.call .toVarchar)
    else value.bind (D.call .toVarchar)
  | _ => value.bind (D.call .toVarchar)

/-- Equality with a parameter; a value is equal to null if it is missing. -/
def isEqual (value : Option D.Value) (p : Param) : Truth :=
  if p.isNull then .ofBool value.isNone else D.compare D.equal value (D.constant p)

/-- Inequality with a parameter; a value differs from null if it is there. -/
def isUnequal (value : Option D.Value) (p : Param) : Truth :=
  if p.isNull then .ofBool value.isSome
  else D.compare (fun x y => !D.equal x y) value (D.constant p)

/-- Whether a value passes the test of an operator with one operand. -/
def passes (operator : Operator) (value : Option D.Value) (p : Param) : Truth :=
  match operator with
  | .eq => D.isEqual value p
  | .ne => D.isUnequal value p
  | .like => D.compare D.like value (D.constant p)
  | .gt => D.compare (fun x y => D.less y x) value (D.constant p)
  | .lt => D.compare D.less value (D.constant p)
  | .gte => D.compare (fun x y => !D.less x y) value (D.constant p)
  | .lte => D.compare (fun x y => !D.less y x) value (D.constant p)
  | .inList => D.isAmong value [p]
  | .notIn => (D.isAmong value [p]).not

end SqlDialect

/-- Members that are joined hold together. -/
def Connective.join : Connective → List Truth → Truth
  | .and => .all
  | .or => .any

/-! ## Filters -/

/-- The sign of an operator that is written with one. -/
def Operator.comparison? : Operator → Option SqlComparison
  | .eq => some .eq
  | .ne => some .ne
  | .gt => some .gt
  | .lt => some .lt
  | .gte => some .gte
  | .lte => some .lte
  | .like | .inList | .notIn => none

/-- Whether a condition holds of the value of its column. `$like` looks for the pattern in the
text of a column that does not hold text. -/
def Condition.truth? (D : SqlDialect) (column : Column) (value : Option D.Value) (c : Condition) :
    Except RequestFault Truth :=
  match c.operator with
  | .inList => do
    let operands ← (listOf c.value).mapM (Param.coerce · column.type column.name)
    pure (D.isAmong value operands)
  | .notIn => do
    let operands ← (listOf c.value).mapM (Param.coerce · column.type column.name)
    pure (D.isAmong value operands).not
  | .like =>
    let subject := if column.type.needsTextCast then D.textForm column.type value else value
    pure (D.passes .like subject (.text (likePattern c.value.plainText)))
  | operator => do
    let operand ← Param.coerce c.value column.type column.name
    pure (D.passes operator value operand)
where
  /-- The items of an array. -/
  listOf : Json → List Json
    | .array items => items
    | _ => []

namespace Filter

mutual

/-- Whether a filter holds for a row, if anything of it is known to the table. -/
def truth? (D : SqlDialect) (table : Table) (row : D.Row) :
    Filter → Except RequestFault (Option Truth)
  | .condition c =>
    match table.column? c.field with
    | none => .ok none
    | some column => do
      let t ← c.truth? D column (row column.name)
      pure (some t)
  | .group kind members => do
    let ts ← truths? D table row members
    pure (if ts.isEmpty then none else some (kind.join ts))

/-- Whether the filters hold for a row, those that are not known to the table left out. -/
def truths? (D : SqlDialect) (table : Table) (row : D.Row) :
    List Filter → Except RequestFault (List Truth)
  | [] => .ok []
  | f :: rest => do
    let t ← truth? D table row f
    let more ← truths? D table row rest
    pure (t.toList ++ more)

end

/-- Whether all the filters hold for a row. -/
def meaning? (D : SqlDialect) (table : Table) (row : D.Row) (filters : List Filter) :
    Except RequestFault Truth := do
  let ts ← truths? D table row filters
  pure (.all ts)

mutual

/-- The conditions of a filter, in its order. -/
def conditions : Filter → List Condition
  | .condition c => [c]
  | .group _ members => conditionsOfAll members

/-- The conditions of filters, in their order. -/
def conditionsOfAll : List Filter → List Condition
  | [] => []
  | f :: rest => conditions f ++ conditionsOfAll rest

end

/-- No list of the conditions is longer than `n`. -/
def ListsWithin (n : Nat) (cs : List Condition) : Prop :=
  ∀ c ∈ cs, c.operator.takesList → (Condition.truth?.listOf c.value).length ≤ n

end Filter

/-! ## Predicates -/

namespace Comparison

/-- What is compared, given the value of the column. -/
def subjectValue (D : SqlDialect) (c : Comparison) (value : Option D.Value) : Option D.Value :=
  if c.castToText then D.textForm c.type value else value

/-- Whether the comparison holds for a row. -/
def truth (D : SqlDialect) (row : D.Row) (c : Comparison) : Truth :=
  let subject := c.subjectValue D (row c.column)
  match c.operand with
  | .scalar p => D.passes c.operator subject p
  | .list ps => if c.operator = .notIn then (D.isAmong subject ps).not else D.isAmong subject ps

/-- The operand suits the operator: a list for the operators of lists, text for `$like`, and no
null for the operators of order. Only `$like` looks at a column's text. -/
def IsProper (c : Comparison) : Prop :=
  match c.operator, c.operand with
  | .inList, .list _ | .notIn, .list _ => c.castToText = false
  | .like, .scalar (.text _) => True
  | .eq, .scalar _ | .ne, .scalar _ => c.castToText = false
  | .gt, .scalar p | .lt, .scalar p | .gte, .scalar p | .lte, .scalar p =>
    c.castToText = false ∧ p.isNull = false
  | _, _ => False

end Comparison

namespace Predicate

mutual

/-- Whether the predicate holds for a row. -/
def truth (D : SqlDialect) (row : D.Row) : Predicate → Truth
  | .compare c => c.truth D row
  | .group kind members => kind.join (truths D row members)

/-- Whether the predicates hold for a row. -/
def truths (D : SqlDialect) (row : D.Row) : List Predicate → List Truth
  | [] => []
  | p :: rest => truth D row p :: truths D row rest

end

theorem truths_eq_map (D : SqlDialect) (row : D.Row) (ps : List Predicate) :
    truths D row ps = ps.map (truth D row) := by
  induction ps with
  | nil => rfl
  | cons p rest ih => simp [truths, ih]

/-- All comparisons are proper, and every group has several members. -/
inductive IsProper : Predicate → Prop where
  | compare {c : Comparison} (h : c.IsProper) : IsProper (.compare c)
  | group {kind : Connective} {members : List Predicate} (several : 2 ≤ members.length)
      (h : ∀ p ∈ members, IsProper p) : IsProper (.group kind members)

end Predicate

/-! ## Lowering -/

/-- A comparison looks for a pattern, it is with a list that is cut to its first items, or it is
with one value, which is not null if it is put in order. -/
theorem compareColumn_cases {n : Nat} {column : Column} {operator : Operator} {value : Json}
    {c : Comparison} (h : compareColumn n column operator value = .ok c) :
    (operator = .like ∧ value.listLength? = none ∧ value.isNull = false ∧
      c = ⟨column.name, column.type, .like, .scalar (.text (likePattern value.plainText)),
        column.type.needsTextCast⟩) ∨
    (operator.takesList ∧ ∃ items ps, value = .array items ∧
      (items.take n).mapM (Param.coerce · column.type column.name) = .ok ps ∧
      c = ⟨column.name, column.type, operator, .list ps, false⟩) ∨
    (operator.comparison?.isSome ∧ ∃ p, Param.coerce value column.type column.name = .ok p ∧
      (operator = .eq ∨ operator = .ne ∨ p.isNull = false) ∧
      c = ⟨column.name, column.type, operator, .scalar p, false⟩) := by
  unfold compareColumn at h
  cases operator with
  | like =>
    left
    cases value <;> cases h <;> exact ⟨rfl, rfl, rfl, rfl⟩
  | inList | notIn =>
    right; left
    cases value with
    | array items =>
      obtain ⟨ps, hps, h⟩ := bind_eq_ok.mp h
      cases h
      exact ⟨rfl, items, ps, rfl, hps, rfl⟩
    | _ => cases h
  | eq | ne =>
    right; right
    obtain ⟨p, hp, h⟩ := bind_eq_ok.mp h
    cases h
    exact ⟨rfl, p, hp, by simp, rfl⟩
  | gt | lt | gte | lte =>
    right; right
    cases value with
    | null => cases h
    | _ =>
      obtain ⟨p, hp, h⟩ := bind_eq_ok.mp h
      cases h
      exact ⟨rfl, p, hp, .inr (.inr (Param.isNull_of_coerce hp)), rfl⟩

/-- The operand of a comparison suits it. -/
theorem compareColumn_isProper {n : Nat} {column : Column} {operator : Operator} {value : Json}
    {c : Comparison} (h : compareColumn n column operator value = .ok c) : c.IsProper := by
  rcases compareColumn_cases h with
    ⟨rfl, -, -, rfl⟩ | ⟨hlist, items, ps, -, -, rfl⟩ | ⟨hsign, p, -, hnull, rfl⟩
  · exact trivial
  · cases operator <;> first | exact rfl | contradiction
  · cases operator <;> first | exact rfl | contradiction | exact ⟨rfl, by simpa using hnull⟩

/-- A condition means what the comparison means that it states, if its list is not cut. -/
theorem compareColumn_truth? {n : Nat} {column : Column} {c : Condition} {cmp : Comparison}
    (D : SqlDialect) (row : D.Row) (h : compareColumn n column c.operator c.value = .ok cmp)
    (hn : c.operator.takesList → (Condition.truth?.listOf c.value).length ≤ n) :
    c.truth? D column (row column.name) = .ok (cmp.truth D row) := by
  obtain ⟨field, operator, value⟩ := c
  rcases compareColumn_cases h with
    ⟨hop, -, -, rfl⟩ | ⟨hlist, items, ps, hvalue, hps, rfl⟩ | ⟨hsign, p, hp, -, rfl⟩
  · cases hop
    rfl
  · cases hvalue
    have hlength : items.length ≤ n := hn hlist
    rw [List.take_of_length_le hlength] at hps
    cases operator <;> first | contradiction | exact bind_eq_ok.mpr ⟨ps, hps, rfl⟩
  · cases operator <;> first | contradiction | exact bind_eq_ok.mpr ⟨p, hp, rfl⟩

@[simp] theorem Connective.join_singleton (kind : Connective) (t : Truth) : kind.join [t] = t := by
  cases kind <;> simp [Connective.join]

/-- A group means what is left of it means: nothing, its only member, or the group. -/
theorem collapse_truth (D : SqlDialect) (row : D.Row) (kind : Connective) (ps : List Predicate) :
    (collapse kind ps).map (Predicate.truth D row) =
      if (ps.map (Predicate.truth D row)).isEmpty then none
      else some (kind.join (ps.map (Predicate.truth D row))) := by
  match ps with
  | [] => rfl
  | [p] => simp [collapse]
  | p :: q :: rest =>
    simp [collapse, Predicate.truth, Predicate.truths_eq_map]

mutual

/-- What a filter means is what the predicate means that it is lowered to. -/
theorem lower_truth? {n : Nat} {table : Table} (D : SqlDialect) (row : D.Row) :
    (f : Filter) → {p : Option Predicate} → lower n table f = .ok p →
      Filter.ListsWithin n f.conditions →
      f.truth? D table row = .ok (p.map (Predicate.truth D row))
  | .condition c, p, h, hn => by
    unfold lower at h
    unfold Filter.truth?
    cases hcolumn : table.column? c.field with
    | none =>
      simp only [hcolumn] at h ⊢
      cases h
      rfl
    | some column =>
      simp only [hcolumn] at h ⊢
      obtain ⟨cmp, hcmp, h⟩ := bind_eq_ok.mp h
      cases h
      have ht := compareColumn_truth? D row hcmp (hn c (by simp [Filter.conditions]))
      exact bind_eq_ok.mpr ⟨_, ht, rfl⟩
  | .group kind members, p, h, hn => by
    unfold lower at h
    obtain ⟨ps, hps, h⟩ := bind_eq_ok.mp h
    cases h
    have ht := lowerAll_truths? D row members hps hn
    rw [collapse_truth]
    exact bind_eq_ok.mpr ⟨_, ht, rfl⟩

/-- What filters mean is what the predicates mean that they are lowered to. -/
theorem lowerAll_truths? {n : Nat} {table : Table} (D : SqlDialect) (row : D.Row) :
    (fs : List Filter) → {ps : List Predicate} → lowerAll n table fs = .ok ps →
      Filter.ListsWithin n (Filter.conditionsOfAll fs) →
      Filter.truths? D table row fs = .ok (ps.map (Predicate.truth D row))
  | [], ps, h, _ => by cases h; rfl
  | f :: rest, ps, h, hn => by
    obtain ⟨p, hp, h⟩ := bind_eq_ok.mp h
    obtain ⟨more, hmore, h⟩ := bind_eq_ok.mp h
    cases h
    have hf := lower_truth? D row f hp fun c hc => hn c (by simp [Filter.conditionsOfAll, hc])
    have hrest := lowerAll_truths? D row rest hmore fun c hc =>
      hn c (by simp [Filter.conditionsOfAll, hc])
    refine bind_eq_ok.mpr ⟨_, hf, bind_eq_ok.mpr ⟨_, hrest, ?_⟩⟩
    cases p <;> simp [pure_eq_ok]

end

theorem collapse_isProper {kind : Connective} {ps : List Predicate} {p : Predicate}
    (h : collapse kind ps = some p) (hps : ∀ q ∈ ps, q.IsProper) : p.IsProper := by
  match ps with
  | [] => cases h
  | [q] => cases h; exact hps p (by simp)
  | q :: r :: rest => cases h; exact .group (by simp) hps

mutual

theorem lower_isProper {n : Nat} {table : Table} : (f : Filter) → {p : Predicate} →
    lower n table f = .ok (some p) → p.IsProper
  | .condition c, p, h => by
    unfold lower at h
    split at h
    · cases h
    · obtain ⟨cmp, hcmp, h⟩ := bind_eq_ok.mp h
      cases h
      exact .compare (compareColumn_isProper hcmp)
  | .group kind members, p, h => by
    unfold lower at h
    obtain ⟨ps, hps, h⟩ := bind_eq_ok.mp h
    exact collapse_isProper (pure_eq_ok.mp h) (lowerAll_isProper members hps)

/-- Whatever filters are lowered to is proper. -/
theorem lowerAll_isProper {n : Nat} {table : Table} : (fs : List Filter) →
    {ps : List Predicate} → lowerAll n table fs = .ok ps → ∀ p ∈ ps, p.IsProper
  | [], ps, h => by cases h; simp
  | f :: rest, ps, h => by
    obtain ⟨p, hp, h⟩ := bind_eq_ok.mp h
    obtain ⟨more, hmore, h⟩ := bind_eq_ok.mp h
    cases h
    intro q hq
    rcases List.mem_append.mp hq with hq | hq
    · exact lower_isProper f (hp.trans (congrArg _ (Option.mem_toList.mp hq)))
    · exact lowerAll_isProper rest hmore q hq

end

end TableQuery
