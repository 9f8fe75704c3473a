import TableQuery.Dataset.Table
import TableQuery.Filter.Condition
import TableQuery.Filter.Predicate
import TableQuery.Query.Page

/-!
# Queries

A query is a filter held against a table. Conditions on fields that the table does not have are
dropped, groups that are left with one member give way to it, and groups without members vanish.

* `lower`: the predicate of a filter.
* `unknownFields`: the fields that were dropped, each once, in the order of the filter.
* `Query.compile`: the query of a JSON filter.

A query without groups and without comparisons of text forms is put to the statement builder,
any other is written out as SQL.
-/

namespace TableQuery

/-- A pattern of `$like`: a value without wildcards may stand anywhere in the text. -/
def likePattern (value : String) : String :=
  if value.toList.contains '%' || value.toList.contains '_' then value else "%" ++ value ++ "%"

/-- The comparison of a column that a condition states. At most `maxInList` values of a list are
taken. -/
def compareColumn (maxInList : Nat) (column : Column) (operator : Operator) (value : Json) :
    Except RequestFault Comparison :=
  let scalar (v : Json) : Except RequestFault Comparison := do
    let p ← Param.coerce v column.type column.name
    pure ⟨column.name, column.type, operator, .scalar p, false⟩
  match operator with
  | .like =>
    match value with
    | .null | .array _ | .object _ => .error (.patternExpected column.name)
    | v => .ok ⟨column.name, column.type, .like, .scalar (.text (likePattern v.plainText)),
        column.type.needsTextCast⟩
  | .inList | .notIn =>
    match value with
    | .array items => do
      let values ← (items.take maxInList).mapM (Param.coerce · column.type column.name)
      pure ⟨column.name, column.type, operator, .list values, false⟩
    | _ => .error (.listExpected operator column.name)
  | .eq | .ne => scalar value
  | .gt | .lt | .gte | .lte =>
    match value with
    | .null => .error (.valueExpected operator column.name)
    | v => scalar v

/-- A group with its members: alone, one member stands for the group, and none for nothing. -/
def collapse (kind : Connective) : List Predicate → Option Predicate
  | [] => none
  | [p] => some p
  | ps => some (.group kind ps)

mutual

/-- The predicate of a filter on a table, if anything is left of it. -/
def lower (maxInList : Nat) (table : Table) : Filter → Except RequestFault (Option Predicate)
  | .condition c =>
    match table.column? c.field with
    | none => .ok none
    | some column => do
      let comparison ← compareColumn maxInList column c.operator c.value
      pure (some (.compare comparison))
  | .group kind members => do
    let predicates ← lowerAll maxInList table members
    pure (collapse kind predicates)

/-- The predicates of filters on a table. -/
def lowerAll (maxInList : Nat) (table : Table) : List Filter → Except RequestFault (List Predicate)
  | [] => .ok []
  | f :: rest => do
    let p ← lower maxInList table f
    let more ← lowerAll maxInList table rest
    pure (p.toList ++ more)

end

mutual

/-- The fields of a filter, in its order. -/
def fieldsOf : Filter → List String
  | .condition c => [c.field]
  | .group _ members => fieldsOfAll members

/-- The fields of filters, in their order. -/
def fieldsOfAll : List Filter → List String
  | [] => []
  | f :: rest => fieldsOf f ++ fieldsOfAll rest

end

/-- The elements of a list, each at its first place only. -/
def firstOccurrences (xs : List String) : List String :=
  xs.foldl (fun seen x => if seen.contains x then seen else seen ++ [x]) []

/-- The fields of the filters that the table does not have, each once. -/
def unknownFields (table : Table) (filters : List Filter) : List String :=
  firstOccurrences ((fieldsOfAll filters).filter fun name => (table.column? name).isNone)

/-- How the condition of a statement is made. -/
inductive Plan where
  /-- Comparisons that must all hold, put to the statement builder. -/
  | builder (comparisons : List Comparison)
  /-- SQL text with placeholders; empty text is no condition. -/
  | raw (text : String) (params : List Param)
deriving DecidableEq, Repr

namespace Plan

/-- The condition is written out as SQL. -/
def isRaw : Plan → Bool
  | .raw .. => true
  | .builder _ => false

/-- There is no condition. -/
def isUnfiltered : Plan → Bool
  | .builder comparisons => comparisons.isEmpty
  | .raw text _ => text == ""

end Plan

/-- A compiled read of a table. -/
structure Query where
  datasetId : String
  table : String
  columns : List String
  page : PageRequest
  plan : Plan
  /-- The fields of the filter that the table does not have. -/
  dropped : List String
deriving DecidableEq, Repr

/-- The plan for predicates that come from filters. -/
def planFor (filters : List Filter) (predicates : List Predicate) : Plan :=
  if filters.any Filter.isGroup || Predicate.anyCasts predicates then
    .raw (Predicate.conjunction predicates) (Predicate.paramsOfAll predicates)
  else .builder (predicates.filterMap Predicate.comparison?)

namespace Query

/-- The condition is empty: the query means every row. -/
def isUnfiltered (q : Query) : Bool := q.plan.isUnfiltered

/-- The query of filters that are read already. -/
def ofFilters (maxInList : Nat) (table : Table) (filters : List Filter) (page : PageRequest) :
    Except RequestFault Query := do
  let predicates ← lowerAll maxInList table filters
  pure {
    datasetId := table.datasetId
    table := table.name
    columns := table.outputColumns
    page
    plan := planFor filters predicates
    dropped := unknownFields table filters }

/-- The query of a JSON filter. A list keeps at least one value. -/
def compile (maxInList : Nat) (table : Table) (filter : Json) (page : PageRequest) :
    Except RequestFault Query := do
  let filters ← Filter.ofJson? filter
  ofFilters (max maxInList 1) table filters page

end Query

/-- How many values of a list are taken unless it is said otherwise. -/
def defaultMaxInList : Nat := 1000

end TableQuery
