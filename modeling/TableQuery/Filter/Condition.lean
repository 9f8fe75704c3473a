import TableQuery.Fault
import TableQuery.Json.Reader

/-!
# Filters

A filter is an object whose entries must all hold. An entry is a field with a value to equal,
a field with an object of operators and operands, or a group of filters joined by `$and` or
`$or`.

* `Filter.ofJson?`: the conditions and groups of a filter.
-/

namespace TableQuery

/-- A comparison of a field, as the filter states it. -/
structure Condition where
  field : String
  operator : Operator
  value : Json

/-- A filter as a tree, not yet held against a table. -/
inductive Filter where
  | condition (c : Condition)
  | group (kind : Connective) (members : List Filter)

namespace Filter

/-- The filter is a group. -/
def isGroup : Filter → Bool
  | .group .. => true
  | .condition _ => false

/-- Keys that begin with a dollar sign name operators, never fields. -/
def isOperatorKey (key : String) : Bool := key.toList.head? == some '$'

/-- One operator and its operand. -/
def ofOperator? (field key : String) (operand : Json) : Except RequestFault Filter :=
  match Operator.ofKey? key with
  | none => .error (.unknownOperator key field)
  | some operator =>
    if operator.takesList && operand.kind != .array then .error (.listExpected operator field)
    else .ok (.condition ⟨field, operator, operand⟩)

/-- The conditions that an entry puts on a field. -/
def ofField? (field : String) : Json → Except RequestFault (List Filter)
  | .object entries =>
    if entries.any (isOperatorKey ·.1) then entries.mapM fun e => ofOperator? field e.1 e.2
    else .error (.objectWithoutOperators field)
  | .array _ => .error (.arrayValue field)
  | scalar => .ok [.condition ⟨field, .eq, scalar⟩]

/-- A member of a group: several conditions count as one, none as nothing. -/
def asMember : List Filter → List Filter
  | [] => []
  | [f] => [f]
  | fs => [.group .and fs]

mutual

/-- The conditions and groups of a filter object, in the order of its entries. -/
def ofEntries? : List (String × Json) → Except RequestFault (List Filter)
  | [] => .ok []
  | (key, value) :: rest => do
    let here ← match Connective.ofKey? key with
      | some kind =>
        match value with
        | .array items => do
          let members ← ofMembers? kind items
          pure [Filter.group kind members]
        | _ => .error (.groupNotArray kind)
      | none =>
        if isOperatorKey key then .error (.unknownConnective key) else ofField? key value
    let more ← ofEntries? rest
    pure (here ++ more)

/-- The members of a group, each a filter object. -/
def ofMembers? (kind : Connective) : List Json → Except RequestFault (List Filter)
  | [] => .ok []
  | .object entries :: rest => do
    let parsed ← ofEntries? entries
    let more ← ofMembers? kind rest
    pure (asMember parsed ++ more)
  | other :: _ => .error (.groupMember kind other.kind)

end

/-- The conditions of a filter. `null` puts none. -/
def ofJson? : Json → Except RequestFault (List Filter)
  | .null => .ok []
  | .object entries => ofEntries? entries
  | other => .error (.filterNotObject other.kind)

/-- The conditions of a filter given as text. Blank text puts none. -/
def ofText? (text : String) : Except RequestFault (List Filter) :=
  if isBlankText text then .ok []
  else match Json.parse? text with
    | some value => ofJson? value
    | none => .error .filterNotJson

end Filter

end TableQuery
