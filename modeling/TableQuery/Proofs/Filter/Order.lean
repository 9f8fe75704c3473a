import TableQuery.Json.Canonical
import TableQuery.Proofs.Filter.Entry
import TableQuery.Proofs.Filter.Meaning

/-!
# Filters up to the order of fields

A filter whose fields are in another order may be refused with another fault, and its conditions
are in another order, but it is refused or not all the same, and it means the same.

* `Outcome`: whether filters are refused, whether anything of them is known to the table, and
  whether that holds for a row.
* `outcomes_perm`: the order of entries does not matter.
* `outcome_canonical`: a filter and its canonical form have the same outcome.
-/

namespace TableQuery

/-! ## What is left of filters -/

/-- What filters come to for a row: they are refused, nothing of them is known, or they are true,
false or unknown. -/
abbrev Outcome : Type := Option (Option Truth)

namespace Outcome

/-- Two parts that must both hold, as far as anything is left of them. -/
def join : Option Truth → Option Truth → Option Truth
  | none, t => t
  | s, none => s
  | some s, some t => some (s.and t)

/-- Two parts of a filter. -/
def and (a b : Outcome) : Outcome := a.bind fun s => b.map (join s)

theorem join_comm (s t : Option Truth) : join s t = join t s := by
  cases s <;> cases t <;> first | rfl | exact congrArg some (Truth.and_comm _ _)

theorem join_assoc (s t u : Option Truth) : join (join s t) u = join s (join t u) := by
  cases s <;> cases t <;> cases u <;> first | rfl | exact congrArg some (Truth.and_assoc _ _ _)

theorem and_comm (a b : Outcome) : a.and b = b.and a := by
  cases a <;> cases b <;> first | rfl | exact congrArg some (join_comm _ _)

theorem and_assoc (a b c : Outcome) : (a.and b).and c = a.and (b.and c) := by
  cases a <;> cases b <;> cases c <;> first | rfl | exact congrArg some (join_assoc _ _ _)

theorem and_left_comm (a b c : Outcome) : a.and (b.and c) = b.and (a.and c) := by
  rw [← and_assoc, and_comm a b, and_assoc]

end Outcome

theorem Truth.all_append (ss ts : List Truth) : all (ss ++ ts) = (all ss).and (all ts) := by
  induction ss with
  | nil => simp
  | cons s ss ih => rw [List.cons_append, all_cons, all_cons, ih, and_assoc]

theorem lowerAll_append (n : Nat) (table : Table) (fs gs : List Filter) :
    lowerAll n table (fs ++ gs) =
      lowerAll n table fs >>= fun ps => lowerAll n table gs >>= fun qs => .ok (ps ++ qs) := by
  induction fs with
  | nil =>
    rw [lowerAll, List.nil_append]
    cases lowerAll n table gs <;> rfl
  | cons f fs ih =>
    rw [List.cons_append, lowerAll, lowerAll, ih]
    cases lower n table f with
    | error fault => rfl
    | ok p =>
      cases lowerAll n table fs with
      | error fault => rfl
      | ok ps =>
        cases lowerAll n table gs with
        | error fault => rfl
        | ok qs =>
          refine congrArg Except.ok ?_
          rw [List.append_assoc]

theorem lowerAll_group (n : Nat) (table : Table) (kind : Connective) (fs : List Filter) :
    lowerAll n table [.group kind fs] =
      lowerAll n table fs >>= fun ps => .ok (collapse kind ps).toList := by
  rw [lowerAll, lower, lowerAll]
  cases lowerAll n table fs with
  | error fault => rfl
  | ok ps => exact congrArg Except.ok (List.append_nil _)

/-- A member comes to what its filters come to as a group, whether it is one or not. -/
theorem lowerAll_asMember (n : Nat) (table : Table) (fs : List Filter) :
    lowerAll n table (Filter.asMember fs) =
      lowerAll n table fs >>= fun ps => .ok (collapse .and ps).toList := by
  match fs with
  | [] => rfl
  | [f] =>
    rw [Filter.asMember, lowerAll, lowerAll]
    cases lower n table f with
    | error fault => rfl
    | ok p => cases p <;> rfl
  | f :: g :: rest => exact lowerAll_group n table .and (f :: g :: rest)

section

variable (n : Nat) (table : Table) (D : SqlDialect) (row : D.Row)

/-- What is left of predicates that must all hold. -/
def remaining (ps : List Predicate) : Option Truth :=
  if ps.isEmpty then none else some (.all (ps.map (Predicate.truth D row)))

theorem remaining_append (ps qs : List Predicate) :
    remaining D row (ps ++ qs) = Outcome.join (remaining D row ps) (remaining D row qs) := by
  cases ps with
  | nil => rfl
  | cons p ps =>
    cases qs with
    | nil => rw [List.append_nil]; rfl
    | cons q qs =>
      refine congrArg some ?_
      rw [List.map_append, Truth.all_append]

/-- What filters come to that may be refused already. -/
def outcome (fs : Except RequestFault (List Filter)) : Outcome :=
  (fs >>= lowerAll n table).toOption.map (remaining D row)

/-- Whether the filters hold, each by itself, unless they are refused. -/
def memberTruths? (fs : Except RequestFault (List Filter)) : Option (List Truth) :=
  (fs >>= lowerAll n table).toOption.map fun ps => ps.map (Predicate.truth D row)

theorem outcome_append (here more : Except RequestFault (List Filter)) :
    outcome n table D row (here >>= fun fs => more >>= fun gs => pure (fs ++ gs)) =
      (outcome n table D row here).and (outcome n table D row more) := by
  unfold outcome
  cases here with
  | error fault => rfl
  | ok fs =>
    cases more with
    | error fault =>
      cases h : lowerAll n table fs <;> simp [h, Outcome.and, bind, Except.bind, Except.toOption]
    | ok gs =>
      show Option.map _ (lowerAll n table (fs ++ gs)).toOption = _
      rw [lowerAll_append]
      show _ = Outcome.and (Option.map _ (lowerAll n table fs).toOption)
        (Option.map _ (lowerAll n table gs).toOption)
      cases lowerAll n table fs with
      | error fault => rfl
      | ok ps =>
        cases lowerAll n table gs with
        | error fault => rfl
        | ok qs => exact congrArg some (remaining_append D row ps qs)

/-- What entries come to, each by itself. -/
def outcomes (read : String × Json → Except RequestFault (List Filter))
    (entries : List (String × Json)) : Outcome :=
  entries.foldr (fun e rest => (outcome n table D row (read e)).and rest) (some none)

theorem outcomes_perm (read : String × Json → Except RequestFault (List Filter))
    {es fs : List (String × Json)} (h : es.Perm fs) :
    outcomes n table D row read es = outcomes n table D row read fs := by
  induction h with
  | nil => rfl
  | cons e _ ih => exact congrArg (Outcome.and _) ih
  | swap e f rest => exact Outcome.and_left_comm _ _ _
  | trans _ _ ih ih' => exact ih.trans ih'

theorem outcome_ofEntries? (entries : List (String × Json)) :
    outcome n table D row (Filter.ofEntries? entries) =
      outcomes n table D row (fun e => Filter.ofEntry? e.1 e.2) entries := by
  induction entries with
  | nil => rw [Filter.ofEntries?]; rfl
  | cons e rest ih =>
    rw [Filter.ofEntries?_cons, outcome_append, ih]
    rfl

theorem outcome_mapM_ofOperator? (field : String) (entries : List (String × Json)) :
    outcome n table D row (entries.mapM fun e => Filter.ofOperator? field e.1 e.2) =
      outcomes n table D row (fun e => (Filter.ofOperator? field e.1 e.2).map ([·])) entries := by
  induction entries with
  | nil => rfl
  | cons e rest ih =>
    have hcons : ((e :: rest).mapM fun e => Filter.ofOperator? field e.1 e.2) =
        (Filter.ofOperator? field e.1 e.2).map ([·]) >>= fun fs =>
          (rest.mapM fun e => Filter.ofOperator? field e.1 e.2) >>= fun gs => pure (fs ++ gs) := by
      rw [List.mapM_cons]
      cases Filter.ofOperator? field e.1 e.2 <;> rfl
    rw [hcons, outcome_append, ih]
    rfl

end

/-! ## Canonical forms -/

namespace Json

theorem insertField_perm (field : String × Json) (fields : List (String × Json)) :
    (insertField field fields).Perm (field :: fields) := by
  induction fields with
  | nil => exact .refl _
  | cons f rest ih =>
    unfold insertField
    split
    · exact (ih.cons f).trans (.swap field f rest)
    · exact .refl _

theorem sortFields_perm (fields : List (String × Json)) : (sortFields fields).Perm fields := by
  induction fields with
  | nil => exact .refl _
  | cons f rest ih => exact (insertField_perm f (sortFields rest)).trans (ih.cons f)

theorem canonicalItems_eq_map (items : List Json) : canonicalItems items = items.map canonical := by
  induction items with
  | nil => rw [canonicalItems]; rfl
  | cons v rest ih => rw [canonicalItems, ih, List.map_cons]

theorem canonicalFields_eq_map (fields : List (String × Json)) :
    canonicalFields fields = fields.map fun e => (e.1, e.2.canonical) := by
  induction fields with
  | nil => rw [canonicalFields]; rfl
  | cons e rest ih =>
    obtain ⟨k, v⟩ := e
    rw [canonicalFields, ih, List.map_cons]

theorem kind_canonical (v : Json) : v.canonical.kind = v.kind := by
  cases v <;> rw [canonical] <;> rfl

end Json

/-- Results that are faults or not all the same, and equal if they are not. -/
def SameResult {ε α : Type} (a b : Except ε α) : Prop := a.toOption = b.toOption

namespace SameResult

variable {ε α β : Type} {a b : Except ε α}

theorem refl (a : Except ε α) : SameResult a a := rfl

theorem bind (h : SameResult a b) {f g : α → Except ε β} (hfg : ∀ x, SameResult (f x) (g x)) :
    SameResult (a >>= f) (b >>= g) := by
  cases a with
  | error fault =>
    cases b with
    | error fault' => rfl
    | ok y => cases h
  | ok x =>
    cases b with
    | error fault => cases h
    | ok y =>
      cases h
      exact hfg x

end SameResult

theorem coerce_canonical (v : Json) (type : ColumnType) (field : String) :
    SameResult (Param.coerce v.canonical type field) (Param.coerce v type field) := by
  cases v <;> rw [Json.canonical] <;> rfl

theorem mapM_coerce_canonical (items : List Json) (type : ColumnType) (field : String) :
    SameResult ((items.map Json.canonical).mapM (Param.coerce · type field))
      (items.mapM (Param.coerce · type field)) := by
  induction items with
  | nil => rfl
  | cons v rest ih =>
    rw [List.map_cons, List.mapM_cons, List.mapM_cons]
    exact (coerce_canonical v type field).bind fun p => ih.bind fun ps => .refl _

theorem compareColumn_canonical (n : Nat) (column : Column) (operator : Operator) (v : Json) :
    SameResult (compareColumn n column operator v.canonical) (compareColumn n column operator v) := by
  cases operator with
  | like => cases v <;> rw [Json.canonical] <;> rfl
  | inList | notIn =>
    cases v with
    | array items =>
      rw [Json.canonical, Json.canonicalItems_eq_map]
      unfold compareColumn
      simp only [← List.map_take]
      exact (mapM_coerce_canonical _ _ _).bind fun ps => .refl _
    | _ =>
      rw [Json.canonical]
      rfl
  | eq | ne => exact (coerce_canonical v _ _).bind fun p => .refl _
  | gt | lt | gte | lte => cases v <;> rw [Json.canonical] <;> rfl

section

variable (n : Nat) (table : Table) (D : SqlDialect) (row : D.Row)

theorem outcome_condition_canonical (field : String) (operator : Operator) (v : Json) :
    outcome n table D row (.ok [.condition ⟨field, operator, v.canonical⟩]) =
      outcome n table D row (.ok [.condition ⟨field, operator, v⟩]) := by
  have hlower : SameResult (lower n table (.condition ⟨field, operator, v.canonical⟩))
      (lower n table (.condition ⟨field, operator, v⟩)) := by
    unfold lower
    cases table.column? field with
    | none => exact .refl _
    | some column => exact (compareColumn_canonical n column operator v).bind fun c => .refl _
  have hall : SameResult (lowerAll n table [.condition ⟨field, operator, v.canonical⟩])
      (lowerAll n table [.condition ⟨field, operator, v⟩]) := by
    unfold lowerAll
    exact hlower.bind fun p => .refl _
  exact congrArg (Option.map (remaining D row)) hall

theorem outcome_ofOperator?_canonical (field key : String) (v : Json) :
    outcome n table D row ((Filter.ofOperator? field key v.canonical).map ([·])) =
      outcome n table D row ((Filter.ofOperator? field key v).map ([·])) := by
  unfold Filter.ofOperator?
  rw [Json.kind_canonical]
  cases Operator.ofKey? key with
  | none => rfl
  | some operator =>
    simp only
    split
    · rfl
    · exact outcome_condition_canonical n table D row field operator v

theorem outcomes_congr {read : String × Json → Except RequestFault (List Filter)}
    {es : List (String × Json)} {change : String × Json → String × Json}
    (h : ∀ e ∈ es, outcome n table D row (read (change e)) = outcome n table D row (read e)) :
    outcomes n table D row read (es.map change) = outcomes n table D row read es := by
  induction es with
  | nil => rfl
  | cons e rest ih =>
    show Outcome.and (outcome n table D row (read (change e))) (outcomes n table D row read _) = _
    rw [h e List.mem_cons_self, ih fun d hd => h d (List.mem_cons_of_mem e hd)]
    rfl

theorem any_isOperatorKey_canonical (fields : List (String × Json)) :
    (Json.sortFields (Json.canonicalFields fields)).any (Filter.isOperatorKey ·.1) =
      fields.any (Filter.isOperatorKey ·.1) := by
  rw [(Json.sortFields_perm _).any_eq, Json.canonicalFields_eq_map, List.any_map]
  rfl

theorem outcome_ofField?_canonical (field : String) (v : Json) :
    outcome n table D row (Filter.ofField? field v.canonical) =
      outcome n table D row (Filter.ofField? field v) := by
  cases v with
  | object fields =>
    rw [Json.canonical]
    simp only [Filter.ofField?, any_isOperatorKey_canonical]
    split
    · rw [outcome_mapM_ofOperator?, outcome_mapM_ofOperator?,
        outcomes_perm n table D row _ (Json.sortFields_perm _), Json.canonicalFields_eq_map]
      exact outcomes_congr n table D row fun e _ =>
        outcome_ofOperator?_canonical n table D row field e.1 e.2
    · rfl
  | array items =>
    rw [Json.canonical]
    rfl
  | _ => rw [Json.canonical]

/-! ### Groups -/

/-- What a group of members comes to that hold or not. -/
def groupOutcome (kind : Connective) (members : Option (List Truth)) : Outcome :=
  members.map fun ts => if ts.isEmpty then none else some (kind.join ts)

theorem outcome_group (kind : Connective) (members : Except RequestFault (List Filter)) :
    outcome n table D row (members >>= fun fs => pure [.group kind fs]) =
      groupOutcome kind (memberTruths? n table D row members) := by
  cases members with
  | error fault => rfl
  | ok fs =>
    show Option.map _ (lowerAll n table [.group kind fs]).toOption =
      Option.map _ (Option.map _ (lowerAll n table fs).toOption)
    rw [lowerAll_group]
    cases lowerAll n table fs with
    | error fault => rfl
    | ok ps =>
      refine congrArg some (Eq.trans ?_ (collapse_truth D row kind ps))
      show remaining D row (collapse kind ps).toList = _
      cases collapse kind ps with
      | none => rfl
      | some p => exact congrArg some (Truth.and_yes _)

/-- A member of a group stands for the entries of its object together. -/
theorem memberTruths?_asMember (parsed : List Filter) :
    memberTruths? n table D row (.ok (Filter.asMember parsed)) =
      (outcome n table D row (.ok parsed)).map Option.toList := by
  show (lowerAll n table (Filter.asMember parsed)).toOption.map _ =
    ((lowerAll n table parsed).toOption.map _).map _
  rw [lowerAll_asMember]
  cases lowerAll n table parsed with
  | error fault => rfl
  | ok ps =>
    refine congrArg some ?_
    match ps with
    | [] => rfl
    | [p] => exact congrArg (fun t => [t]) (Truth.and_yes _).symm
    | p :: q :: rest =>
      refine congrArg (fun t => [t]) ?_
      show Connective.and.join (Predicate.truths D row (p :: q :: rest)) = _
      rw [Predicate.truths_eq_map]
      rfl

theorem memberTruths?_append (fs gs : List Filter) :
    memberTruths? n table D row (.ok (fs ++ gs)) =
      (memberTruths? n table D row (.ok fs)).bind fun ss =>
        (memberTruths? n table D row (.ok gs)).map (ss ++ ·) := by
  show (lowerAll n table (fs ++ gs)).toOption.map _ =
    ((lowerAll n table fs).toOption.map _).bind fun ss =>
      ((lowerAll n table gs).toOption.map _).map (ss ++ ·)
  rw [lowerAll_append]
  cases lowerAll n table fs with
  | error fault => rfl
  | ok ps =>
    cases lowerAll n table gs with
    | error fault => rfl
    | ok qs => exact congrArg some List.map_append

/-- The first member of a group, and the others. -/
theorem memberTruths?_object (kind : Connective) (entries : List (String × Json))
    (rest : List Json) :
    memberTruths? n table D row (Filter.ofMembers? kind (.object entries :: rest)) =
      (outcome n table D row (Filter.ofEntries? entries)).bind fun o =>
        (memberTruths? n table D row (Filter.ofMembers? kind rest)).map (o.toList ++ ·) := by
  rw [Filter.ofMembers?_object]
  cases Filter.ofEntries? entries with
  | error fault => rfl
  | ok parsed =>
    cases Filter.ofMembers? kind rest with
    | error fault =>
      show none = (outcome n table D row (.ok parsed)).bind fun o => none
      cases outcome n table D row (.ok parsed) <;> rfl
    | ok more =>
      show memberTruths? n table D row (.ok (Filter.asMember parsed ++ more)) = _
      rw [memberTruths?_append, memberTruths?_asMember]
      cases outcome n table D row (.ok parsed) <;> rfl

/-- A member that is no object is refused in both forms. -/
theorem memberTruths?_other_canonical (kind : Connective) {v : Json} (h : v.kind ≠ .object)
    {rest : List Json} :
    memberTruths? n table D row (Filter.ofMembers? kind (Json.canonicalItems (v :: rest))) =
      memberTruths? n table D row (Filter.ofMembers? kind (v :: rest)) := by
  have hcanonical : v.canonical.kind ≠ .object := by rwa [Json.kind_canonical]
  rw [Json.canonicalItems, Filter.ofMembers?_other kind hcanonical, Filter.ofMembers?_other kind h]
  rfl

mutual

theorem outcome_ofEntry?_canonical (key : String) : (v : Json) →
    outcome n table D row (Filter.ofEntry? key v.canonical) =
      outcome n table D row (Filter.ofEntry? key v)
  | .array items => by
    rw [Json.canonical]
    simp only [Filter.ofEntry?]
    cases Connective.ofKey? key with
    | some kind =>
      simp only
      rw [outcome_group, outcome_group, memberTruths?_canonical kind items]
    | none =>
      simp only
      split
      · rfl
      · rfl
  | .object fields => by
    unfold Filter.ofEntry?
    cases Connective.ofKey? key with
    | some kind => rw [Json.canonical]
    | none =>
      simp only
      split
      · rfl
      · exact outcome_ofField?_canonical n table D row key (.object fields)
  | .null | .bool _ | .number _ | .string _ => by rw [Json.canonical]

theorem memberTruths?_canonical (kind : Connective) : (items : List Json) →
    memberTruths? n table D row (Filter.ofMembers? kind (Json.canonicalItems items)) =
      memberTruths? n table D row (Filter.ofMembers? kind items)
  | [] => by rw [Json.canonicalItems]
  | .object fields :: rest => by
    rw [Json.canonicalItems, Json.canonical, memberTruths?_object, memberTruths?_object,
      memberTruths?_canonical kind rest, outcome_ofEntries?, outcome_ofEntries?,
      outcomes_perm n table D row _ (Json.sortFields_perm _), outcomes_canonicalFields fields]
  | .array items :: rest => memberTruths?_other_canonical n table D row kind (by simp [Json.kind])
  | .null :: rest => memberTruths?_other_canonical n table D row kind (by simp [Json.kind])
  | .bool _ :: rest => memberTruths?_other_canonical n table D row kind (by simp [Json.kind])
  | .number _ :: rest => memberTruths?_other_canonical n table D row kind (by simp [Json.kind])
  | .string _ :: rest => memberTruths?_other_canonical n table D row kind (by simp [Json.kind])

theorem outcomes_canonicalFields : (fields : List (String × Json)) →
    outcomes n table D row (fun e => Filter.ofEntry? e.1 e.2) (Json.canonicalFields fields) =
      outcomes n table D row (fun e => Filter.ofEntry? e.1 e.2) fields
  | [] => by rw [Json.canonicalFields]
  | (key, v) :: rest => by
    rw [Json.canonicalFields]
    show Outcome.and (outcome n table D row (Filter.ofEntry? key v.canonical)) _ =
      Outcome.and (outcome n table D row (Filter.ofEntry? key v)) _
    rw [outcome_ofEntry?_canonical key v]
    exact congrArg _ (outcomes_canonicalFields rest)

end

/-- A filter and its canonical form come to the same for every row. -/
theorem outcome_canonical (filter : Json) :
    outcome n table D row (Filter.ofJson? filter.canonical) =
      outcome n table D row (Filter.ofJson? filter) := by
  cases filter with
  | object fields =>
    rw [Json.canonical, Filter.ofJson?, Filter.ofJson?, outcome_ofEntries?, outcome_ofEntries?,
      outcomes_perm n table D row _ (Json.sortFields_perm _)]
    exact outcomes_canonicalFields n table D row fields
  | array items =>
    rw [Json.canonical]
    rfl
  | _ => rw [Json.canonical]

end

end TableQuery
