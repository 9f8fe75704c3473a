import TableQuery.Proofs.Query.Meaning

/-!
# The tables of statements

A read takes its rows from the table of its query, and a write changes no other table.

* `SqlReading.source?`, `SqlReading.target?`: the table that a statement names for its rows.
* `selectRows_source?`, `selectCount_source?`: the reads of a query.
* `insertRow_target?`, `updateRows_target?`, `deleteRows_target?`: the writes.
-/

namespace TableQuery

/-- The table that a read takes its rows from, at the end of its head, if it names no other. -/
def SqlReading.source? (r : SqlReading) : Option String :=
  match r.head.reverse with
  | .name table :: .key .FROM :: before =>
    if (before ++ r.tail).contains (.key .FROM) then none else some table
  | _ => none

/-- The table that a write changes. -/
def SqlReading.target? (r : SqlReading) : Option String :=
  match r.head with
  | .key .INSERT :: .key .INTO :: .name table :: _ => some table
  | .key .UPDATE :: .name table :: _ => some table
  | .key .DELETE :: .key .FROM :: .name table :: _ => some table
  | _ => none

/-- The table that a statement takes its rows from. -/
def Statement.source? (s : Statement) : Option String := s.reading?.bind SqlReading.source?

/-- The table that a statement changes. -/
def Statement.target? (s : Statement) : Option String := s.reading?.bind SqlReading.target?

theorem IsHead.unique {text : List Char} {params : List Param} {ts us : List SqlToken}
    (ht : IsHead text params ts) (hu : IsHead text params us) : ts = us :=
  Option.some.inj (ht.1.symm.trans hu.1)

/-! ## Reads -/

section

variable {q : Query} {truth : (D : SqlDialect) → D.Row → Truth}

theorem selectRows_source? (h : q.plan.IsProper) (hwhere : SaysWhere q.plan.clause q.plan.params truth)
    {rows : Statement} (hrows : selectRows q = .ok rows) : rows.source? = some q.table := by
  obtain ⟨r, hread, hhead, htail, -⟩ := selectRows_reading? h hwhere hrows
  obtain ⟨ts, hts, hwords⟩ := isHead_selectHead q
  have hnone : (ts.reverse ++ [SqlToken.key .SELECT] ++ r.tail).contains (.key .FROM) = false := by
    rw [htail]
    have hts : SqlToken.key .FROM ∉ ts := fun hmem => hwords _ hmem _ rfl
    simp [PageRequest.tokens, hts]
  rw [Statement.source?, hread, Option.bind_some, SqlReading.source?, hhead.unique hts]
  simpa using hnone

theorem selectCount_source? (h : q.plan.IsProper)
    (hwhere : SaysWhere q.plan.clause q.plan.params truth) {count : Statement}
    (hcount : selectCount q = .ok count) : count.source? = some q.table := by
  obtain ⟨count', r, hcount', hread, hhead, htail, -⟩ := selectCount_reading? h hwhere
  cases hcount.symm.trans hcount'
  rw [Statement.source?, hread, Option.bind_some, SqlReading.source?,
    hhead.unique (isHead_countHead q), htail]
  rfl

/-! ## Writes -/

theorem isHead_deleteHead (q : Query) :
    IsHead (deleteHead q).toList [] [.key .DELETE, .key .FROM, .name q.table] := by
  have hdelete : IsHead "DELETE FROM ".toList [] [.key .DELETE, .key .FROM] :=
    ⟨rfl, by simp [SqlToken.endsHead]⟩
  unfold deleteHead
  rw [String.toList_append]
  exact hdelete.append (isHead_quoteIdentifier q.table) (.inr rfl)

theorem deleteRows_target? (h : q.plan.IsProper)
    (hwhere : SaysWhere q.plan.clause q.plan.params truth) {s : Statement}
    (hs : deleteRows q = .ok s) : s.target? = some q.table := by
  obtain ⟨condition, hread, -⟩ := reading?_of_saysWhere_end (isHead_deleteHead q) hwhere
  cases (deleteRows_eq h).symm.trans hs
  rw [List.nil_append] at hread
  rw [Statement.target?, hread]
  rfl

theorem isHead_assignment (a : String × Param) :
    IsHead (quoteIdentifier a.1 ++ " = ?").toList [a.2] [.name a.1, .sign .eq, .param a.2] := by
  have hequal : IsHead " = ?".toList [a.2] [.sign .eq, .param a.2] :=
    ⟨rfl, by simp [SqlToken.endsHead]⟩
  rw [String.toList_append]
  exact (isHead_quoteIdentifier a.1).append hequal (.inl rfl)

/-- The tokens of an update before its condition. -/
def updateTokens (table : String) (assignments : List (String × Param)) : List SqlToken :=
  .key .UPDATE :: .name table :: .key .SET ::
    withCommas (assignments.map fun a => [.name a.1, .sign .eq, .param a.2])

theorem isHead_updateHead (q : Query) (assignments : List (String × Param)) :
    IsHead (updateHead q assignments).toList (assignments.map (·.2))
      (updateTokens q.table assignments) := by
  have hvalues := isHead_commas _ _ _ assignments fun a _ => isHead_assignment a
  have hupdate : IsHead "UPDATE ".toList [] [.key .UPDATE] := ⟨rfl, by simp [SqlToken.endsHead]⟩
  have hset : IsHead " SET ".toList [] [.key .SET] := ⟨rfl, by simp [SqlToken.endsHead]⟩
  have hrest := (isHead_quoteIdentifier q.table).append (hset.append hvalues (.inr rfl)) (.inl rfl)
  have hall := hupdate.append hrest (.inr rfl)
  have hparams : (assignments.flatMap fun a => [a.2]) = assignments.map (·.2) :=
    List.map_eq_flatMap.symm
  rw [List.nil_append, List.nil_append, List.nil_append, hparams] at hall
  simp only [updateHead, String.toList_append, List.append_assoc]
  exact hall

theorem updateRows_target? (h : q.plan.IsProper)
    (hwhere : SaysWhere q.plan.clause q.plan.params truth) {assignments : List (String × Param)}
    {s : Statement} (hs : updateRows q assignments = .ok s) : s.target? = some q.table := by
  obtain ⟨condition, hread, -⟩ := reading?_of_saysWhere_end (isHead_updateHead q assignments) hwhere
  rw [updateRows_eq h] at hs
  split at hs
  · cases hs
  · cases hs
    rw [Statement.target?, hread]
    rfl

end

/-! ### Insertions -/

/-- The next key of a table. -/
def nextKey (table : Table) : String :=
  "(SELECT COALESCE(MAX(" ++ quoteIdentifier keyColumnName ++ "), 0) + 1 FROM " ++
    quoteIdentifier table.name ++ ")"

/-- The tokens of the next key of a table. -/
def nextKeyTokens (table : String) : List SqlToken := [
  .sign .leftParen, .key .SELECT, .key .COALESCE, .sign .leftParen, .key .MAX, .sign .leftParen,
  .name keyColumnName, .sign .rightParen, .sign .comma, .other "0", .sign .rightParen, .sign .plus,
  .other "1", .key .FROM, .name table, .sign .rightParen]

theorem isHead_nextKey (table : Table) :
    IsHead (nextKey table).toList [] (nextKeyTokens table.name) := by
  have hmax : IsHead "(SELECT COALESCE(MAX(".toList [] [.sign .leftParen, .key .SELECT,
      .key .COALESCE, .sign .leftParen, .key .MAX, .sign .leftParen] :=
    ⟨rfl, by simp [SqlToken.endsHead]⟩
  have hfrom : IsHead "), 0) + 1 FROM ".toList [] [.sign .rightParen, .sign .comma, .other "0",
      .sign .rightParen, .sign .plus, .other "1", .key .FROM] :=
    ⟨rfl, by simp [SqlToken.endsHead]⟩
  have hclose : IsHead ")".toList [] [.sign .rightParen] := ⟨rfl, by simp [SqlToken.endsHead]⟩
  have htable := hfrom.append ((isHead_quoteIdentifier table.name).append hclose (.inl rfl)) (.inr rfl)
  have hall := hmax.append ((isHead_quoteIdentifier keyColumnName).append htable (.inl rfl)) (.inr rfl)
  unfold nextKey
  rw [String.toList_append, String.toList_append, String.toList_append, String.toList_append,
    List.append_assoc, List.append_assoc, List.append_assoc]
  exact hall

/-- The tokens of the values of an insertion. -/
def valueTokens (table : String) (ps : List Param) : List SqlToken :=
  withCommas (nextKeyTokens table :: ps.map fun p => [.param p])

/-- The values of an insertion: the next key and placeholders. -/
theorem isHead_insertedValues (table : Table) (ps : List Param) :
    IsHead (", ".intercalate (nextKey table :: ps.map fun _ => "?")).toList ps
      (valueTokens table.name ps) := by
  let text : Option Param → String := fun p => if p.isSome then "?" else nextKey table
  let tokens : Option Param → List SqlToken := fun p =>
    p.elim (nextKeyTokens table.name) fun p => [.param p]
  have h := isHead_commas text Option.toList tokens (none :: ps.map some) fun p _ => by
    cases p with
    | none => exact isHead_nextKey table
    | some p =>
      have hmark : IsHead "?".toList [p] [.param p] :=
        ⟨sqlTokens?_placeholder p, by simp [SqlToken.endsHead]⟩
      exact hmark
  have hparams : (none :: ps.map some).flatMap Option.toList = ps := by
    rw [List.flatMap_cons, List.flatMap_map]
    exact List.flatMap_singleton' ps
  have htexts : (none :: ps.map some).map text = nextKey table :: ps.map fun _ => "?" := by
    rw [List.map_cons, List.map_map]
    rfl
  have htokens : (none :: ps.map some).map tokens =
      nextKeyTokens table.name :: ps.map fun p => [.param p] := by
    rw [List.map_cons, List.map_map]
    rfl
  rwa [hparams, htexts, htokens] at h

/-- The text of an insertion. -/
def insertText (table : Table) (assignments : List (String × Param)) : String :=
  "INSERT INTO " ++ quoteIdentifier table.name ++ " (" ++
    ", ".intercalate ((keyColumnName :: assignments.map (·.1)).map quoteIdentifier) ++ ") VALUES (" ++
      ", ".intercalate (nextKey table :: (assignments.map (·.2)).map fun _ => "?") ++ ")"

/-- An insertion can always be stated. -/
theorem insertRow_eq (table : Table) (assignments : List (String × Param)) :
    insertRow table assignments = .ok ⟨insertText table assignments, assignments.map (·.2)⟩ := by
  refine Draft.finish_eq_ok.mpr ⟨_, mapM_ofBound_assignments assignments, ?_⟩
  unfold insertText nextKey
  rw [List.map_cons, List.map_map, List.map_map]
  rfl

/-- The tokens of an insertion. -/
def insertTokens (table : String) (assignments : List (String × Param)) : List SqlToken :=
  .key .INSERT :: .key .INTO :: .name table :: .sign .leftParen ::
    (nameTokens (keyColumnName :: assignments.map (·.1)) ++
      .sign .rightParen :: .key .VALUES :: .sign .leftParen ::
        (valueTokens table (assignments.map (·.2)) ++ [.sign .rightParen]))

theorem isHead_insertText (table : Table) (assignments : List (String × Param)) :
    IsHead (insertText table assignments).toList (assignments.map (·.2))
      (insertTokens table.name assignments) := by
  have hcolumns := isHead_names (keyColumnName :: assignments.map (·.1))
  have hvalues := isHead_insertedValues table (assignments.map (·.2))
  have hinsert : IsHead "INSERT INTO ".toList [] [.key .INSERT, .key .INTO] :=
    ⟨rfl, by simp [SqlToken.endsHead]⟩
  have hopen : IsHead " (".toList [] [.sign .leftParen] := ⟨rfl, by simp [SqlToken.endsHead]⟩
  have hmiddle : IsHead ") VALUES (".toList [] [.sign .rightParen, .key .VALUES, .sign .leftParen] :=
    ⟨rfl, by simp [SqlToken.endsHead]⟩
  have hclose : IsHead ")".toList [] [.sign .rightParen] := ⟨rfl, by simp [SqlToken.endsHead]⟩
  have hrow := hmiddle.append (hvalues.append hclose (.inl rfl)) (.inr rfl)
  have hfields := hopen.append (hcolumns.append hrow (.inl rfl)) (.inr rfl)
  have hall := hinsert.append ((isHead_quoteIdentifier table.name).append hfields (.inl rfl)) (.inr rfl)
  simp only [List.nil_append, List.append_nil] at hall
  unfold insertText
  rw [String.toList_append, String.toList_append, String.toList_append, String.toList_append,
    String.toList_append, String.toList_append, List.append_assoc, List.append_assoc,
    List.append_assoc, List.append_assoc, List.append_assoc]
  exact hall

theorem insertRow_target? (table : Table) (assignments : List (String × Param)) {s : Statement}
    (hs : insertRow table assignments = .ok s) : s.target? = some table.name := by
  obtain ⟨htokens, hends⟩ := isHead_insertText table assignments
  cases (insertRow_eq table assignments).symm.trans hs
  have hread : Statement.reading? ⟨insertText table assignments, assignments.map (·.2)⟩ =
      some ⟨_, none, []⟩ :=
    reading?_of_unfiltered (by simpa using htokens) hends rfl
  rw [Statement.target?, hread]
  rfl

end TableQuery
