import TableQuery.Proofs.Filter.Rendering
import TableQuery.Query.Statement

/-!
# Statements read back

The statement of a query is what comes before its condition, the condition and what comes after
it, and the condition holds for the rows that the predicates of the query admit.

* `SaysWhere`: a clause with its parameters leaves the rows for which something is true.
* `reading?_of_saysWhere`: the reading of a statement with such a clause.
* `planFor_saysWhere`: the clause of a plan, built or written out.
* `selectRows_eq`, `selectCount_eq`, `deleteRows_eq`, `updateRows_eq`: the statements of a query
  from its clause.
-/

namespace TableQuery

/-- A clause with its parameters is empty and everything is true, or it is a condition of the
given truth. -/
def SaysWhere (clause : String) (params : List Param) (truth : (D : SqlDialect) → D.Row → Truth) :
    Prop :=
  (clause = "" ∧ params = [] ∧ ∀ D row, truth D row = .yes) ∨
    ∃ text, clause = " WHERE " ++ text ∧ Says IsDisjunction text.toList params truth

/-! ## The parts of a statement -/

/-- Text that is read as tokens among which no condition and no order begins. -/
def IsHead (text : List Char) (params : List Param) (tokens : List SqlToken) : Prop :=
  sqlTokens? params text = some tokens ∧ ∀ t ∈ tokens, t.endsHead = false

theorem takeWhile_append_of_all {head rest : List SqlToken}
    (h : ∀ t ∈ head, t.endsHead = false) (hrest : rest.head?.all SqlToken.endsHead) :
    (head ++ rest).takeWhile (!·.endsHead) = head ∧
      (head ++ rest).dropWhile (!·.endsHead) = rest := by
  have hstop : rest.takeWhile (!·.endsHead) = [] ∧ rest.dropWhile (!·.endsHead) = rest := by
    cases rest with
    | nil => exact ⟨rfl, rfl⟩
    | cons t rest =>
      have ht : t.endsHead = true := hrest
      simp [ht]
  have hall : ∀ t ∈ head, (!t.endsHead) = true := fun t ht => by rw [h t ht]; rfl
  rw [List.takeWhile_append_of_pos hall, List.dropWhile_append_of_pos hall, hstop.1, hstop.2]
  exact ⟨List.append_nil _, rfl⟩

/-- The reading of a statement without a condition. -/
theorem reading?_of_unfiltered {text : String} {params : List Param} {hs ts : List SqlToken}
    (htokens : sqlTokens? params text.toList = some (hs ++ ts))
    (hhead : ∀ t ∈ hs, t.endsHead = false) (horder : ts.head?.all (· == .key .ORDER)) :
    Statement.reading? ⟨text, params⟩ = some ⟨hs, none, ts⟩ := by
  have hends : ts.head?.all SqlToken.endsHead := by
    cases ts with
    | nil => rfl
    | cons t ts => rw [eq_of_beq (show (t == .key .ORDER) = true from horder)]; rfl
  obtain ⟨htake, hdrop⟩ := takeWhile_append_of_all hhead hends
  simp only [Statement.reading?, htokens, Option.bind_eq_bind, Option.bind_some, htake, hdrop]
  split
  · cases eq_of_beq horder
  · rfl

/-- The reading of a statement with a condition. -/
theorem reading?_of_condition {text : String} {params : List Param} {hs us ts : List SqlToken}
    {c : SqlCondition}
    (htokens : sqlTokens? params text.toList = some (hs ++ .key .WHERE :: (us ++ ts)))
    (hhead : ∀ t ∈ hs, t.endsHead = false) (hc : IsDisjunction us c)
    (horder : ts.head?.all (· == .key .ORDER)) :
    Statement.reading? ⟨text, params⟩ = some ⟨hs, some c, ts⟩ := by
  have hends : (SqlToken.key .WHERE :: (us ++ ts)).head?.all SqlToken.endsHead := rfl
  obtain ⟨htake, hdrop⟩ := takeWhile_append_of_all hhead hends
  have hother (word : SqlKeyword) (hword : word ≠ .ORDER) : ts.head? ≠ some (.key word) := by
    intro heq
    rw [heq] at horder
    exact hword (by simpa using horder)
  have hread := readCondition?_of_isDisjunction hc (hother .AND (by decide)) (hother .OR (by decide))
  simp only [Statement.reading?, htokens, Option.bind_eq_bind, Option.bind_some, htake, hdrop,
    hread, horder, if_true]

/-- A statement is read as its three parts. The tail is empty or begins with the order, and there is
a condition unless the clause is empty. -/
theorem reading?_of_saysWhere {head clause tail : String} {P Q R : List Param}
    {hs ts : List SqlToken} {truth : (D : SqlDialect) → D.Row → Truth}
    (hhead : IsHead head.toList P hs) (hclause : SaysWhere clause Q truth)
    (htail : sqlTokens? R tail.toList = some ts) (horder : ts.head?.all (· == .key .ORDER))
    (hapart : tail.toList.head?.all isApart) :
    ∃ condition, Statement.reading? ⟨head ++ clause ++ tail, P ++ Q ++ R⟩ =
        some ⟨hs, condition, ts⟩ ∧ condition.isSome = (clause != "") ∧
      ∀ D row, SqlReading.truth D row ⟨hs, condition, ts⟩ = truth D row := by
  obtain ⟨hhead, hends⟩ := hhead
  rcases hclause with ⟨rfl, rfl, hyes⟩ | ⟨text, rfl, c, ⟨us, hus, hc⟩, htruth⟩
  · refine ⟨none, ?_, rfl, fun D row => (hyes D row).symm⟩
    have htokens := sqlTokens?_append hhead htail (.inl hapart)
    refine reading?_of_unfiltered ?_ hends horder
    simpa using htokens
  · refine ⟨some c, ?_, by simp, htruth⟩
    have hwhere : sqlTokens? [] " WHERE ".toList = some [.key .WHERE] := rfl
    have hrest := sqlTokens?_append hus htail (.inl hapart)
    have htokens := sqlTokens?_joined hhead hwhere hrest rfl rfl
    refine reading?_of_condition ?_ hends hc horder
    simpa only [String.toList_append, List.append_assoc, List.singleton_append] using htokens

/-- A statement that ends with its clause. -/
theorem reading?_of_saysWhere_end {head clause : String} {P Q : List Param} {hs : List SqlToken}
    {truth : (D : SqlDialect) → D.Row → Truth} (hhead : IsHead head.toList P hs)
    (hclause : SaysWhere clause Q truth) :
    ∃ condition, Statement.reading? ⟨head ++ clause, P ++ Q⟩ = some ⟨hs, condition, []⟩ ∧
      condition.isSome = (clause != "") ∧
      ∀ D row, SqlReading.truth D row ⟨hs, condition, []⟩ = truth D row := by
  have hnil : sqlTokens? [] "".toList = some [] := rfl
  have h := reading?_of_saysWhere hhead hclause hnil rfl rfl
  rwa [String.append_empty, List.append_nil] at h

/-! ## Clauses -/

namespace Plan

/-- The clause of a plan. -/
def clause : Plan → String
  | .builder comparisons => (builderClause comparisons).sql
  | .raw text _ => rawClause text

/-- The parameters of a plan's clause. -/
def params : Plan → List Param
  | .builder comparisons => comparisons.flatMap Comparison.draftParams
  | .raw _ params => params

/-- The comparisons of a plan that is built are proper comparisons of values. -/
def IsProper : Plan → Prop
  | .builder comparisons => ∀ c ∈ comparisons, c.IsProper ∧ c.castToText = false
  | .raw .. => True

end Plan

theorem builderClause_values (cs : List Comparison) :
    (builderClause cs).values = cs.flatMap fun c => c.draft.values := by
  match cs with
  | [] => rfl
  | [c] => simp [builderClause]
  | c :: d :: cs => rfl

theorem mapM_ofBound_builderClause {cs : List Comparison}
    (h : ∀ c ∈ cs, c.IsProper ∧ c.castToText = false) :
    (builderClause cs).values.mapM Param.ofBound = .ok (cs.flatMap Comparison.draftParams) := by
  rw [builderClause_values]
  induction cs with
  | nil => rfl
  | cons c cs ih =>
    obtain ⟨hproper, hcast⟩ := h c (by simp)
    have hrest := ih fun d hd => h d (by simp [hd])
    rw [List.flatMap_cons, List.flatMap_cons, List.mapM_append, hrest,
      Comparison.mapM_ofBound_draft hproper hcast]
    rfl

theorem saysWhere_builderClause {cs : List Comparison}
    (h : ∀ c ∈ cs, c.IsProper ∧ c.castToText = false) :
    SaysWhere (builderClause cs).sql (cs.flatMap Comparison.draftParams)
      fun D row => .all (cs.map (Comparison.truth D row)) := by
  match cs with
  | [] => exact .inl ⟨rfl, rfl, fun D row => rfl⟩
  | [c] =>
    obtain ⟨hproper, hcast⟩ := h c (by simp)
    have hone := (Comparison.says_draft hproper hcast).isConjunction.isDisjunction
    exact .inr ⟨_, rfl, by simpa using hone⟩
  | c :: d :: cs =>
    have hall := says_all (List.cons_ne_nil c (d :: cs)) fun e he =>
      Comparison.says_amongOthers (h e he).1 (h e he).2
    refine .inr ⟨_, rfl, ?_⟩
    rw [String.toList_intercalate, List.map_map]
    exact hall.isDisjunction

/-- Nothing is not a disjunction. -/
theorem not_isDisjunction_nil (c : SqlCondition) : ¬IsDisjunction [] c := by
  intro h
  have hread := h 2 [] (by simp) (by simp) (by simp)
  cases hread

/-- Predicates are not written out as nothing. -/
theorem conjunction_ne_empty {ps : List Predicate} (hne : ps ≠ []) (h : ∀ p ∈ ps, p.IsProper) :
    Predicate.conjunction ps ≠ "" := by
  intro hempty
  obtain ⟨c, ⟨ts, hts, hc⟩, -⟩ := (Predicate.says_conjunction hne h).isDisjunction
  rw [hempty] at hts
  cases hparams : Predicate.paramsOfAll ps with
  | nil =>
    rw [hparams] at hts
    cases hts
    exact not_isDisjunction_nil c hc
  | cons q qs =>
    rw [hparams] at hts
    cases hts

theorem saysWhere_rawClause {ps : List Predicate} (h : ∀ p ∈ ps, p.IsProper) :
    SaysWhere (rawClause (Predicate.conjunction ps)) (Predicate.paramsOfAll ps)
      fun D row => .all (ps.map (Predicate.truth D row)) := by
  by_cases hne : ps = []
  · subst hne
    exact .inl ⟨rfl, rfl, fun D row => rfl⟩
  · have htext := conjunction_ne_empty hne h
    exact .inr ⟨_, by rw [rawClause]; simp [htext],
      (Predicate.says_conjunction hne h).isDisjunction⟩

/-! ## Plans of filters -/

theorem lower_isGroup {n : Nat} {table : Table} {f : Filter} {p : Predicate}
    (h : lower n table f = .ok (some p)) (hf : f.isGroup = false) :
    ∃ c, p = .compare c := by
  cases f with
  | condition c =>
    unfold lower at h
    split at h
    · cases h
    · obtain ⟨cmp, -, h⟩ := bind_eq_ok.mp h
      cases h
      exact ⟨cmp, rfl⟩
  | group => cases hf

theorem lowerAll_comparisons {n : Nat} {table : Table} {fs : List Filter} {ps : List Predicate}
    (h : lowerAll n table fs = .ok ps) (hfs : fs.any Filter.isGroup = false) :
    ps = (ps.filterMap Predicate.comparison?).map .compare := by
  induction fs generalizing ps with
  | nil => cases h; rfl
  | cons f rest ih =>
    obtain ⟨p, hp, h⟩ := bind_eq_ok.mp h
    obtain ⟨more, hmore, h⟩ := bind_eq_ok.mp h
    cases h
    rw [List.any_cons, Bool.or_eq_false_iff] at hfs
    have hrest := ih hmore hfs.2
    cases p with
    | none => exact hrest
    | some p =>
      obtain ⟨c, rfl⟩ := lower_isGroup hp hfs.1
      simpa [Predicate.comparison?] using hrest

theorem anyCasts_eq_false {ps : List Predicate} (h : Predicate.anyCasts ps = false)
    {c : Comparison} (hc : .compare c ∈ ps) : c.castToText = false := by
  induction ps with
  | nil => cases hc
  | cons p rest ih =>
    rw [Predicate.anyCasts, Bool.or_eq_false_iff] at h
    cases hc with
    | head => exact h.1
    | tail _ hc => exact ih h.2 hc

/-- A plan that is built has proper comparisons of values. -/
theorem planFor_isProper {n : Nat} {table : Table} {fs : List Filter} {ps : List Predicate}
    (h : lowerAll n table fs = .ok ps) : (planFor fs ps).IsProper := by
  unfold planFor
  split
  · trivial
  · rename_i hplan
    rw [Bool.not_eq_true, Bool.or_eq_false_iff] at hplan
    intro c hc
    have hmem : Predicate.compare c ∈ ps := by
      rw [lowerAll_comparisons h hplan.1]
      exact List.mem_map_of_mem hc
    refine ⟨?_, anyCasts_eq_false hplan.2 hmem⟩
    cases lowerAll_isProper fs h _ hmem with
    | compare h => exact h

/-- A plan has no condition if nothing is left of its filters. -/
theorem planFor_isUnfiltered {n : Nat} {table : Table} {fs : List Filter} {ps : List Predicate}
    (h : lowerAll n table fs = .ok ps) : (planFor fs ps).isUnfiltered = ps.isEmpty := by
  unfold planFor
  split
  · cases ps with
    | nil => rfl
    | cons p rest =>
      have htext := conjunction_ne_empty (List.cons_ne_nil p rest) (lowerAll_isProper fs h)
      simpa [Plan.isUnfiltered] using htext
  · rename_i hplan
    rw [Bool.not_eq_true, Bool.or_eq_false_iff] at hplan
    have hps := lowerAll_comparisons h hplan.1
    rw [Plan.isUnfiltered, hps, List.isEmpty_map, ← hps]

/-- The clause of filters says that all the predicates hold that they are lowered to. -/
theorem planFor_saysWhere {n : Nat} {table : Table} {fs : List Filter} {ps : List Predicate}
    (h : lowerAll n table fs = .ok ps) :
    SaysWhere (planFor fs ps).clause (planFor fs ps).params
      fun D row => .all (ps.map (Predicate.truth D row)) := by
  have hproper := planFor_isProper h
  unfold planFor at hproper ⊢
  split at hproper
  · rename_i hplan
    rw [if_pos hplan]
    exact saysWhere_rawClause (lowerAll_isProper fs h)
  · rename_i hplan
    rw [if_neg hplan]
    rw [Bool.not_eq_true, Bool.or_eq_false_iff] at hplan
    have hclause := saysWhere_builderClause hproper
    have hps := lowerAll_comparisons h hplan.1
    have htruth (D : SqlDialect) (row : D.Row) : ps.map (Predicate.truth D row) =
        (ps.filterMap Predicate.comparison?).map (Comparison.truth D row) := by
      rw [hps, List.map_map, ← hps]
      rfl
    simp only [htruth]
    exact hclause

theorem Draft.finish_eq_ok {sql : String} {values : List BoundValue} {s : Statement} :
    Draft.finish ⟨sql, values⟩ = .ok s ↔
      ∃ params, values.mapM Param.ofBound = .ok params ∧ s = ⟨sql, params⟩ := by
  unfold finish
  constructor
  · intro h
    obtain ⟨params, hparams, h⟩ := bind_eq_ok.mp h
    exact ⟨params, hparams, (pure_eq_ok.mp h).symm⟩
  · rintro ⟨params, hparams, rfl⟩
    exact bind_eq_ok.mpr ⟨params, hparams, rfl⟩

theorem pageParam_eq_ok {n : Nat} {p : Param} :
    pageParam n = .ok p ↔ (n : Int) ≤ maxInt64 ∧ p = .int n := by
  simp only [pageParam]
  split
  · rename_i h
    simp [h, eq_comm]
  · rename_i h
    simp [h]

/-- A limit or offset as a parameter, with the fault that the plan gives it. -/
def Plan.pageParam : Plan → Nat → Except RequestFault Param
  | .builder _, n => Param.ofBound (.unsigned (some n))
  | .raw .., n => TableQuery.pageParam n

theorem Plan.pageParam_eq_ok {plan : Plan} {n : Nat} {p : Param} :
    plan.pageParam n = .ok p ↔ (n : Int) ≤ maxInt64 ∧ p = .int n := by
  cases plan with
  | builder =>
    simp only [pageParam, Param.ofBound]
    split
    · rename_i h
      simp [h, eq_comm]
    · rename_i h
      simp [h]
  | raw => exact TableQuery.pageParam_eq_ok

/-- The statement of a draft whose last values are those of a page. -/
theorem Draft.finish_page {sql : String} {values : List BoundValue} {params : List Param}
    (cs : List Comparison) (h : values.mapM Param.ofBound = .ok params) (limit offset : Nat) :
    Draft.finish ⟨sql, values ++ [.unsigned (some limit), .unsigned (some offset)]⟩ =
      (Plan.builder cs).pageParam limit >>= fun limit =>
        (Plan.builder cs).pageParam offset >>= fun offset =>
          .ok ⟨sql, params ++ [limit, offset]⟩ := by
  unfold finish
  simp only [List.mapM_append, h, List.mapM_cons, List.mapM_nil]
  cases hlimit : Param.ofBound (.unsigned (some limit)) with
  | error fault => simp only [Plan.pageParam, hlimit]; rfl
  | ok first =>
    cases hoffset : Param.ofBound (.unsigned (some offset)) with
    | error fault => simp only [Plan.pageParam, hlimit, hoffset]; rfl
    | ok second => simp only [Plan.pageParam, hlimit, hoffset]; rfl

/-! ## Statements of proper plans -/

/-- A read of rows is stated if its limit and its offset are in range. -/
theorem selectRows_eq {q : Query} (h : q.plan.IsProper) :
    selectRows q = q.plan.pageParam q.page.limit >>= fun limit =>
      q.plan.pageParam q.page.offset >>= fun offset =>
        .ok ⟨selectHead q ++ q.plan.clause ++ selectTail, q.plan.params ++ [limit, offset]⟩ := by
  unfold selectRows
  cases hplan : q.plan with
  | builder comparisons =>
    rw [hplan] at h
    exact Draft.finish_page comparisons (mapM_ofBound_builderClause h) _ _
  | raw text params => rfl

/-- A count can always be stated. -/
theorem selectCount_eq {q : Query} (h : q.plan.IsProper) :
    selectCount q = .ok ⟨countHead q ++ q.plan.clause, q.plan.params⟩ := by
  unfold selectCount
  cases hplan : q.plan with
  | builder comparisons =>
    rw [hplan] at h
    exact Draft.finish_eq_ok.mpr ⟨_, mapM_ofBound_builderClause h, rfl⟩
  | raw text params => rfl

theorem deleteRows_eq {q : Query} (h : q.plan.IsProper) :
    deleteRows q = .ok ⟨deleteHead q ++ q.plan.clause, q.plan.params⟩ := by
  unfold deleteRows
  cases hplan : q.plan with
  | builder comparisons =>
    rw [hplan] at h
    exact Draft.finish_eq_ok.mpr ⟨_, mapM_ofBound_builderClause h, rfl⟩
  | raw text params => rfl

theorem mapM_ofBound_assignments (assignments : List (String × Param)) :
    (assignments.map (·.2.toBound)).mapM Param.ofBound = .ok (assignments.map (·.2)) := by
  have h := Param.mapM_ofBound_toBound (assignments.map (·.2))
  rwa [List.map_map] at h

/-- An update is stated if it sets anything. -/
theorem updateRows_eq {q : Query} (h : q.plan.IsProper) (assignments : List (String × Param)) :
    updateRows q assignments = if assignments.isEmpty then .error .nothingToSet
      else .ok ⟨updateHead q assignments ++ q.plan.clause,
        assignments.map (·.2) ++ q.plan.params⟩ := by
  unfold updateRows
  split
  · rfl
  · cases hplan : q.plan with
    | builder comparisons =>
      rw [hplan] at h
      refine Draft.finish_eq_ok.mpr ⟨_, ?_, rfl⟩
      rw [List.mapM_append, mapM_ofBound_assignments, mapM_ofBound_builderClause h]
      rfl
    | raw text params => rfl

/-! ## Heads and tails -/

theorem IsHead.append {a b : List Char} {P Q : List Param} {ts us : List SqlToken}
    (ha : IsHead a P ts) (hb : IsHead b Q us) (hab : StandApart a b) :
    IsHead (a ++ b) (P ++ Q) (ts ++ us) := by
  refine ⟨sqlTokens?_append ha.1 hb.1 hab, fun t ht => ?_⟩
  rcases List.mem_append.mp ht with ht | ht
  · exact ha.2 t ht
  · exact hb.2 t ht

theorem isHead_quoteIdentifier (name : String) :
    IsHead (quoteIdentifier name).toList [] [.name name] :=
  ⟨sqlTokens?_quoteIdentifier name, by simp [SqlToken.endsHead]⟩

/-- Texts with commas between them. -/
theorem isHead_commas {α : Type} (text : α → String) (params : α → List Param)
    (tokens : α → List SqlToken) (xs : List α)
    (h : ∀ x ∈ xs, IsHead (text x).toList (params x) (tokens x)) :
    IsHead (", ".intercalate (xs.map text)).toList (xs.flatMap params)
      (withCommas (xs.map tokens)) := by
  have hcomma : sqlTokens? [] ", ".toList = some [.sign .comma] := rfl
  rw [String.toList_intercalate, List.map_map]
  refine ⟨sqlTokens?_intercalate hcomma rfl rfl _ params tokens xs fun x hx => (h x hx).1,
    fun t ht => ?_⟩
  rcases mem_withCommas ht with rfl | ⟨item, hitem, ht⟩
  · rfl
  · obtain ⟨x, hx, rfl⟩ := List.mem_map.mp hitem
    exact (h x hx).2 t ht

/-- The tokens of names with commas between them. -/
def nameTokens (names : List String) : List SqlToken := withCommas (names.map fun n => [.name n])

theorem isHead_names (names : List String) :
    IsHead (", ".intercalate (names.map quoteIdentifier)).toList [] (nameTokens names) := by
  have h := isHead_commas quoteIdentifier (fun _ => []) _ names fun n _ => isHead_quoteIdentifier n
  have hparams : (names.flatMap fun _ => ([] : List Param)) = [] := by simp
  rwa [hparams] at h

theorem nameTokens_ne_key {names : List String} {t : SqlToken} (h : t ∈ nameTokens names)
    (word : SqlKeyword) : t ≠ .key word := by
  rcases mem_withCommas h with rfl | ⟨item, hitem, h⟩
  · simp
  · obtain ⟨n, -, rfl⟩ := List.mem_map.mp hitem
    cases List.mem_singleton.mp h
    simp

/-- The tokens before the condition of a read of rows end with its table. -/
theorem isHead_selectHead (q : Query) :
    ∃ ts, IsHead (selectHead q).toList [] (.key .SELECT :: ts ++ [.key .FROM, .name q.table]) ∧
      ∀ t ∈ ts, ∀ word, t ≠ .key word := by
  have hselect : IsHead "SELECT ".toList [] [.key .SELECT] := ⟨rfl, by simp [SqlToken.endsHead]⟩
  have hfrom : IsHead " FROM ".toList [] [.key .FROM] := ⟨rfl, by simp [SqlToken.endsHead]⟩
  have htable := hfrom.append (isHead_quoteIdentifier q.table) (.inr rfl)
  have hall := hselect.append ((isHead_names q.columns).append htable (.inl rfl)) (.inr rfl)
  refine ⟨nameTokens q.columns, ?_, fun t => nameTokens_ne_key⟩
  simp only [selectHead, String.toList_append, List.append_assoc]
  exact hall

theorem isHead_count :
    IsHead "SELECT COUNT(*) FROM ".toList [] [.key .SELECT, .key .COUNT, .sign .leftParen,
      .sign .star, .sign .rightParen, .key .FROM] :=
  ⟨rfl, by simp [SqlToken.endsHead]⟩

theorem isHead_countHead (q : Query) :
    IsHead (countHead q).toList [] [.key .SELECT, .key .COUNT, .sign .leftParen, .sign .star,
      .sign .rightParen, .key .FROM, .name q.table] := by
  have hall := isHead_count.append (isHead_quoteIdentifier q.table) (.inr rfl)
  unfold countHead
  rw [String.toList_append]
  exact hall

/-- The parameters of a page are its limit and its offset. -/
def PageRequest.params (p : PageRequest) : List Param := [.int p.limit, .int p.offset]

theorem selectRows_eq_ok {q : Query} (h : q.plan.IsProper) {s : Statement}
    (hs : selectRows q = .ok s) :
    s = ⟨selectHead q ++ q.plan.clause ++ selectTail, q.plan.params ++ q.page.params⟩ := by
  rw [selectRows_eq h] at hs
  obtain ⟨limit, hlimit, hs⟩ := bind_eq_ok.mp hs
  obtain ⟨offset, hoffset, hs⟩ := bind_eq_ok.mp hs
  obtain ⟨-, rfl⟩ := Plan.pageParam_eq_ok.mp hlimit
  obtain ⟨-, rfl⟩ := Plan.pageParam_eq_ok.mp hoffset
  cases hs
  rfl

/-- The tokens after the condition of a read of rows. -/
def PageRequest.tokens (p : PageRequest) : List SqlToken :=
  [.key .ORDER, .key .BY, .name keyColumnName, .key .ASC, .key .LIMIT, .param (.int p.limit),
    .key .OFFSET, .param (.int p.offset)]

theorem sqlTokens?_selectTail (p : PageRequest) :
    sqlTokens? p.params selectTail.toList = some p.tokens := by
  have horder : sqlTokens? [] " ORDER BY ".toList = some [.key .ORDER, .key .BY] := rfl
  have hlimit : sqlTokens? p.params " ASC LIMIT ? OFFSET ?".toList =
      some [.key .ASC, .key .LIMIT, .param (.int p.limit), .key .OFFSET,
        .param (.int p.offset)] := rfl
  have hkey := sqlTokens?_append (sqlTokens?_quoteIdentifier keyColumnName) hlimit (.inl rfl)
  have hall := sqlTokens?_append horder hkey (.inr rfl)
  simp only [selectTail, String.toList_append, List.append_assoc]
  exact hall

end TableQuery
