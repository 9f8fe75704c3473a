import TableQuery.Cell
import TableQuery.Filter.Predicate
import TableQuery.Proofs.Sql.Reading

/-!
# Texts of conditions

How the tokens of a text are read whose parts are read already, and what conditions say that are
put together with `AND`, `OR` and parentheses.

* `Reads`: a text with its parameters has tokens that are read in some way.
* `Says`: a text with its parameters is read as a condition of the given truth.
* `reads_textExpression`: the text of a column's value, as filters write it.
* `says_all`, `says_any`: conditions with a connective between them.
-/

namespace TableQuery

/-- A text with its parameters has tokens that `reads` relates to `a`. -/
def Reads {α : Type} (reads : List SqlToken → α → Prop) (text : List Char) (params : List Param)
    (a : α) : Prop :=
  ∃ tokens, sqlTokens? params text = some tokens ∧ reads tokens a

/-! ## Fixed pieces -/

private theorem tokens_and : sqlTokens? [] " AND ".toList = some [.key .AND] := rfl

private theorem tokens_or : sqlTokens? [] " OR ".toList = some [.key .OR] := rfl

private theorem tokens_ilike : sqlTokens? [] " ILIKE ".toList = some [.key .ILIKE] := rfl

private theorem tokens_isNull : sqlTokens? [] " IS NULL".toList = some [.key .IS, .key .NULL] := rfl

private theorem tokens_isNotNull :
    sqlTokens? [] " IS NOT NULL".toList = some [.key .IS, .key .NOT, .key .NULL] := rfl

private theorem tokens_in : sqlTokens? [] " IN (".toList = some [.key .IN, .sign .leftParen] := rfl

private theorem tokens_notIn :
    sqlTokens? [] " NOT IN (".toList = some [.key .NOT, .key .IN, .sign .leftParen] := rfl

private theorem tokens_caseWhen :
    sqlTokens? [] "CASE WHEN ".toList = some [.key .CASE, .key .WHEN] := rfl

private theorem tokens_then : sqlTokens? [] " THEN ".toList = some [.key .THEN] := rfl

private theorem tokens_else : sqlTokens? [] " ELSE ".toList = some [.key .ELSE] := rfl

private theorem tokens_end : sqlTokens? [] " END".toList = some [.key .END] := rfl

private theorem tokens_cast :
    sqlTokens? [] "CAST(".toList = some [.key .CAST, .sign .leftParen] := rfl

private theorem tokens_open : sqlTokens? [] ['('] = some [.sign .leftParen] := rfl

private theorem tokens_close : sqlTokens? [] [')'] = some [.sign .rightParen] := rfl

private theorem tokens_asVarchar :
    sqlTokens? [] " AS VARCHAR)".toList = some [.key .AS, .key .VARCHAR, .sign .rightParen] := rfl

private theorem tokens_asBigint :
    sqlTokens? [] " AS BIGINT)".toList = some [.key .AS, .key .BIGINT, .sign .rightParen] := rfl

private theorem tokens_trunc :
    sqlTokens? [] "TRUNC(".toList = some [.key .TRUNC, .sign .leftParen] := rfl

private theorem tokens_abs :
    sqlTokens? [] "ABS(".toList = some [.key .ABS, .sign .leftParen] := rfl

private theorem tokens_limit : sqlTokens? [] "1e18".toList = some [.other "1e18"] := by
  decide +kernel

/-! ## Texts that are put together -/

section

variable {a b : List Char} {P Q : List Param} {v w : SqlValue} {c d : SqlCondition}

theorem reads_quoteIdentifier (n : String) :
    Reads IsValue (quoteIdentifier n).toList [] (.column n) :=
  ⟨_, sqlTokens?_quoteIdentifier n, isValue_name n⟩

theorem reads_placeholder (p : Param) : Reads IsValue ['?'] [p] (.constant p) :=
  ⟨_, sqlTokens?_placeholder p, isValue_param p⟩

theorem Reads.call {word : SqlKeyword} {f : SqlFunction} {opening : List Char}
    (h : Reads IsValue a P v)
    (hw : sqlTokens? [] opening = some [.key word, .sign .leftParen])
    (hlast : opening.getLast?.all opensApart) (hf : SqlFunction.ofKeyword? word = some f) :
    Reads IsValue (opening ++ (a ++ [')'])) P (.call f v) := by
  obtain ⟨tokens, ht, hv⟩ := h
  exact ⟨_, sqlTokens?_enclosed hw ht tokens_close hlast rfl, hv.call hf⟩

theorem Reads.cast {type : SqlKeyword} {f : SqlFunction} {ending : List Char}
    (h : Reads IsValue a P v)
    (hw : sqlTokens? [] ending = some [.key .AS, .key type, .sign .rightParen])
    (hfirst : ending.head?.all isApart) (hf : SqlFunction.ofType? type = some f) :
    Reads IsValue ("CAST(".toList ++ (a ++ ending)) P (.call f v) := by
  obtain ⟨tokens, ht, hv⟩ := h
  exact ⟨_, sqlTokens?_enclosed tokens_cast ht hw rfl hfirst, hv.cast hf⟩

theorem Reads.compare {sign : SqlSign} {comparison : SqlComparison} {between : List Char}
    (hv : Reads IsValue a P v) (hw : Reads IsValue b Q w)
    (hb : sqlTokens? [] between = some [.sign sign]) (hfirst : between.head?.any isApart)
    (hlast : between.getLast?.all opensApart) (hs : sign.comparison? = some comparison) :
    Reads IsFactor (a ++ (between ++ b)) (P ++ Q) (.compare comparison v w) := by
  obtain ⟨ts, ht, hv⟩ := hv
  obtain ⟨us, hu, hw⟩ := hw
  exact ⟨_, sqlTokens?_joined ht hb hu hfirst hlast, hv.compare hw hs⟩

theorem Reads.like (hv : Reads IsValue a P v) (hw : Reads IsValue b Q w) :
    Reads IsFactor (a ++ (" ILIKE ".toList ++ b)) (P ++ Q) (.like v w) := by
  obtain ⟨ts, ht, hv⟩ := hv
  obtain ⟨us, hu, hw⟩ := hw
  exact ⟨_, sqlTokens?_joined ht tokens_ilike hu rfl rfl, hv.like hw⟩

theorem Reads.isNull (h : Reads IsValue a P v) :
    Reads IsFactor (a ++ " IS NULL".toList) P (.isNull v) := by
  obtain ⟨ts, ht, hv⟩ := h
  exact ⟨_, by simpa using sqlTokens?_append ht tokens_isNull (.inl rfl), hv.isNull⟩

theorem Reads.isNotNull (h : Reads IsValue a P v) :
    Reads IsFactor (a ++ " IS NOT NULL".toList) P (.isNotNull v) := by
  obtain ⟨ts, ht, hv⟩ := h
  exact ⟨_, by simpa using sqlTokens?_append ht tokens_isNotNull (.inl rfl), hv.isNotNull⟩

theorem sqlTokens?_placeholders (ps : List Param) :
    sqlTokens? ps (placeholders ps).toList = some (itemTokens ps) := by
  have hcomma : sqlTokens? [] ", ".toList = some [.sign .comma] := rfl
  have h := sqlTokens?_intercalate hcomma rfl rfl (fun _ => ['?']) (fun p => [p])
    (fun p => [.param p]) ps fun p _ => sqlTokens?_placeholder p
  simpa [placeholders, itemTokens, Function.comp_def] using h

theorem Reads.isIn (h : Reads IsValue a [] v) {ps : List Param} (hps : ps ≠ []) :
    Reads IsFactor (a ++ (" IN (".toList ++ ((placeholders ps).toList ++ [')']))) ps
      (.isIn v ps) := by
  obtain ⟨ts, ht, hv⟩ := h
  have hitems := sqlTokens?_enclosed tokens_in (sqlTokens?_placeholders ps) tokens_close rfl rfl
  exact ⟨_, sqlTokens?_append ht hitems (.inl rfl), hv.isIn hps⟩

theorem Reads.isNotIn (h : Reads IsValue a [] v) {ps : List Param} (hps : ps ≠ []) :
    Reads IsFactor (a ++ (" NOT IN (".toList ++ ((placeholders ps).toList ++ [')']))) ps
      (.isNotIn v ps) := by
  obtain ⟨ts, ht, hv⟩ := h
  have hitems := sqlTokens?_enclosed tokens_notIn (sqlTokens?_placeholders ps) tokens_close rfl rfl
  exact ⟨_, sqlTokens?_append ht hitems (.inl rfl), hv.isNotIn hps⟩

theorem Reads.isConjunction (h : Reads IsFactor a P c) : Reads IsConjunction a P c := by
  obtain ⟨ts, ht, hc⟩ := h
  exact ⟨ts, ht, hc.isConjunction⟩

theorem Reads.isDisjunction (h : Reads IsConjunction a P c) : Reads IsDisjunction a P c := by
  obtain ⟨ts, ht, hc⟩ := h
  exact ⟨ts, ht, hc.isDisjunction⟩

theorem Reads.and (hc : Reads IsFactor a P c) (hd : Reads IsConjunction b Q d) :
    Reads IsConjunction (a ++ (" AND ".toList ++ b)) (P ++ Q) (.and c d) := by
  obtain ⟨ts, ht, hc⟩ := hc
  obtain ⟨us, hu, hd⟩ := hd
  exact ⟨_, sqlTokens?_joined ht tokens_and hu rfl rfl, hc.and hd⟩

theorem Reads.or (hc : Reads IsConjunction a P c) (hd : Reads IsDisjunction b Q d) :
    Reads IsDisjunction (a ++ (" OR ".toList ++ b)) (P ++ Q) (.or c d) := by
  obtain ⟨ts, ht, hc⟩ := hc
  obtain ⟨us, hu, hd⟩ := hd
  exact ⟨_, sqlTokens?_joined ht tokens_or hu rfl rfl, hc.or hd⟩

theorem Reads.parentheses (h : Reads IsDisjunction a P c) :
    Reads IsFactor (['('] ++ (a ++ [')'])) P c := by
  obtain ⟨ts, ht, hc⟩ := h
  exact ⟨_, sqlTokens?_enclosed tokens_open ht tokens_close rfl rfl, hc.parentheses⟩

theorem Reads.choice {e : List Char} {y n : SqlValue} (hc : Reads IsDisjunction a [] c)
    (hy : Reads IsValue b [] y) (hn : Reads IsValue e [] n) :
    Reads IsValue ("CASE WHEN ".toList ++
      (a ++ (" THEN ".toList ++ (b ++ (" ELSE ".toList ++ (e ++ " END".toList)))))) []
      (.choice c y n) := by
  obtain ⟨cs, hcs, hc⟩ := hc
  obtain ⟨ys, hys, hy⟩ := hy
  obtain ⟨ns, hns, hn⟩ := hn
  have hend := sqlTokens?_append hns tokens_end (.inl rfl)
  have helse := sqlTokens?_joined hys tokens_else hend rfl rfl
  have hthen := sqlTokens?_joined hcs tokens_then helse rfl rfl
  exact ⟨_, sqlTokens?_append tokens_caseWhen hthen (.inr rfl), hc.choice hy hn⟩

end

/-! ## Text forms -/

theorem ofNumeral?_wholeLimit : Param.ofNumeral? "1e18" = some (.float wholeLimit) := by
  decide +kernel

theorem reads_wholeLimit : Reads IsValue "1e18".toList [] (.constant (.float wholeLimit)) :=
  ⟨_, tokens_limit, isValue_other ofNumeral?_wholeLimit⟩

/-- The text of a column's value as an expression. -/
def textValue (column : String) : ColumnType → SqlValue
  | .number =>
    .choice
      (.and (.compare .eq (.column column) (.call .trunc (.column column)))
        (.compare .lt (.call .abs (.column column)) (.constant (.float wholeLimit))))
      (.call .toVarchar (.call .toBigint (.column column))) (.call .toVarchar (.column column))
  | _ => .call .toVarchar (.column column)

theorem Reads.varchar {a : List Char} {v : SqlValue} (h : Reads IsValue a [] v) :
    Reads IsValue ("CAST(".toList ++ (a ++ " AS VARCHAR)".toList)) [] (.call .toVarchar v) :=
  h.cast tokens_asVarchar rfl rfl

theorem reads_wholeText (column : String) :
    Reads IsValue ("CAST(".toList ++ (("CAST(".toList ++ ((quoteIdentifier column).toList ++
      " AS BIGINT)".toList)) ++ " AS VARCHAR)".toList)) []
      (.call .toVarchar (.call .toBigint (.column column))) :=
  ((reads_quoteIdentifier column).cast tokens_asBigint rfl rfl).varchar

theorem reads_isWhole (column : String) :
    Reads IsFactor ((quoteIdentifier column).toList ++ (" = ".toList ++ ("TRUNC(".toList ++
      ((quoteIdentifier column).toList ++ [')'])))) []
      (.compare .eq (.column column) (.call .trunc (.column column))) := by
  have hc := reads_quoteIdentifier column
  have htrunc := hc.call tokens_trunc rfl rfl
  have heq : sqlTokens? [] " = ".toList = some [.sign .eq] := rfl
  exact hc.compare htrunc heq rfl rfl rfl

theorem reads_isSmall (column : String) :
    Reads IsFactor (("ABS(".toList ++ ((quoteIdentifier column).toList ++ [')'])) ++
      (" < ".toList ++ "1e18".toList)) []
      (.compare .lt (.call .abs (.column column)) (.constant (.float wholeLimit))) := by
  have habs := (reads_quoteIdentifier column).call tokens_abs rfl rfl
  have hlt : sqlTokens? [] " < ".toList = some [.sign .lt] := rfl
  exact habs.compare reads_wholeLimit hlt rfl rfl rfl

theorem toList_numberText (q : String) :
    (textExpression q .number).toList =
      "CASE WHEN ".toList ++ (((q.toList ++ (" = ".toList ++ ("TRUNC(".toList ++
        (q.toList ++ [')'])))) ++ (" AND ".toList ++ (("ABS(".toList ++ (q.toList ++ [')'])) ++
        (" < ".toList ++ "1e18".toList)))) ++ (" THEN ".toList ++ (("CAST(".toList ++
        (("CAST(".toList ++ (q.toList ++ " AS BIGINT)".toList)) ++ " AS VARCHAR)".toList)) ++
        (" ELSE ".toList ++ (("CAST(".toList ++ (q.toList ++ " AS VARCHAR)".toList)) ++
          " END".toList))))) := by
  have htrunc : " = TRUNC(".toList = " = ".toList ++ "TRUNC(".toList := rfl
  have habs : ") AND ABS(".toList = [')'] ++ (" AND ".toList ++ "ABS(".toList) := rfl
  have hthen : ") < 1e18 THEN CAST(CAST(".toList =
      [')'] ++ (" < ".toList ++ ("1e18".toList ++ (" THEN ".toList ++
        ("CAST(".toList ++ "CAST(".toList)))) := rfl
  have helse : " AS BIGINT) AS VARCHAR) ELSE CAST(".toList =
      " AS BIGINT)".toList ++ (" AS VARCHAR)".toList ++ (" ELSE ".toList ++ "CAST(".toList)) := rfl
  have hend : " AS VARCHAR) END".toList = " AS VARCHAR)".toList ++ " END".toList := rfl
  unfold textExpression
  simp only [String.toList_append, htrunc, habs, hthen, helse, hend, List.append_assoc]

theorem reads_numberText (column : String) :
    Reads IsValue (textExpression (quoteIdentifier column) .number).toList []
      (textValue column .number) := by
  have hboth := ((reads_isWhole column).and (reads_isSmall column).isConjunction).isDisjunction
  have hall := hboth.choice (reads_wholeText column) (reads_quoteIdentifier column).varchar
  rw [toList_numberText]
  exact hall

theorem reads_castText (column : String) :
    Reads IsValue ("CAST(" ++ quoteIdentifier column ++ " AS VARCHAR)").toList []
      (.call .toVarchar (.column column)) := by
  rw [String.toList_append, String.toList_append, List.append_assoc]
  exact (reads_quoteIdentifier column).varchar

theorem reads_textExpression (column : String) (type : ColumnType) :
    Reads IsValue (textExpression (quoteIdentifier column) type).toList []
      (textValue column type) := by
  cases type with
  | number => exact reads_numberText column
  | _ => exact reads_castText column

/-! ## What texts say -/

/-- A text with its parameters is read as a condition of the given truth. -/
def Says (reads : List SqlToken → SqlCondition → Prop) (text : List Char) (params : List Param)
    (truth : (D : SqlDialect) → D.Row → Truth) : Prop :=
  ∃ c, Reads reads text params c ∧ ∀ D row, c.truth D row = truth D row

section

variable {a b : List Char} {P Q : List Param} {s t : (D : SqlDialect) → D.Row → Truth}

theorem Says.isConjunction (h : Says IsFactor a P t) : Says IsConjunction a P t := by
  obtain ⟨c, hc, ht⟩ := h
  exact ⟨c, hc.isConjunction, ht⟩

theorem Says.isDisjunction (h : Says IsConjunction a P t) : Says IsDisjunction a P t := by
  obtain ⟨c, hc, ht⟩ := h
  exact ⟨c, hc.isDisjunction, ht⟩

theorem Says.parentheses (h : Says IsDisjunction a P t) :
    Says IsFactor (['('] ++ (a ++ [')'])) P t := by
  obtain ⟨c, hc, ht⟩ := h
  exact ⟨c, hc.parentheses, ht⟩

theorem Says.and (hs : Says IsFactor a P s) (ht : Says IsConjunction b Q t) :
    Says IsConjunction (a ++ (" AND ".toList ++ b)) (P ++ Q)
      fun D row => (s D row).and (t D row) := by
  obtain ⟨c, hc, hs⟩ := hs
  obtain ⟨d, hd, ht⟩ := ht
  exact ⟨_, hc.and hd, fun D row => by rw [SqlCondition.truth, hs, ht]⟩

theorem Says.or (hs : Says IsConjunction a P s) (ht : Says IsDisjunction b Q t) :
    Says IsDisjunction (a ++ (" OR ".toList ++ b)) (P ++ Q)
      fun D row => (s D row).or (t D row) := by
  obtain ⟨c, hc, hs⟩ := hs
  obtain ⟨d, hd, ht⟩ := ht
  exact ⟨_, hc.or hd, fun D row => by rw [SqlCondition.truth, hs, ht]⟩

variable {α : Type} {text : α → List Char} {params : α → List Param}
  {truth : α → (D : SqlDialect) → D.Row → Truth}

/-- Factors with `AND` between them say that all of them hold. -/
theorem says_all {xs : List α} (hxs : xs ≠ [])
    (h : ∀ x ∈ xs, Says IsFactor (text x) (params x) (truth x)) :
    Says IsConjunction (List.intercalate " AND ".toList (xs.map text)) (xs.flatMap params)
      fun D row => .all (xs.map (truth · D row)) := by
  induction xs with
  | nil => exact absurd rfl hxs
  | cons x xs ih =>
    have hx := h x (by simp)
    cases xs with
    | nil => simpa [List.intercalate] using hx.isConjunction
    | cons y ys =>
      have hrest := ih (by simp) fun z hz => h z (by simp [hz])
      rw [List.map_cons, List.map_cons, List.intercalate_cons_cons, List.append_assoc]
      exact hx.and hrest

/-- Terms with `OR` between them say that one of them holds. -/
theorem says_any {xs : List α} (hxs : xs ≠ [])
    (h : ∀ x ∈ xs, Says IsConjunction (text x) (params x) (truth x)) :
    Says IsDisjunction (List.intercalate " OR ".toList (xs.map text)) (xs.flatMap params)
      fun D row => .any (xs.map (truth · D row)) := by
  induction xs with
  | nil => exact absurd rfl hxs
  | cons x xs ih =>
    have hx := h x (by simp)
    cases xs with
    | nil => simpa [List.intercalate] using hx.isDisjunction
    | cons y ys =>
      have hrest := ih (by simp) fun z hz => h z (by simp [hz])
      rw [List.map_cons, List.map_cons, List.intercalate_cons_cons, List.append_assoc]
      exact hx.or hrest

end

end TableQuery
