import TableQuery.Proofs.Filter.Exact
import TableQuery.Proofs.Filter.Grammar
import TableQuery.Proofs.Query.Meaning
import TableQuery.Proofs.Sql.Pattern

/-!
# Texts that `$like` selects

An operand of `$like` with a wildcard is a pattern as it stands, and any other is looked for
anywhere in a text.

* `matchesLike_likePattern_iff`: the texts that match the pattern of an operand.
* `lower_like_eq_ok`: the comparison that a `$like` condition is lowered to.
* `like_selects`: which texts the parameter of a query selects that has a `$like` condition.
-/

namespace TableQuery

/-! ## Operands -/

/-- The value has a sign in it that stands for other characters. -/
def HasWildcard (value : String) : Prop := '%' ∈ value.toList ∨ '_' ∈ value.toList

instance (value : String) : Decidable (HasWildcard value) := by
  unfold HasWildcard; infer_instance

/-- The operand asks for the text: it has a wildcard and the text matches it, or it has none and
stands somewhere in the text. -/
def AsksFor (fold : Char → Char) (value text : String) : Prop :=
  if HasWildcard value then MatchesLike fold value.toList text.toList
  else value.toList.map fold <:+: text.toList.map fold

instance (fold : Char → Char) (value text : String) : Decidable (AsksFor fold value text) := by
  unfold AsksFor; infer_instance

theorem likePattern_of_hasWildcard {value : String} (h : HasWildcard value) :
    likePattern value = value := by
  unfold likePattern
  rw [if_pos (by simpa [HasWildcard] using h)]

theorem toList_likePattern {value : String} (h : ¬HasWildcard value) :
    (likePattern value).toList = '%' :: (value.toList ++ ['%']) := by
  unfold likePattern
  rw [if_neg (by simpa [HasWildcard] using h)]
  simp

section

variable {fold : Char → Char} {value : String}

/-- The pattern of a plain operand finds the operand anywhere. -/
theorem matchesLike_likePattern_iff_infix (h : ¬HasWildcard value) {text : List Char} :
    MatchesLike fold (likePattern value).toList text ↔ value.toList.map fold <:+: text.map fold := by
  rw [toList_likePattern h]
  exact matchesLike_anywhere_iff (not_or.mp h)

/-- The texts that match the pattern of an operand are those that it asks for. -/
theorem matchesLike_likePattern_iff {text : String} :
    MatchesLike fold (likePattern value).toList text.toList ↔ AsksFor fold value text := by
  unfold AsksFor
  split
  · rename_i h
    rw [likePattern_of_hasWildcard h]
  · rename_i h
    exact matchesLike_likePattern_iff_infix h

end

/-! ## Conditions -/

/-- What `$like` looks for in a column. -/
def Column.likeComparison (column : Column) (value : Json) : Comparison :=
  ⟨column.name, column.type, .like, .scalar (.text (likePattern value.plainText)),
    column.type.needsTextCast⟩

/-- An operand of `$like` is accepted if it is a scalar and not null. -/
theorem lower_like_eq_ok {n : ℕ} {table : Table} {field : String} {column : Column}
    (hcolumn : table.column? field = some column) {value : Json} {p : Option Predicate} :
    lower n table (.condition ⟨field, .like, value⟩) = .ok p ↔
      (value.isScalar = true ∧ value.isNull = false) ∧
        p = some (.compare (column.likeComparison value)) := by
  have hlower : lower n table (.condition ⟨field, .like, value⟩) =
      compareColumn n column .like value >>= fun c => pure (some (.compare c)) := by
    rw [lower, hcolumn]
  rw [hlower]
  cases value with
  | null | array items | object fields =>
    refine iff_of_false ?_ ?_
    · intro h
      cases h
    · rintro ⟨⟨⟨⟩, ⟨⟩⟩, -⟩
  | bool _ | number _ | string _ =>
    constructor
    · intro h
      cases h
      exact ⟨⟨rfl, rfl⟩, rfl⟩
    · rintro ⟨-, rfl⟩
      rfl

theorem lower_like_of_isNull {n : ℕ} {table : Table} {field : String} {column : Column}
    (hcolumn : table.column? field = some column) {value : Json} (hnull : value.isNull = true) :
    lower n table (.condition ⟨field, .like, value⟩) = .error (.patternExpected column.name) := by
  cases value with
  | null => rw [lower, hcolumn]; rfl
  | _ => cases hnull

/-- The database that matches patterns by the rules. -/
def SqlDialect.folding (fold : Char → Char) (shown : Binary64 → String) : SqlDialect :=
  .exact (fun text pattern => matchesLike fold pattern.toList text.toList) shown

/-- In the row the text is what `$like` looks at: the value of the column, or its text. -/
def Column.IsSearchedBy (fold : Char → Char) (shown : Binary64 → String) (column : Column)
    (row : (SqlDialect.folding fold shown).Row) (text : String) : Prop :=
  (if column.type.needsTextCast then
    (SqlDialect.folding fold shown).textForm column.type (row column.name)
  else row column.name) = some (ExactValue.text text)

/-- An integer of 64 bits is searched by its digits. -/
theorem Column.isSearchedBy_integer {fold : Char → Char} {shown : Binary64 → String}
    {name : String} {nullable : Bool} {row : (SqlDialect.folding fold shown).Row} {i : ℤ}
    (hrow : row name = some (ExactValue.integer i)) (hi : minInt64 ≤ i ∧ i ≤ maxInt64) :
    Column.IsSearchedBy fold shown ⟨name, .number, nullable⟩ row (toString i) := by
  have hform := SqlDialect.textForm_integer
    (fun text pattern => matchesLike fold pattern.toList text.toList) shown hi
  show (SqlDialect.folding fold shown).textForm .number (row name) = _
  rw [hrow]
  exact hform

/-- The comparison holds for the rows whose text the operand asks for. -/
theorem truth_likeComparison {fold : Char → Char} {shown : Binary64 → String} {column : Column}
    {row : (SqlDialect.folding fold shown).Row} {text : String}
    (h : column.IsSearchedBy fold shown row text) (value : Json) :
    (column.likeComparison value).truth (.folding fold shown) row = .yes ↔
      AsksFor fold value.plainText text := by
  have hsubject : (column.likeComparison value).subjectValue (.folding fold shown)
      (row column.name) = some (ExactValue.text text) := h
  have htruth : (column.likeComparison value).truth (.folding fold shown) row =
      .ofBool (matchesLike fold (likePattern value.plainText).toList text.toList) := by
    rw [Comparison.truth_scalar _ _ rfl]
    show (SqlDialect.folding fold shown).compare _ ((column.likeComparison value).subjectValue _
      (row column.name)) _ = _
    rw [hsubject]
    rfl
  rw [htruth, ← matchesLike_likePattern_iff, ← matchesLike_iff]
  cases matchesLike fold (likePattern value.plainText).toList text.toList with
  | false => exact iff_of_false nofun nofun
  | true => exact iff_of_true rfl rfl

/-! ## Queries -/

/-- A plan of a single comparison has its parameters. -/
theorem params_planFor_likeComparison (fs : List Filter) (column : Column) (value : Json) :
    (planFor fs [.compare (column.likeComparison value)]).params =
      [.text (likePattern value.plainText)] := by
  unfold planFor
  split <;> rfl

/-- The statement for a condition that is lowered to a comparison with a pattern binds the pattern
alone, and means the comparison. -/
theorem selectCount_of_likeComparison {n : ℕ} {table : Table} {f : Filter} {column : Column}
    {value : Json} (h : lower n table f = .ok (some (.compare (column.likeComparison value))))
    (page : PageRequest) :
    ∃ q count, Query.ofFilters n table [f] page = .ok q ∧ selectCount q = .ok count ∧
      count.params = [.text (likePattern value.plainText)] ∧
      ∀ D row, count.truth? D row = some ((column.likeComparison value).truth D row) := by
  have hall : lowerAll n table [f] = .ok [.compare (column.likeComparison value)] := by
    rw [lowerAll, h]
    rfl
  let q : Query := ⟨table.datasetId, table.name, table.outputColumns, page,
    planFor [f] [.compare (column.likeComparison value)], unknownFields table [f]⟩
  have hproper : q.plan.IsProper := planFor_isProper hall
  have hparams : q.plan.params = [.text (likePattern value.plainText)] :=
    params_planFor_likeComparison [f] column value
  obtain ⟨count, r, hcount, hread, -, -, htruth⟩ :=
    selectCount_reading? hproper (planFor_saysWhere hall)
  refine ⟨q, count, ofFilters_eq_ok.mpr ⟨_, hall, rfl⟩, hcount, ?_, fun D row => ?_⟩
  · cases hcount.symm.trans (selectCount_eq hproper)
    exact hparams
  · rw [Statement.truth?, hread, Option.map_some, htruth]
    simp only [List.map_cons, List.map_nil, Truth.all_cons, Truth.all_nil, Truth.and_yes,
      Predicate.truth]

/-- A value without wildcards is looked for anywhere in a text, up to case, and one with a wildcard
is the pattern as it stands. So for a column of the table and a scalar the one parameter of a `$like`
condition selects the texts that the scalar asks for: in the comparison that the condition is
lowered to anywhere in a filter, and in the statement that is sent for it alone, unless it is put to
the builder with a backslash in its name. With null there is no parameter, as the condition is
refused. -/
theorem like_selects (fold : Char → Char) (shown : Binary64 → String) :
    (∀ value text : String,
      (¬HasWildcard value → (MatchesLike fold (likePattern value).toList text.toList ↔
        value.toList.map fold <:+: text.toList.map fold)) ∧
      (HasWildcard value → likePattern value = value)) ∧
    ∀ (n : ℕ) (table : Table) (field : String) (column : Column) (value : Json),
      table.column? field = some column → value.isScalar = true →
      (value.isNull = true →
        lower n table (.condition ⟨field, .like, value⟩) = .error (.patternExpected column.name)) ∧
      (value.isNull = false → ∃ pattern,
        (∀ text : String, MatchesLike fold pattern.toList text.toList ↔
          AsksFor fold value.plainText text) ∧
        lower n table (.condition ⟨field, .like, value⟩) =
          .ok (some (.compare ⟨column.name, column.type, .like, .scalar (.text pattern),
            column.type.needsTextCast⟩)) ∧
        ∀ page, ∃ q, Query.ofFilters n table [.condition ⟨field, .like, value⟩] page = .ok q ∧
          ∀ custom : CustomText, custom.KeepsPatterns → q.plan.HasPlainPatterns →
            ∃ count, selectCount q custom = .ok count ∧ count.params = [.text pattern] ∧
              ∀ row text, column.IsSearchedBy fold shown row text →
                (count.truth? (.folding fold shown) row = some .yes ↔
                  AsksFor fold value.plainText text)) := by
  refine ⟨fun value text => ⟨fun h => matchesLike_likePattern_iff_infix h,
    likePattern_of_hasWildcard⟩, fun n table field column value hcolumn hscalar =>
    ⟨lower_like_of_isNull hcolumn, fun hnull => ?_⟩⟩
  have hlower := (@lower_like_eq_ok n _ _ _ hcolumn _ _).mpr ⟨⟨hscalar, hnull⟩, rfl⟩
  refine ⟨likePattern value.plainText, fun text => matchesLike_likePattern_iff, hlower,
    fun page => ?_⟩
  obtain ⟨q, count, hq, hcount, hparams, htruth⟩ := selectCount_of_likeComparison hlower page
  refine ⟨q, hq, fun custom hcustom hnames => ?_⟩
  rw [selectCount_custom hcustom hnames]
  refine ⟨count, hcount, hparams, fun row text htext => ?_⟩
  rw [htruth, Option.some.injEq]
  exact truth_likeComparison htext value

/-! ### Sales by a part of their price -/

/-- A sale in the north for a price of six digits. -/
def northRow : (SqlDialect.folding Char.toLower fun _ => "").Row := fun name =>
  if name = "price" then some (.integer 150075) else some (.text "NORTH")

/-- A part of the price, a part of the region in another case, a pattern, and null. -/
theorem like_selects_sale :
    (¬HasWildcard "ort" ∧ HasWildcard "_o%" ∧
      saleTable.column? "price" = some ⟨"price", .number, true⟩ ∧
      Json.null.isScalar = true ∧ Json.null.isNull = true ∧
      (Json.int 500).isScalar = true ∧ (Json.int 500).isNull = false ∧
      Column.IsSearchedBy Char.toLower (fun _ => "") ⟨"price", .number, true⟩ northRow "150075") ∧
    MatchesLike Char.toLower (likePattern "ort").toList "NORTH".toList ∧
    likePattern "_o%" = "_o%" ∧
    lower 1 saleTable (.condition ⟨"price", .like, .null⟩) = .error (.patternExpected "price") ∧
    ∃ q count, Query.ofFilters 1 saleTable [.condition ⟨"price", .like, .int 500⟩] .first = .ok q ∧
      q.plan.HasPlainPatterns ∧ selectCount q = .ok count ∧
      count.truth? (.folding Char.toLower fun _ => "") northRow = some .yes := by
  have hplain : ¬HasWildcard "ort" := by decide
  have hwild : HasWildcard "_o%" := by decide
  have hprice : saleTable.column? "price" = some ⟨"price", .number, true⟩ := by decide
  have hword : minInt64 ≤ 150075 ∧ 150075 ≤ maxInt64 := by decide
  have hdigits : toString (150075 : ℤ) = "150075" := by decide +kernel
  have htext : Column.IsSearchedBy Char.toLower (fun _ => "") ⟨"price", .number, true⟩ northRow
      "150075" := hdigits ▸ Column.isSearchedBy_integer rfl hword
  obtain ⟨hvalues, hconditions⟩ := like_selects Char.toLower fun _ => ""
  obtain ⟨pattern, -, -, hqueries⟩ :=
    (hconditions 1 saleTable "price" _ (.int 500) hprice rfl).2 rfl
  obtain ⟨q, hq, hstated⟩ := hqueries .first
  have hplan : (Query.ofFilters 1 saleTable [.condition ⟨"price", .like, .int 500⟩] .first).map
      (fun q => decide q.plan.HasPlainPatterns) = .ok true := by decide +kernel
  rw [hq] at hplan
  have hnames : q.plan.HasPlainPatterns := of_decide_eq_true (Except.ok.inj hplan)
  obtain ⟨count, hcount, -, hselects⟩ := hstated _ Draft.mk_keepsPatterns hnames
  refine ⟨⟨hplain, hwild, hprice, rfl, rfl, rfl, rfl, htext⟩,
    ((hvalues "ort" "NORTH").1 hplain).mpr ?_, (hvalues "_o%" "").2 hwild,
    (hconditions 1 saleTable "price" _ .null hprice rfl).1 rfl,
    q, count, hq, hnames, hcount, (hselects _ _ htext).mpr ?_⟩
  · decide
  · decide

end TableQuery
