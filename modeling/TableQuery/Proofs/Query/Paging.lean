import TableQuery.Proofs.Query.Page

/-!
# Limits and offsets

The offset of a page is computed with words of 64 bits, and the two ways to write a condition each
check its range on their own. Neither shows: the rows are read with the exact offset or the
request is refused, and the pages of a list of rows are the list cut up.

* `Query.selectBoth_of_le`, `Query.selectBoth_of_lt`: the statements of any query, or the fault of
  its page.
* `PageRequest.flatMap_slice`: pages one after the other are a beginning of the rows.
* `PageRequest.paging_exact`: the statements and the rows of every page.
-/

namespace TableQuery

/-! ## Values of conditions -/

/-- The values of a comparison are parameters, whatever is compared. -/
theorem Comparison.exists_draft_values (c : Comparison) :
    ∃ ps : List Param, c.draft.values = ps.map Param.toBound := by
  obtain ⟨column, type, op, operand, castToText⟩ := c
  cases operand with
  | scalar p =>
    cases op with
    | eq | ne => exact ⟨if p.isNull then [] else [p], by cases p <;> rfl⟩
    | like => exact ⟨[.text p.plainText], by cases p <;> rfl⟩
    | _ => exact ⟨[p], by cases p <;> rfl⟩
  | list ps =>
    cases ps with
    | nil => exact ⟨[.int 1, if op = .notIn then .int 1 else .int 2], by cases op <;> rfl⟩
    | cons p rest => exact ⟨p :: rest, by cases op <;> rfl⟩

theorem exists_builderClause_values (cs : List Comparison) :
    ∃ ps : List Param, (builderClause cs).values = ps.map Param.toBound := by
  rw [builderClause_values]
  induction cs with
  | nil => exact ⟨[], rfl⟩
  | cons c rest ih =>
    obtain ⟨ps, hps⟩ := c.exists_draft_values
    obtain ⟨more, hmore⟩ := ih
    exact ⟨ps ++ more, by rw [List.flatMap_cons, hps, hmore, List.map_append]⟩

/-! ## Pages -/

namespace PageRequest

/-- How many rows come before the page. -/
def start (p : PageRequest) : ℕ := (p.page - 1) * p.limit

theorem make_eq_ok {page limit : ℕ} {p : PageRequest} :
    make page limit = .ok p ↔ 1 ≤ page ∧ 1 ≤ limit ∧ p = ⟨page, limit⟩ := by
  unfold make
  split
  · rename_i hpage
    simp [hpage]
  · split
    · rename_i hlimit
      simp [hlimit]
    · rename_i hpage hlimit
      simp [Nat.one_le_iff_ne_zero, hpage, hlimit, eq_comm]

/-- A word holds the start or is large enough to tell that it is out of range. -/
theorem offset_cases (p : PageRequest) :
    p.offset = p.start ∨ maxInt64 < (p.offset : ℤ) ∧ maxInt64 < (p.start : ℤ) := by
  rcases le_total p.start maxWord64 with h | h
  · exact .inl (Nat.min_eq_left h)
  · have hwords : maxInt64 < (maxWord64 : ℤ) := by decide
    have hoffset : p.offset = maxWord64 := Nat.min_eq_right h
    rw [hoffset]
    exact .inr ⟨hwords, by omega⟩

end PageRequest

/-! ## Statements -/

namespace Plan

/-- The fault of a limit or offset that is too large. -/
def pageFault : Plan → Nat → RequestFault
  | .builder _, n => .valueRange n
  | .raw .., n => .pageRange n

theorem pageParam_of_le (plan : Plan) {n : ℕ} (h : (n : ℤ) ≤ maxInt64) :
    plan.pageParam n = .ok (.int n) := pageParam_eq_ok.mpr ⟨h, rfl⟩

theorem pageParam_of_lt (plan : Plan) {n : ℕ} (h : maxInt64 < (n : ℤ)) :
    plan.pageParam n = .error (plan.pageFault n) := by
  cases plan with
  | builder => exact if_neg (not_le.mpr h)
  | raw => exact if_neg (not_le.mpr h)

end Plan

namespace Query

/-- A count can be stated for any comparisons, and the rows have its parameters before those of the
page. -/
theorem exists_selectCount (q : Query) : ∃ count, selectCount q = .ok count ∧
    selectRows q = q.plan.pageParam q.page.limit >>= fun limit =>
      q.plan.pageParam q.page.offset >>= fun offset =>
        .ok ⟨selectHead q ++ q.plan.clause ++ selectTail, count.params ++ [limit, offset]⟩ := by
  unfold selectCount selectRows
  cases q.plan with
  | builder comparisons =>
    obtain ⟨ps, hvalues⟩ := exists_builderClause_values comparisons
    have hparams := Param.mapM_ofBound_toBound ps
    rw [← hvalues] at hparams
    exact ⟨_, Draft.finish_eq_ok.mpr ⟨ps, hparams, rfl⟩, Draft.finish_page comparisons hparams _ _⟩
  | raw text params => exact ⟨_, rfl, rfl⟩

/-- The statements of a query have the exact start in them. -/
theorem selectBoth_of_le {q : Query} (hlimit : (q.page.limit : ℤ) ≤ maxInt64)
    (hstart : (q.page.start : ℤ) ≤ maxInt64) :
    ∃ count, selectCount q = .ok count ∧ selectBoth q = .ok
      (⟨selectHead q ++ q.plan.clause ++ selectTail,
        count.params ++ [.int q.page.limit, .int q.page.start]⟩, count) := by
  obtain ⟨count, hcount, hrows⟩ := q.exists_selectCount
  have hoffset : q.page.offset = q.page.start :=
    q.page.offset_cases.resolve_right fun h => not_le.mpr h.2 hstart
  rw [hoffset, q.plan.pageParam_of_le hlimit, q.plan.pageParam_of_le hstart] at hrows
  exact ⟨count, hcount, selectBoth_eq_ok.mpr ⟨hrows, hcount⟩⟩

/-- A query is refused if its limit is out of range, or else if its start is. -/
theorem selectBoth_of_lt {q : Query}
    (h : ¬((q.page.limit : ℤ) ≤ maxInt64 ∧ (q.page.start : ℤ) ≤ maxInt64)) :
    selectBoth q = .error (q.plan.pageFault
      (if (q.page.limit : ℤ) ≤ maxInt64 then q.page.offset else q.page.limit)) := by
  obtain ⟨count, -, hrows⟩ := q.exists_selectCount
  unfold selectBoth
  by_cases hlimit : (q.page.limit : ℤ) ≤ maxInt64
  · have hoffset : maxInt64 < (q.page.offset : ℤ) := by
      rcases q.page.offset_cases with hstart | ⟨hoffset, -⟩
      · rw [hstart]
        exact not_le.mp fun hle => h ⟨hlimit, hle⟩
      · exact hoffset
    rw [hrows, q.plan.pageParam_of_le hlimit, q.plan.pageParam_of_lt hoffset, if_pos hlimit]
    rfl
  · rw [hrows, q.plan.pageParam_of_lt (not_le.mp hlimit), if_neg hlimit]
    rfl

end Query

/-! ## Rows of pages -/

namespace PageRequest

variable {p : PageRequest} {α : Type*} {rows : List α}

/-- The rows of the page. -/
def slice (p : PageRequest) (rows : List α) : List α := (rows.drop p.offset).take p.limit

/-- The rows of a page begin at its start, even where a word cannot hold that. -/
theorem slice_eq (h : (rows.length : ℤ) ≤ maxInt64) :
    p.slice rows = (rows.drop p.start).take p.limit := by
  unfold slice
  rcases p.offset_cases with hstart | ⟨hoffset, hstart⟩
  · rw [hstart]
  · rw [List.drop_eq_nil_of_le (by omega), List.drop_eq_nil_of_le (by omega)]

/-- The first pages, one after the other, are a beginning of the rows. -/
theorem flatMap_slice (h : (rows.length : ℤ) ≤ maxInt64) (limit n : ℕ) :
    (List.range' 1 n).flatMap (fun page => slice ⟨page, limit⟩ rows) = rows.take (n * limit) := by
  induction n with
  | zero => simp
  | succ n ih =>
    have hlast : slice ⟨1 + n, limit⟩ rows = (rows.drop (n * limit)).take limit := by
      rw [slice_eq h, start, Nat.add_sub_cancel_left]
    rw [List.range'_1_concat, List.flatMap_append, ih, List.flatMap_singleton, hlast,
      Nat.succ_mul, List.take_add]

theorem totalPages_le_iff (hlimit : 1 ≤ p.limit) {n k : ℕ} :
    p.totalPages n ≤ k ↔ n ≤ k * p.limit := by
  unfold totalPages
  rw [← Nat.lt_succ_iff, Nat.div_lt_iff_lt_mul hlimit, Nat.succ_mul]
  omega

/-- The pages past the last one are empty, and no others. -/
theorem slice_eq_nil_iff (hpage : 1 ≤ p.page) (hlimit : 1 ≤ p.limit)
    (h : (rows.length : ℤ) ≤ maxInt64) :
    p.slice rows = [] ↔ p.totalPages rows.length < p.page := by
  have hlast : p.totalPages rows.length ≤ p.page - 1 ↔ rows.length ≤ p.start :=
    totalPages_le_iff hlimit
  rw [slice_eq h, List.take_eq_nil_iff, List.drop_eq_nil_iff]
  omega

/-- For any page that is admitted the statements have its limit and its exact start as their last
parameters, unless one of these is out of range and the request is refused; and the pages of rows
are the rows cut up, those past the last page being empty. -/
theorem paging_exact {page limit : ℕ} (hp : make page limit = .ok p) :
    (∀ q : Query, q.page = p → ∃ count, selectCount q = .ok count ∧
      selectBoth q =
        if (limit : ℤ) ≤ maxInt64 ∧ ((page : ℤ) - 1) * limit ≤ maxInt64 then
          .ok (⟨selectHead q ++ q.plan.clause ++ selectTail,
            count.params ++ [.int limit, .int (((page : ℤ) - 1) * limit)]⟩, count)
        else
          .error (q.plan.pageFault (if (limit : ℤ) ≤ maxInt64 then p.offset else limit))) ∧
      ∀ rows : List α, (rows.length : ℤ) ≤ maxInt64 →
        (List.range' 1 (p.totalPages rows.length)).flatMap
            (fun k => slice ⟨k, limit⟩ rows) = rows ∧
          (p.slice rows = [] ↔ p.totalPages rows.length < page) := by
  obtain ⟨hpage, hlimit, rfl⟩ := make_eq_ok.mp hp
  have hstart : ((start ⟨page, limit⟩ : ℕ) : ℤ) = ((page : ℤ) - 1) * limit := by
    rw [start, Nat.cast_mul, Nat.cast_pred hpage]
  constructor
  · intro q hq
    obtain ⟨datasetId, table, columns, _, plan, dropped⟩ := q
    subst hq
    rw [← hstart]
    split
    · rename_i hrange
      exact Query.selectBoth_of_le hrange.1 hrange.2
    · rename_i hrange
      obtain ⟨count, hcount, -⟩ := Query.exists_selectCount _
      exact ⟨count, hcount, Query.selectBoth_of_lt hrange⟩
  · intro rows hrows
    refine ⟨?_, slice_eq_nil_iff hpage hlimit hrows⟩
    rw [flatMap_slice hrows]
    exact List.take_of_length_le ((totalPages_le_iff hlimit).mp le_rfl)

/-- Prices above a number, page by page. -/
def priceQuery (p : PageRequest) : Query :=
  ⟨"00000000000000000000000000000000", "prices", ["id", "price"], p,
    .builder [⟨"price", .number, .gt, .scalar (.int 5), false⟩], []⟩

/-- The last page of five rows, and a page whose start would be `2 ^ 32` again in words of 64
bits. -/
theorem paging_exact_last :
    (make 3 2 = .ok ⟨3, 2⟩ ∧
      ∃ rows count, selectBoth (priceQuery ⟨3, 2⟩) = .ok (rows, count) ∧
        rows.params = [.int 5, .int 2, .int 4] ∧
        slice ⟨1, 2⟩ ['a', 'b', 'c', 'd', 'e'] ++ (slice ⟨2, 2⟩ ['a', 'b', 'c', 'd', 'e'] ++
          slice ⟨3, 2⟩ ['a', 'b', 'c', 'd', 'e']) = ['a', 'b', 'c', 'd', 'e']) ∧
      make (2 ^ 32 + 2) (2 ^ 32) = .ok ⟨2 ^ 32 + 2, 2 ^ 32⟩ ∧
        selectBoth (priceQuery ⟨2 ^ 32 + 2, 2 ^ 32⟩) = .error (.valueRange (2 ^ 64 - 1)) ∧
        slice ⟨2 ^ 32 + 2, 2 ^ 32⟩ ['a', 'b', 'c', 'd', 'e'] = [] := by
  have hsmall : make 3 2 = .ok ⟨3, 2⟩ := rfl
  have hlarge : make (2 ^ 32 + 2) (2 ^ 32) = .ok ⟨2 ^ 32 + 2, 2 ^ 32⟩ := rfl
  obtain ⟨hquery, hrows⟩ := paging_exact (α := Char) hsmall
  obtain ⟨hrefused, hnone⟩ := paging_exact (α := Char) hlarge
  obtain ⟨count, hcount, hboth⟩ := hquery (priceQuery ⟨3, 2⟩) rfl
  obtain ⟨_, -, herror⟩ := hrefused (priceQuery ⟨2 ^ 32 + 2, 2 ^ 32⟩) rfl
  rw [if_pos (by decide)] at hboth
  rw [if_neg (by decide)] at herror
  refine ⟨⟨hsmall, _, count, hboth, ?_, ?_⟩, hlarge, herror, ?_⟩
  · cases hcount
    rfl
  · exact (hrows ['a', 'b', 'c', 'd', 'e'] (by decide)).1
  · exact (hnone ['a', 'b', 'c', 'd', 'e'] (by decide)).2.mpr (by decide)

end PageRequest

end TableQuery
