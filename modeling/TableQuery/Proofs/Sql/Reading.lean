import TableQuery.Proofs.Sql.Grammar

/-!
# Reading what is put together

Which tokens are a value, a factor, a conjunction or a disjunction, whatever comes after them, and
how these are put together from one another. The recursive descent needs at most four calls for
each token, which is the bound in the definitions.

* `IsValue`, `IsFactor`, `IsConjunction`, `IsDisjunction`: tokens that are read as a value or a
  condition.
* `IsFactor.parentheses`: a disjunction in parentheses is a factor.
* `readCondition?_of_isDisjunction`: what is a disjunction is read as a condition.
-/

namespace TableQuery

/-- The tokens are read as a value. They do not begin with a parenthesis. -/
def IsValue (tokens : List SqlToken) (v : SqlValue) : Prop :=
  tokens.head? ≠ some (.sign .leftParen) ∧ tokens ≠ [] ∧
    ∀ fuel rest, 4 * tokens.length ≤ fuel → readValue? fuel (tokens ++ rest) = some (v, rest)

/-- The tokens are read as a factor. -/
def IsFactor (tokens : List SqlToken) (c : SqlCondition) : Prop :=
  ∀ fuel rest, 4 * tokens.length ≤ fuel → readFactor? fuel (tokens ++ rest) = some (c, rest)

/-- The tokens are read as factors joined by `AND`, if no other factor follows. -/
def IsConjunction (tokens : List SqlToken) (c : SqlCondition) : Prop :=
  ∀ fuel rest, 4 * tokens.length + 1 ≤ fuel → rest.head? ≠ some (.key .AND) →
    readConjunction? fuel (tokens ++ rest) = some (c, rest)

/-- The tokens are read as terms joined by `OR`, if no other term or factor follows. -/
def IsDisjunction (tokens : List SqlToken) (c : SqlCondition) : Prop :=
  ∀ fuel rest, 4 * tokens.length + 2 ≤ fuel → rest.head? ≠ some (.key .AND) →
    rest.head? ≠ some (.key .OR) → readDisjunction? fuel (tokens ++ rest) = some (c, rest)

theorem expect?_cons (token : SqlToken) (rest : List SqlToken) :
    expect? token (token :: rest) = some rest := by
  simp [expect?]

/-! ## Values -/

theorem isValue_name (n : String) : IsValue [.name n] (.column n) := by
  refine ⟨by simp, by simp, fun fuel rest hfuel => ?_⟩
  obtain ⟨m, rfl⟩ := Nat.exists_eq_add_of_le' (Nat.le_trans (by decide : 1 ≤ 4) hfuel)
  rfl

theorem isValue_param (p : Param) : IsValue [.param p] (.constant p) := by
  refine ⟨by simp, by simp, fun fuel rest hfuel => ?_⟩
  obtain ⟨m, rfl⟩ := Nat.exists_eq_add_of_le' (Nat.le_trans (by decide : 1 ≤ 4) hfuel)
  rfl

theorem isValue_other {word : String} {p : Param} (h : Param.ofNumeral? word = some p) :
    IsValue [.other word] (.constant p) := by
  refine ⟨by simp, by simp, fun fuel rest hfuel => ?_⟩
  obtain ⟨m, rfl⟩ := Nat.exists_eq_add_of_le' (Nat.le_trans (by decide : 1 ≤ 4) hfuel)
  simp [readValue?, h]

theorem IsValue.call {tokens : List SqlToken} {v : SqlValue} {word : SqlKeyword} {f : SqlFunction}
    (h : IsValue tokens v) (hf : SqlFunction.ofKeyword? word = some f) :
    IsValue (.key word :: .sign .leftParen :: (tokens ++ [.sign .rightParen])) (.call f v) := by
  refine ⟨by simp, by simp, fun fuel rest hfuel => ?_⟩
  simp only [List.length_cons, List.length_append, List.length_nil] at hfuel
  obtain ⟨m, rfl⟩ : ∃ m, fuel = m + 1 := ⟨fuel - 1, by omega⟩
  have hv := h.2.2 m (.sign .rightParen :: rest) (by omega)
  cases word <;> cases hf <;> simp [readValue?, SqlFunction.ofKeyword?, hv, expect?_cons]

theorem IsValue.cast {tokens : List SqlToken} {v : SqlValue} {type : SqlKeyword} {f : SqlFunction}
    (h : IsValue tokens v) (hf : SqlFunction.ofType? type = some f) :
    IsValue (.key .CAST :: .sign .leftParen :: (tokens ++ [.key .AS, .key type, .sign .rightParen]))
      (.call f v) := by
  refine ⟨by simp, by simp, fun fuel rest hfuel => ?_⟩
  simp only [List.length_cons, List.length_append, List.length_nil] at hfuel
  obtain ⟨m, rfl⟩ : ∃ m, fuel = m + 1 := ⟨fuel - 1, by omega⟩
  have hv := h.2.2 m (.key .AS :: .key type :: .sign .rightParen :: rest) (by omega)
  simp [readValue?, hv, hf]

theorem IsDisjunction.choice {cs ys ns : List SqlToken} {c : SqlCondition} {y n : SqlValue}
    (hc : IsDisjunction cs c) (hy : IsValue ys y) (hn : IsValue ns n) :
    IsValue (.key .CASE :: .key .WHEN ::
      (cs ++ .key .THEN :: (ys ++ .key .ELSE :: (ns ++ [.key .END])))) (.choice c y n) := by
  refine ⟨by simp, by simp, fun fuel rest hfuel => ?_⟩
  simp only [List.length_cons, List.length_append, List.length_nil] at hfuel
  obtain ⟨m, rfl⟩ : ∃ m, fuel = m + 1 := ⟨fuel - 1, by omega⟩
  have hc' := hc m (.key .THEN :: (ys ++ .key .ELSE :: (ns ++ .key .END :: rest))) (by omega)
    (by simp) (by simp)
  have hy' := hy.2.2 m (.key .ELSE :: (ns ++ .key .END :: rest)) (by omega)
  have hn' := hn.2.2 m (.key .END :: rest) (by omega)
  simp [readValue?, hc', hy', hn', expect?_cons]

/-! ## Comparisons -/

/-- Tokens that do not begin with a parenthesis are a factor if they are a comparison. -/
private theorem isFactor_of_comparison {tokens : List SqlToken} {v : SqlValue} {c : SqlCondition}
    {more : List SqlToken} (h : IsValue tokens v) (hmore : 2 ≤ more.length)
    (hread : ∀ fuel rest, 4 * (tokens.length + more.length) ≤ fuel + 2 →
      readComparison? (fuel + 1) (tokens ++ more ++ rest) = some (c, rest)) :
    IsFactor (tokens ++ more) c := by
  intro fuel rest hfuel
  rw [List.length_append] at hfuel
  obtain ⟨m, rfl⟩ : ∃ m, fuel = m + 2 := ⟨fuel - 2, by omega⟩
  have hgo : readFactor? (m + 2) (tokens ++ more ++ rest) =
      readComparison? (m + 1) (tokens ++ more ++ rest) := by
    obtain ⟨hhead, hne, -⟩ := h
    cases tokens with
    | nil => exact absurd rfl hne
    | cons t ts =>
      rw [List.append_assoc, List.cons_append, readFactor?]
      intro rest' heq
      cases heq
      exact hhead rfl
  rw [hgo]
  exact hread m rest (by omega)

section

variable {ls rs : List SqlToken} {left right : SqlValue}

theorem IsValue.compare {sign : SqlSign} {comparison : SqlComparison} (hl : IsValue ls left)
    (hr : IsValue rs right) (hs : sign.comparison? = some comparison) :
    IsFactor (ls ++ .sign sign :: rs) (.compare comparison left right) := by
  have hpos : 0 < rs.length := List.length_pos_iff.mpr hr.2.1
  refine isFactor_of_comparison hl (by simp; omega) fun fuel rest hfuel => ?_
  simp only [List.length_cons] at hfuel
  have hl' := hl.2.2 fuel (.sign sign :: (rs ++ rest)) (by omega)
  have hr' := hr.2.2 fuel rest (by omega)
  simp [readComparison?, hl', hr', hs]

theorem IsValue.like (hl : IsValue ls left) (hr : IsValue rs right) :
    IsFactor (ls ++ .key .ILIKE :: rs) (.like left right) := by
  have hpos : 0 < rs.length := List.length_pos_iff.mpr hr.2.1
  refine isFactor_of_comparison hl (by simp; omega) fun fuel rest hfuel => ?_
  simp only [List.length_cons] at hfuel
  have hl' := hl.2.2 fuel (.key .ILIKE :: (rs ++ rest)) (by omega)
  have hr' := hr.2.2 fuel rest (by omega)
  simp [readComparison?, hl', hr']

theorem IsValue.isNull (hl : IsValue ls left) :
    IsFactor (ls ++ [.key .IS, .key .NULL]) (.isNull left) := by
  refine isFactor_of_comparison hl (by simp) fun fuel rest hfuel => ?_
  simp only [List.length_cons, List.length_nil] at hfuel
  have hl' := hl.2.2 fuel (.key .IS :: .key .NULL :: rest) (by omega)
  simp [readComparison?, hl']

theorem IsValue.isNotNull (hl : IsValue ls left) :
    IsFactor (ls ++ [.key .IS, .key .NOT, .key .NULL]) (.isNotNull left) := by
  refine isFactor_of_comparison hl (by simp) fun fuel rest hfuel => ?_
  simp only [List.length_cons, List.length_nil] at hfuel
  have hl' := hl.2.2 fuel (.key .IS :: .key .NOT :: .key .NULL :: rest) (by omega)
  simp [readComparison?, hl']

/-- The tokens of placeholders with commas between them. -/
def itemTokens (ps : List Param) : List SqlToken :=
  List.intercalate [.sign .comma] (ps.map fun p => [.param p])

theorem itemTokens_cons_cons (p q : Param) (ps : List Param) :
    itemTokens (p :: q :: ps) = .param p :: .sign .comma :: itemTokens (q :: ps) := by
  rw [itemTokens, List.map_cons, List.map_cons, List.intercalate_cons_cons]
  rfl

theorem readItems?_itemTokens {ps : List Param} (hps : ps ≠ []) (rest : List SqlToken) :
    readItems? (itemTokens ps ++ .sign .rightParen :: rest) = some (ps, rest) := by
  induction ps with
  | nil => exact absurd rfl hps
  | cons p ps ih =>
    cases ps with
    | nil => rfl
    | cons q ps =>
      rw [itemTokens_cons_cons, List.cons_append, List.cons_append, readItems?, ih (by simp)]
      rfl

theorem IsValue.isIn (hl : IsValue ls left) {ps : List Param} (hps : ps ≠ []) :
    IsFactor (ls ++ .key .IN :: .sign .leftParen :: (itemTokens ps ++ [.sign .rightParen]))
      (.isIn left ps) := by
  refine isFactor_of_comparison hl (by simp) fun fuel rest hfuel => ?_
  simp only [List.length_cons, List.length_append, List.length_nil] at hfuel
  have hl' := hl.2.2 fuel
    (.key .IN :: .sign .leftParen :: (itemTokens ps ++ .sign .rightParen :: rest)) (by omega)
  simp [readComparison?, hl', readItems?_itemTokens hps]

theorem IsValue.isNotIn (hl : IsValue ls left) {ps : List Param} (hps : ps ≠ []) :
    IsFactor
      (ls ++ .key .NOT :: .key .IN :: .sign .leftParen :: (itemTokens ps ++ [.sign .rightParen]))
      (.isNotIn left ps) := by
  refine isFactor_of_comparison hl (by simp) fun fuel rest hfuel => ?_
  simp only [List.length_cons, List.length_append, List.length_nil] at hfuel
  have hl' := hl.2.2 fuel
    (.key .NOT :: .key .IN :: .sign .leftParen :: (itemTokens ps ++ .sign .rightParen :: rest))
    (by omega)
  simp [readComparison?, hl', readItems?_itemTokens hps]

end

/-! ## Connectives -/

section

variable {ts us : List SqlToken} {c d : SqlCondition}

theorem IsFactor.isConjunction (h : IsFactor ts c) : IsConjunction ts c := by
  intro fuel rest hfuel hand
  obtain ⟨m, rfl⟩ : ∃ m, fuel = m + 1 := ⟨fuel - 1, by omega⟩
  rw [readConjunction?, h m rest (by omega)]
  simp only [Option.bind_eq_bind, Option.bind_some]
  split
  · exact absurd rfl hand
  · rfl

theorem IsFactor.and (h : IsFactor ts c) (hd : IsConjunction us d) :
    IsConjunction (ts ++ .key .AND :: us) (.and c d) := by
  intro fuel rest hfuel hand
  rw [List.length_append, List.length_cons] at hfuel
  obtain ⟨m, rfl⟩ : ∃ m, fuel = m + 1 := ⟨fuel - 1, by omega⟩
  rw [List.append_assoc, List.cons_append, readConjunction?, h m _ (by omega)]
  simp [hd m rest (by omega) hand]

theorem IsConjunction.isDisjunction (h : IsConjunction ts c) : IsDisjunction ts c := by
  intro fuel rest hfuel hand hor
  obtain ⟨m, rfl⟩ : ∃ m, fuel = m + 1 := ⟨fuel - 1, by omega⟩
  rw [readDisjunction?, h m rest (by omega) hand]
  simp only [Option.bind_eq_bind, Option.bind_some]
  split
  · exact absurd rfl hor
  · rfl

theorem IsConjunction.or (h : IsConjunction ts c) (hd : IsDisjunction us d) :
    IsDisjunction (ts ++ .key .OR :: us) (.or c d) := by
  intro fuel rest hfuel hand hor
  rw [List.length_append, List.length_cons] at hfuel
  obtain ⟨m, rfl⟩ : ∃ m, fuel = m + 1 := ⟨fuel - 1, by omega⟩
  rw [List.append_assoc, List.cons_append, readDisjunction?, h m _ (by omega) (by simp)]
  simp [hd m rest (by omega) hand hor]

theorem IsDisjunction.parentheses (h : IsDisjunction ts c) :
    IsFactor (.sign .leftParen :: (ts ++ [.sign .rightParen])) c := by
  intro fuel rest hfuel
  simp only [List.length_cons, List.length_append, List.length_nil] at hfuel
  obtain ⟨m, rfl⟩ : ∃ m, fuel = m + 1 := ⟨fuel - 1, by omega⟩
  have h' := h m (.sign .rightParen :: rest) (by omega) (by simp) (by simp)
  simp [readFactor?, h', expect?_cons]

/-- A condition is read up to what does not go on with it. -/
theorem readCondition?_of_isDisjunction (h : IsDisjunction ts c) {rest : List SqlToken}
    (hand : rest.head? ≠ some (.key .AND)) (hor : rest.head? ≠ some (.key .OR)) :
    readCondition? (ts ++ rest) = some (c, rest) :=
  h _ rest (by rw [List.length_append]; omega) hand hor

end

end TableQuery
