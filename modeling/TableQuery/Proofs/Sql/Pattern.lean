import Mathlib.Data.List.Infix

/-!
# Patterns of `LIKE`

A percent sign in a pattern stands for any characters and an underscore for one. Any other character
stands for itself, however its case is folded, and no character takes the meaning from another one.

* `MatchesLike`: a text matches a pattern, by these rules.
* `matchesLike`: the same as a search that tries every end of the text behind a percent sign.
* `matchesLike_plain_append`: a beginning without wildcards matches what is equal up to case.
* `matchesLike_anywhere_iff`: between two percent signs it is looked for anywhere.
-/

namespace TableQuery

/-! ## Rules -/

/-- The text, given second, matches the pattern. The case of characters is folded by `fold`. -/
inductive MatchesLike (fold : Char → Char) : List Char → List Char → Prop
  | nil : MatchesLike fold [] []
  | run {pattern text : List Char} (skipped : List Char) (h : MatchesLike fold pattern text) :
      MatchesLike fold ('%' :: pattern) (skipped ++ text)
  | one {pattern text : List Char} (c : Char) (h : MatchesLike fold pattern text) :
      MatchesLike fold ('_' :: pattern) (c :: text)
  | same {pattern text : List Char} {p c : Char} (hp : p ≠ '%' ∧ p ≠ '_') (hc : fold p = fold c)
      (h : MatchesLike fold pattern text) : MatchesLike fold (p :: pattern) (c :: text)

/-- Looks for a match of the pattern. -/
def matchesLike (fold : Char → Char) : List Char → List Char → Bool
  | [], text => text.isEmpty
  | p :: pattern, text =>
    if p = '%' then text.tails.any (matchesLike fold pattern)
    else match text with
      | [] => false
      | c :: rest => (p == '_' || fold p == fold c) && matchesLike fold pattern rest

section

variable {fold : Char → Char}

theorem MatchesLike.nil_iff {text : List Char} : MatchesLike fold [] text ↔ text = [] := by
  constructor
  · rintro ⟨⟩
    rfl
  · rintro rfl
    exact .nil

theorem MatchesLike.percent_iff {pattern text : List Char} :
    MatchesLike fold ('%' :: pattern) text ↔
      ∃ skipped more, text = skipped ++ more ∧ MatchesLike fold pattern more := by
  constructor
  · intro h
    cases h with
    | run skipped h => exact ⟨skipped, _, rfl, h⟩
    | same hp => exact absurd rfl hp.1
  · rintro ⟨skipped, more, rfl, h⟩
    exact .run skipped h

/-- Any sign but the percent sign takes one character. -/
theorem MatchesLike.cons_iff {p : Char} (hp : p ≠ '%') {pattern text : List Char} :
    MatchesLike fold (p :: pattern) text ↔
      ∃ c more, text = c :: more ∧ (p = '_' ∨ fold p = fold c) ∧ MatchesLike fold pattern more := by
  constructor
  · intro h
    cases h with
    | run => exact absurd rfl hp
    | one c h => exact ⟨c, _, rfl, .inl rfl, h⟩
    | same _ hc h => exact ⟨_, _, rfl, .inr hc, h⟩
  · rintro ⟨c, more, rfl, hc, h⟩
    by_cases hone : p = '_'
    · subst hone
      exact .one c h
    · exact .same ⟨hp, hone⟩ (hc.resolve_left hone) h

/-- The search finds a match if there is one. -/
theorem matchesLike_iff {pattern text : List Char} :
    matchesLike fold pattern text = true ↔ MatchesLike fold pattern text := by
  induction pattern generalizing text with
  | nil => rw [matchesLike, List.isEmpty_iff, MatchesLike.nil_iff]
  | cons p pattern ih =>
    rw [matchesLike.eq_def]
    simp only
    split
    · rename_i hp
      subst hp
      simp only [List.any_eq_true, List.mem_tails, ih, MatchesLike.percent_iff]
      constructor
      · rintro ⟨more, ⟨skipped, rfl⟩, h⟩
        exact ⟨skipped, more, rfl, h⟩
      · rintro ⟨skipped, more, rfl, h⟩
        exact ⟨more, ⟨skipped, rfl⟩, h⟩
    · rename_i hp
      rw [MatchesLike.cons_iff hp]
      cases text with
      | nil => simp
      | cons c rest => simp [ih]

instance (pattern text : List Char) : Decidable (MatchesLike fold pattern text) :=
  decidable_of_iff _ matchesLike_iff

/-! ## Plain patterns -/

/-- A beginning without wildcards matches what is equal to it up to case. -/
theorem matchesLike_plain_append {plain : List Char} (hplain : '%' ∉ plain ∧ '_' ∉ plain)
    {pattern text : List Char} :
    MatchesLike fold (plain ++ pattern) text ↔
      ∃ found more, text = found ++ more ∧ plain.map fold = found.map fold ∧
        MatchesLike fold pattern more := by
  induction plain generalizing text with
  | nil =>
    constructor
    · intro h
      exact ⟨[], text, rfl, rfl, h⟩
    · rintro ⟨found, more, rfl, hfound, h⟩
      rw [List.map_nil, eq_comm, List.map_eq_nil_iff] at hfound
      rwa [hfound]
  | cons p plain ih =>
    simp only [List.mem_cons, not_or] at hplain
    obtain ⟨⟨hpercent, hrest⟩, hone, hrest'⟩ := hplain
    rw [List.cons_append, MatchesLike.cons_iff (Ne.symm hpercent)]
    simp only [ih ⟨hrest, hrest'⟩]
    constructor
    · rintro ⟨c, _, rfl, hc, found, more, rfl, hfound, h⟩
      have hc := hc.resolve_left (Ne.symm hone)
      exact ⟨c :: found, more, rfl, by rw [List.map_cons, List.map_cons, hc, hfound], h⟩
    · rintro ⟨found, more, rfl, hfound, h⟩
      cases found with
      | nil => cases hfound
      | cons c found =>
        rw [List.map_cons, List.map_cons, List.cons.injEq] at hfound
        exact ⟨c, _, rfl, .inr hfound.1, found, more, rfl, hfound.2, h⟩

/-- A single percent sign matches every text. -/
theorem matchesLike_percent (text : List Char) : MatchesLike fold ['%'] text := by
  have hrun : MatchesLike fold ['%'] (text ++ []) := .run text .nil
  rwa [List.append_nil] at hrun

/-- Between two percent signs a plain value is looked for anywhere in the text. -/
theorem matchesLike_anywhere_iff {plain : List Char} (hplain : '%' ∉ plain ∧ '_' ∉ plain)
    {text : List Char} :
    MatchesLike fold ('%' :: (plain ++ ['%'])) text ↔ plain.map fold <:+: text.map fold := by
  rw [MatchesLike.percent_iff]
  simp only [matchesLike_plain_append hplain, matchesLike_percent, and_true]
  constructor
  · rintro ⟨before, _, rfl, found, after, rfl, hfound⟩
    exact ⟨before.map fold, after.map fold, by simp [hfound]⟩
  · rintro ⟨before, after, htext⟩
    obtain ⟨front, last, rfl, hfront, -⟩ := List.map_eq_append_iff.mp htext.symm
    obtain ⟨first, found, rfl, -, hfound⟩ := List.map_eq_append_iff.mp hfront
    exact ⟨first, found ++ last, by simp, found, last, rfl, hfound.symm⟩

end

end TableQuery
