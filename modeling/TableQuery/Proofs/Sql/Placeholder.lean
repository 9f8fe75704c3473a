import TableQuery.Proofs.Sql.Grammar

/-!
# Placeholders of SQL text

The placeholders of a text are its question marks outside of quoted identifiers. They are counted
here by quotes alone, without a grammar: a quote written twice inside an identifier closes it and
opens it again.

* `placeholderCount`: how many placeholders a text has.
* `placeholderCount_of_reading?`: a statement that can be read has a parameter for each of its
  placeholders.
-/

namespace TableQuery

/-- The placeholders of a text that goes on inside of a quoted identifier, or outside of one. -/
def openPlaceholders : Bool → List Char → Nat
  | _, [] => 0
  | quoted, c :: rest =>
    if c = '"' then openPlaceholders (!quoted) rest
    else if c = '?' ∧ quoted = false then openPlaceholders quoted rest + 1
    else openPlaceholders quoted rest

/-- How many question marks stand outside of quoted identifiers. -/
def placeholderCount (text : String) : Nat := openPlaceholders false text.toList

example : placeholderCount "\"a\"\"?\" = ? AND \"b\" IN (?, ?)" = 3 := by decide

/-- The text read so far ends inside of a quoted identifier. -/
def SqlPlace.isQuoted : SqlPlace → Bool
  | .name _ => true
  | _ => false

namespace SqlScan

/-- The scan after a character: a parameter is taken for a question mark outside of identifiers,
and quotes alone open and close identifiers. -/
def Counts (s : SqlScan) (c : Char) (t : SqlScan) : Prop :=
  s.params.length = t.params.length + (if c = '?' ∧ s.place.isQuoted = false then 1 else 0) ∧
    t.place.isQuoted = if c = '"' then !s.place.isQuoted else s.place.isQuoted

/-- No word has a question mark or a quote. -/
theorem isSqlLetter_plain {c : Char} (h : isSqlLetter c = true) : c ≠ '?' ∧ c ≠ '"' := by
  refine ⟨?_, ?_⟩ <;> rintro rfl <;> exact absurd h (by decide)

theorem isQuoted_of_opening? {c : Char} {place : SqlPlace} (h : opening? c = some place) :
    c ≠ '?' ∧ place.isQuoted = decide (c = '"') := by
  unfold opening? at h
  split at h
  · rename_i hc
    subst hc
    cases h
    exact ⟨by decide, rfl⟩
  · split at h
    · rename_i hc
      subst hc
      cases h
      exact ⟨by decide, rfl⟩
    · rename_i hquote
      rw [decide_eq_false hquote]
      refine ⟨?_, ?_⟩
      · rintro rfl
        cases h
      · grind [SqlPlace.isQuoted]

/-- A token that begins is counted. -/
theorem start_counts {s t : SqlScan} {tokens : List SqlToken} {c : Char}
    (hs : s.place.isQuoted = false) (h : start tokens s.params c = some t) : s.Counts c t := by
  unfold start at h
  unfold Counts
  rw [hs]
  split at h
  · rename_i place hplace
    obtain ⟨hmark, hquoted⟩ := isQuoted_of_opening? hplace
    cases h
    simp [hmark, hquoted]
  · rename_i hnone
    have hquote : c ≠ '"' := by
      rintro rfl
      cases hnone
    by_cases hmark : c = '?'
    · rw [if_pos hmark] at h
      split at h
      · cases h
      · rename_i p rest hparams
        cases h
        simp [hmark, hparams, SqlPlace.isQuoted]
    · rw [if_neg hmark] at h
      obtain ⟨sign, -, rfl⟩ := Option.map_eq_some_iff.mp h
      simp [hmark, hquote, SqlPlace.isQuoted]

/-- A character that goes on with a token opens or closes an identifier if it is a quote. -/
theorem isQuoted_of_extend? {place next : SqlPlace} {c : Char} (h : extend? place c = some next) :
    ¬(c = '?' ∧ place.isQuoted = false) ∧
      next.isQuoted = if c = '"' then !place.isQuoted else place.isQuoted := by
  cases place with
  | word read =>
    simp only [extend?] at h
    split at h
    · rename_i hletter
      obtain ⟨hmark, hquote⟩ := isSqlLetter_plain hletter
      cases h
      simp [hmark, hquote, SqlPlace.isQuoted]
    · cases h
  | name read =>
    simp only [extend?] at h
    split at h <;> cases h <;> simp_all [SqlPlace.isQuoted]
  | quote read =>
    simp only [extend?] at h
    split at h
    · rename_i hc
      subst hc
      cases h
      exact ⟨fun hc => absurd hc.1 (by decide), rfl⟩
    · cases h
  | between | less | greater => cases h

/-- A character that completes a sign is no quote and no placeholder. -/
theorem isQuoted_of_completed? {place : SqlPlace} {sign : SqlSign} {c : Char}
    (h : completed? place c = some sign) : c ≠ '?' ∧ c ≠ '"' ∧ place.isQuoted = false := by
  cases place with
  | less | greater =>
    unfold completed? at h
    refine ⟨?_, ?_, rfl⟩ <;> rintro rfl <;> cases h
  | between | word | name | quote => cases h

theorem step_counts {s t : SqlScan} {c : Char} (h : s.step c = some t) : s.Counts c t := by
  unfold step at h
  split at h
  · rename_i place hextend
    obtain ⟨hmark, hquoted⟩ := isQuoted_of_extend? hextend
    cases h
    exact ⟨by rw [if_neg hmark]; rfl, hquoted⟩
  · rename_i sign _ hcompleted
    obtain ⟨hmark, hquote, hplace⟩ := isQuoted_of_completed? hcompleted
    cases h
    unfold Counts
    rw [hplace]
    simp [hmark, hquote, SqlPlace.isQuoted]
  · obtain ⟨tokens, hsettled, hstart⟩ := Option.bind_eq_some_iff.mp h
    have hs : s.place.isQuoted = false := by
      cases hplace : s.place with
      | name read => simp [settled?, hplace] at hsettled
      | _ => rfl
    exact start_counts hs hstart

/-- A text takes as many parameters as it has placeholders. -/
theorem foldlM_step_counts {text : List Char} {s t : SqlScan} (h : text.foldlM step s = some t) :
    s.params.length = t.params.length + openPlaceholders s.place.isQuoted text := by
  induction text generalizing s with
  | nil => cases h; rfl
  | cons c rest ih =>
    obtain ⟨u, hu, ht⟩ := Option.bind_eq_some_iff.mp h
    obtain ⟨hlength, hquoted⟩ := step_counts hu
    have hrest := ih ht
    rw [hlength, hrest, hquoted, openPlaceholders]
    by_cases hquote : c = '"'
    · subst hquote
      simp
    · simp only [if_neg hquote]
      split <;> omega

end SqlScan

theorem placeholderCount_of_sqlTokens? {text : String} {params : List Param}
    {tokens : List SqlToken} (h : sqlTokens? params text.toList = some tokens) :
    placeholderCount text = params.length := by
  obtain ⟨s, hs, hparams, -⟩ := sqlTokens?_eq_some_iff.mp h
  have hcount := SqlScan.foldlM_step_counts hs
  rw [hparams] at hcount
  simpa [placeholderCount, SqlPlace.isQuoted] using hcount.symm

/-- A statement that can be read has a parameter for each placeholder. -/
theorem Statement.placeholderCount_of_reading? {s : Statement} {r : SqlReading}
    (h : s.reading? = some r) : placeholderCount s.sql = s.params.length := by
  obtain ⟨tokens, htokens, -⟩ := Option.bind_eq_some_iff.mp h
  exact placeholderCount_of_sqlTokens? htokens

end TableQuery
