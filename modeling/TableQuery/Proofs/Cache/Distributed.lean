import TableQuery.Proofs.Cache.Tiered

/-!
# A shared cache with a switch

* `KeyTable.get?_insert`, `KeyTable.get?_erase`, `KeyTable.get?_eraseAll`: what is under a key
  after a change.
* The instance of `LawfulTier` for `SwitchableTier`, which answers unless it is failing.
-/

namespace TableQuery

namespace KeyTable

theorem get?_insert (t : KeyTable) (key value k : String) :
    (t.insert key value).get? k = if k = key then some value else t.get? k := by
  unfold get? insert
  simp only
  induction t.entries with
  | nil => by_cases h : key = k <;> simp [insertIn, h, eq_comm (a := k)]
  | cons entry rest ih =>
    obtain ⟨k', v'⟩ := entry
    unfold insertIn
    split
    · rename_i heq
      subst heq
      by_cases h : k' = k <;> simp [h, eq_comm (a := k)]
    · rename_i hne
      split
      · by_cases hk : k' = k
        · subst hk
          simp [hne]
        · rw [List.find?_cons_of_neg (by simpa using hk), ih, List.find?_cons_of_neg (by simpa using hk)]
      · by_cases h : key = k <;> simp [h, eq_comm (a := k)]

theorem get?_erase (t : KeyTable) (key k : String) :
    (t.erase key).get? k = if k = key then none else t.get? k := by
  unfold get? erase
  rw [List.find?_filter]
  by_cases h : k = key
  · rw [if_pos h, h]
    simp
  · rw [if_neg h]
    congr 2
    funext entry
    by_cases hentry : entry.1 = k
    · simp [hentry, h]
    · simp [hentry]

theorem get?_eraseAll (t : KeyTable) (keys : List String) (k : String) :
    (t.eraseAll keys).2.get? k = if k ∈ keys then none else t.get? k := by
  induction keys generalizing t with
  | nil => simp [eraseAll]
  | cons key rest ih =>
    show ((t.erase key).eraseAll rest).2.get? k = _
    rw [ih, get?_erase]
    by_cases hrest : k ∈ rest
    · simp [hrest]
    · by_cases hkey : k = key <;> simp [hrest, hkey]

theorem mem_keys {t : KeyTable} {key : String} :
    key ∈ t.entries.map (·.1) ↔ (t.get? key).isSome = true := by
  rw [get?, Option.isSome_map, List.find?_isSome, List.mem_map]
  simp only [beq_iff_eq]

theorem mem_matching {t : KeyTable} {start k v : String} (h : t.get? k = some v)
    (hstart : beginsWith start k = true) : k ∈ t.matching (start ++ "*") := by
  have hmatches : matchesPattern (start ++ "*") k = true := by
    unfold matchesPattern
    simpa [beginsWith] using hstart
  exact List.mem_filter.mpr ⟨mem_keys.mpr (Option.isSome_iff_exists.mpr ⟨v, h⟩), hmatches⟩

end KeyTable

namespace SwitchableTier

section

variable {α : Type} (t : SwitchableTier) (command : KeyTable → α × KeyTable)

@[simp] theorem run_failing : (t.run command).2.failing = t.failing := by
  unfold run
  split <;> rfl

theorem run_answer :
    (t.run command).1 = if t.failing then .error .unavailable else .ok (command t.table).1 := by
  unfold run
  split <;> rfl

/-- A command does nothing to the table while commands fail. -/
theorem run_table :
    (t.run command).2.table = if t.failing then t.table else (command t.table).2 := by
  unfold run
  split <;> rfl

/-- A command that does nothing to the table. -/
theorem run_asks {answer : KeyTable → α} :
    (t.run fun table => (answer table, table)).2.table = t.table := by
  rw [run_table]
  split <;> rfl

/-- The keys with a start are those that a star behind it lists, whatever characters are in it. -/
theorem keys_start (now : Instant) (start : String) (h : t.failing = false) :
    ∃ found, (DistributedTier.keys now (start ++ "*") t).1 = .ok found ∧
      ∀ k v, (DistributedTier.keys now (start ++ "*") t).2.table.get? k = some v →
        beginsWith start k = true → k ∈ found := by
  have hanswer := t.run_answer fun table => (table.matching (start ++ "*"), table)
  rw [h] at hanswer
  refine ⟨_, hanswer, fun k v hv => ?_⟩
  have hv : (t.run fun table => (table.matching (start ++ "*"), table)).2.table.get? k = some v := hv
  rw [run_asks] at hv
  exact KeyTable.mem_matching hv

end

instance : LawfulTier SwitchableTier where
  Holds t key value := t.table.get? key = some value
  Answers t := t.failing = false
  get_value {t _ key value} h := by
    have h : (t.run fun table => (table.get? key, table)).1 = .ok (some value) := h
    rw [run_answer] at h
    split at h
    · cases h
    · exact Except.ok.inj h
  get_holds {t _ key k v} h := by
    have h : (t.run fun table => (table.get? key, table)).2.table.get? k = some v := h
    rwa [run_asks] at h
  get_answers {t _ key} h := (t.run_failing fun table => (table.get? key, table)).trans h
  setEx_holds {t _ key value _ k v} h := by
    have h : (t.run fun table => ((), table.insert key value)).2.table.get? k = some v := h
    rw [run_table] at h
    split at h
    · exact .inl h
    · rw [KeyTable.get?_insert] at h
      split at h
      · exact .inr ⟨‹_›, (Option.some.inj h).symm⟩
      · exact .inl h
  setEx_answers {t _ key value _} h :=
    (t.run_failing fun table => ((), table.insert key value)).trans h
  del_ok {t _ keys} h := by
    have hanswer := t.run_answer fun table => table.eraseAll keys
    have htable := t.run_table fun table => table.eraseAll keys
    rw [h] at hanswer htable
    refine ⟨_, hanswer, fun k hk v hv => ?_⟩
    have hv : (t.run fun table => table.eraseAll keys).2.table.get? k = some v := hv
    rw [htable, if_neg Bool.false_ne_true, KeyTable.get?_eraseAll, if_pos hk] at hv
    cases hv
  del_holds {t _ keys k v} h := by
    have h : (t.run fun table => table.eraseAll keys).2.table.get? k = some v := h
    rw [run_table] at h
    split at h
    · exact h
    · rw [KeyTable.get?_eraseAll] at h
      split at h
      · cases h
      · exact h
  del_answers {t _ keys} h := (t.run_failing fun table => table.eraseAll keys).trans h
  keys_ok {t now start} h _ := t.keys_start now start h
  keys_holds {t _ pattern k v} h := by
    have h : (t.run fun table => (table.matching pattern, table)).2.table.get? k = some v := h
    rwa [run_asks] at h
  keys_answers {t _ pattern} h := (t.run_failing fun table => (table.matching pattern, table)).trans h

theorem listsStart (start : String) : ListsStart SwitchableTier start :=
  fun t now h => t.keys_start now start h

end SwitchableTier

end TableQuery
