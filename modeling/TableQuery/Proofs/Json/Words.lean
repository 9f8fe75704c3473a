import Mathlib.Tactic
import TableQuery.Json.Reader

/-!
# Integers of JSON values

A value that is read from text has no integers but those that fit a word of 64 bits, signed or
unsigned. Any other numeral is read as a double.

* `Json.HasWords`: the integers in a value are words, at any depth.
* `Json.hasWords_of_parse?`: values that are read from text.
-/

namespace TableQuery

/-- The number is a double, or an integer that fits a signed or an unsigned word of 64 bits. -/
def JsonNumber.IsWord : JsonNumber → Prop
  | .integer i => minInt64 ≤ i ∧ i ≤ maxWord64
  | .float _ => True

/-- A numeral is read as an integer only if it is a word. -/
theorem JsonNumeral.isWord_of_toNumber? {x : JsonNumeral} {n : JsonNumber}
    (h : x.toNumber? = some n) : n.IsWord := by
  unfold toNumber? at h
  simp only at h
  split at h
  · obtain ⟨y, -, rfl⟩ := Option.map_eq_some_iff.mp h
    trivial
  · rename_i hinteger
    cases h
    simp only [Bool.or_eq_true, Bool.and_eq_true, decide_eq_true_eq, not_or, not_and,
      not_lt] at hinteger
    obtain ⟨⟨-, hmost⟩, hleast⟩ := hinteger
    show minInt64 ≤ ite _ _ _ ∧ ite _ _ _ ≤ (maxWord64 : ℤ)
    unfold minInt64
    split
    · rename_i hnegative
      have hbound := (hleast hnegative).2
      omega
    · omega

namespace Json

/-- The integers in the value are words, at any depth. -/
inductive HasWords : Json → Prop where
  | null : HasWords .null
  | bool (b : Bool) : HasWords (.bool b)
  | number {n : JsonNumber} (h : n.IsWord) : HasWords (.number n)
  | string (s : String) : HasWords (.string s)
  | array {items : List Json} (h : ∀ v ∈ items, HasWords v) : HasWords (.array items)
  | object {fields : List (String × Json)} (h : ∀ e ∈ fields, HasWords e.2) :
      HasWords (.object fields)

/-- Fields that are set are the old ones or the new one. -/
theorem mem_putField {fields : List (String × Json)} {name : String} {value : Json}
    {e : String × Json} (h : e ∈ putField fields name value) : e ∈ fields ∨ e = (name, value) := by
  induction fields with
  | nil => exact .inr (List.mem_singleton.mp h)
  | cons f rest ih =>
    obtain ⟨k, v⟩ := f
    unfold putField at h
    split at h
    · rename_i hname
      rcases List.mem_cons.mp h with rfl | h
      · exact .inr (by rw [hname])
      · exact .inl (List.mem_cons_of_mem _ h)
    · rcases List.mem_cons.mp h with rfl | h
      · exact .inl List.mem_cons_self
      · exact (ih h).imp_left (List.mem_cons_of_mem _)

theorem mem_foldl_putField {fields done : List (String × Json)} {e : String × Json}
    (h : e ∈ fields.foldl (fun done field => putField done field.1 field.2) done) :
    e ∈ done ∨ e ∈ fields := by
  induction fields generalizing done with
  | nil => exact .inl h
  | cons f rest ih =>
    rcases ih h with h | h
    · rcases mem_putField h with h | rfl
      · exact .inl h
      · exact .inr List.mem_cons_self
    · exact .inr (List.mem_cons_of_mem _ h)

end Json

namespace JsonSyntax

mutual

theorem hasWords_toJson? : (tree : JsonSyntax) → {depth : ℕ} → {v : Json} →
    tree.toJson? depth = some v → v.HasWords
  | .null, _, v, h => by
    cases h
    exact .null
  | .bool b, _, v, h => by
    cases h
    exact .bool b
  | .number n, _, v, h => by
    obtain ⟨m, hm, rfl⟩ := Option.map_eq_some_iff.mp h
    exact .number (JsonNumeral.isWord_of_toNumber? hm)
  | .text cs, _, v, h => by
    obtain ⟨s, -, rfl⟩ := Option.map_eq_some_iff.mp h
    exact .string _
  | .array items, 0, v, h => by cases h
  | .array items, depth + 1, v, h => by
    obtain ⟨values, hvalues, rfl⟩ := Option.map_eq_some_iff.mp h
    exact .array (hasWords_itemsToJson? items hvalues)
  | .object fields, 0, v, h => by cases h
  | .object fields, depth + 1, v, h => by
    obtain ⟨values, hvalues, rfl⟩ := Option.map_eq_some_iff.mp h
    refine .object fun e he => hasWords_fieldsToJson? fields hvalues e ?_
    exact (Json.mem_foldl_putField he).resolve_left List.not_mem_nil

theorem hasWords_itemsToJson? : (items : List JsonSyntax) → {depth : ℕ} → {vs : List Json} →
    itemsToJson? depth items = some vs → ∀ v ∈ vs, v.HasWords
  | [], _, vs, h => by
    cases h
    simp
  | tree :: rest, _, vs, h => by
    obtain ⟨v, hv, h⟩ := Option.bind_eq_some_iff.mp h
    obtain ⟨more, hmore, h⟩ := Option.bind_eq_some_iff.mp h
    cases h
    rw [List.forall_mem_cons]
    exact ⟨hasWords_toJson? tree hv, hasWords_itemsToJson? rest hmore⟩

theorem hasWords_fieldsToJson? : (fields : List (List Char × JsonSyntax)) → {depth : ℕ} →
    {es : List (String × Json)} → fieldsToJson? depth fields = some es → ∀ e ∈ es, e.2.HasWords
  | [], _, es, h => by
    cases h
    simp
  | (name, tree) :: rest, _, es, h => by
    obtain ⟨k, -, h⟩ := Option.bind_eq_some_iff.mp h
    obtain ⟨v, hv, h⟩ := Option.bind_eq_some_iff.mp h
    obtain ⟨more, hmore, h⟩ := Option.bind_eq_some_iff.mp h
    cases h
    rw [List.forall_mem_cons]
    exact ⟨hasWords_toJson? tree hv, hasWords_fieldsToJson? rest hmore⟩

end

end JsonSyntax

/-- The integers of a value that is read from text are words. -/
theorem Json.hasWords_of_parse? {text : String} {v : Json} (h : Json.parse? text = some v) :
    v.HasWords := by
  obtain ⟨tree, -, h⟩ := Option.bind_eq_some_iff.mp h
  exact tree.hasWords_toJson? h

end TableQuery
