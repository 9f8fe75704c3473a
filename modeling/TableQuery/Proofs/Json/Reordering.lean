import Mathlib.Data.List.Forall2
import Mathlib.Data.String.Basic
import Mathlib.Logic.Relation
import TableQuery.Proofs.Filter.Order
import TableQuery.Proofs.Json.Text

/-!
# Reordered values

Two values have one canonical form, and so one text of it, if they differ in the order of their
fields alone, and only then.

* `Json.SameUpToOrder`: fields are swapped with their neighbours, at any depth.
* `Json.sameUpToOrder_canonical`: the canonical form is reached by swaps.
* `Json.Swaps.canonical_eq`: a swap does not change it.
* `Json.sameUpToOrder_array_iff`, `Json.sameUpToOrder_object_iff`: what the swaps come to.
* `Json.compact_canonical_eq_iff`: the text of the canonical form.
-/

namespace TableQuery

namespace Json

/-- Two neighbouring fields of an object change places, somewhere in a value. Fields of one name
keep their order. -/
inductive Swaps : Json → Json → Prop where
  | here (before : List (String × Json)) {e f : String × Json} (after : List (String × Json))
      (h : e.1 ≠ f.1) : Swaps (.object (before ++ e :: f :: after))
        (.object (before ++ f :: e :: after))
  | inItem (before : List Json) {v w : Json} (after : List Json) (h : Swaps v w) :
      Swaps (.array (before ++ v :: after)) (.array (before ++ w :: after))
  | inField (before : List (String × Json)) (name : String) {v w : Json}
      (after : List (String × Json)) (h : Swaps v w) :
      Swaps (.object (before ++ (name, v) :: after)) (.object (before ++ (name, w) :: after))

/-- The values are equal up to the order of the fields of objects, at any depth. -/
def SameUpToOrder : Json → Json → Prop := Relation.ReflTransGen Swaps

/-- The fields have one name, and values that are equal up to the order of fields. -/
def SameField (e f : String × Json) : Prop := e.1 = f.1 ∧ SameUpToOrder e.2 f.2

/-! ## Swaps and the canonical form -/

/-- Fields of different names can be put in place in either order. -/
theorem insertField_comm {e f : String × Json} (h : e.1 ≠ f.1) (fields : List (String × Json)) :
    insertField e (insertField f fields) = insertField f (insertField e fields) := by
  induction fields with
  | nil =>
    rcases lt_or_gt_of_ne h with hlt | hlt
    · simp [insertField, hlt, hlt.not_gt]
    · simp [insertField, hlt, hlt.not_gt]
  | cons g rest ih =>
    by_cases he : g.1 < e.1
    · by_cases hf : g.1 < f.1
      · simp [insertField, he, hf, ih]
      · have hlt : f.1 < e.1 := lt_of_le_of_lt (not_lt.mp hf) he
        simp [insertField, he, hf, hlt]
    · by_cases hf : g.1 < f.1
      · have hlt : e.1 < f.1 := lt_of_le_of_lt (not_lt.mp he) hf
        simp [insertField, he, hf, hlt]
      · rcases lt_or_gt_of_ne h with hlt | hlt
        · simp [insertField, he, hf, hlt, hlt.not_gt]
        · simp [insertField, he, hf, hlt, hlt.not_gt]

theorem sortFields_append (before after : List (String × Json)) :
    sortFields (before ++ after) = before.foldr insertField (sortFields after) :=
  List.foldr_append

/-- A swap does not change the canonical form. -/
theorem Swaps.canonical_eq {v w : Json} (h : Swaps v w) : v.canonical = w.canonical := by
  induction h with
  | @here before e f after hne =>
    have hpair := insertField_comm (e := (e.1, e.2.canonical)) (f := (f.1, f.2.canonical)) hne
    rw [canonical, canonical, canonicalFields_eq_map, canonicalFields_eq_map, List.map_append,
      List.map_append, sortFields_append, sortFields_append]
    exact congrArg (fun fields => object (List.foldr insertField fields _)) (hpair _)
  | inItem before after _ ih =>
    rw [canonical, canonical, canonicalItems_eq_map, canonicalItems_eq_map]
    simp only [List.map_append, List.map_cons, ih]
  | inField before name after _ ih =>
    rw [canonical, canonical, canonicalFields_eq_map, canonicalFields_eq_map]
    simp only [List.map_append, List.map_cons, ih]

theorem SameUpToOrder.canonical_eq {v w : Json} (h : SameUpToOrder v w) :
    v.canonical = w.canonical := by
  induction h with
  | refl => rfl
  | tail _ hlast ih => rw [ih, hlast.canonical_eq]

/-! ## Values with the same parts -/

theorem Swaps.symm {v w : Json} (h : Swaps v w) : Swaps w v := by
  induction h with
  | here before after hne => exact .here before after hne.symm
  | inItem before after _ ih => exact .inItem before after ih
  | inField before name after _ ih => exact .inField before name after ih

namespace SameUpToOrder

theorem symm {v w : Json} (h : SameUpToOrder v w) : SameUpToOrder w v := by
  induction h with
  | refl => exact .refl
  | tail _ hlast ih => exact .head hlast.symm ih

theorem inItem (before after : List Json) {v w : Json} (h : SameUpToOrder v w) :
    SameUpToOrder (.array (before ++ v :: after)) (.array (before ++ w :: after)) := by
  induction h with
  | refl => exact .refl
  | tail _ hlast ih => exact .tail ih (.inItem before after hlast)

theorem inField (before : List (String × Json)) (name : String) (after : List (String × Json))
    {v w : Json} (h : SameUpToOrder v w) : SameUpToOrder (.object (before ++ (name, v) :: after))
      (.object (before ++ (name, w) :: after)) := by
  induction h with
  | refl => exact .refl
  | tail _ hlast ih => exact .tail ih (.inField before name after hlast)

/-- Items can be reordered one after the other. -/
theorem append_items (before : List Json) {items items' : List Json}
    (h : List.Forall₂ SameUpToOrder items items') :
    SameUpToOrder (.array (before ++ items)) (.array (before ++ items')) := by
  induction h generalizing before with
  | nil => exact .refl
  | @cons v w rest rest' hvw _ ih =>
    have hrest := ih (before ++ [w])
    rw [List.append_assoc, List.append_assoc] at hrest
    exact (inItem before rest hvw).trans hrest

/-- Fields can be reordered inside one after the other. -/
theorem append_fields (before : List (String × Json)) {es fs : List (String × Json)}
    (h : List.Forall₂ SameField es fs) :
    SameUpToOrder (.object (before ++ es)) (.object (before ++ fs)) := by
  induction h generalizing before with
  | nil => exact .refl
  | @cons e f rest rest' hef _ ih =>
    obtain ⟨name, v⟩ := e
    obtain ⟨_, w⟩ := f
    obtain ⟨rfl, hvw⟩ := hef
    have hrest := ih (before ++ [(name, w)])
    rw [List.append_assoc, List.append_assoc] at hrest
    exact (inField before name rest hvw).trans hrest

/-- A field is put in place by swaps. -/
theorem object_insertField (before : List (String × Json)) (e : String × Json)
    (fields : List (String × Json)) : SameUpToOrder (.object (before ++ e :: fields))
      (.object (before ++ insertField e fields)) := by
  induction fields generalizing before with
  | nil => exact .refl
  | cons f rest ih =>
    unfold insertField
    split
    · rename_i hlt
      have hrest := ih (before ++ [f])
      rw [List.append_assoc, List.append_assoc] at hrest
      exact .head (.here before rest (ne_of_gt hlt)) hrest
    · exact .refl

theorem object_sortFields (before fields : List (String × Json)) :
    SameUpToOrder (.object (before ++ fields)) (.object (before ++ sortFields fields)) := by
  induction fields generalizing before with
  | nil => exact .refl
  | cons e rest ih =>
    have hrest := ih (before ++ [e])
    rw [List.append_assoc, List.append_assoc] at hrest
    exact hrest.trans (object_insertField before e (sortFields rest))

end SameUpToOrder

mutual

/-- The canonical form is reached by swaps. -/
theorem sameUpToOrder_canonical : (v : Json) → SameUpToOrder v v.canonical
  | .null | .bool _ | .number _ | .string _ => by
    rw [canonical]
    exact .refl
  | .array items => by
    rw [canonical]
    exact .append_items [] (forall₂_canonicalItems items)
  | .object fields => by
    rw [canonical]
    exact (SameUpToOrder.append_fields [] (forall₂_canonicalFields fields)).trans
      (SameUpToOrder.object_sortFields [] _)

theorem forall₂_canonicalItems : (items : List Json) →
    List.Forall₂ SameUpToOrder items (canonicalItems items)
  | [] => by
    rw [canonicalItems]
    exact .nil
  | v :: rest => by
    rw [canonicalItems]
    exact .cons (sameUpToOrder_canonical v) (forall₂_canonicalItems rest)

theorem forall₂_canonicalFields : (fields : List (String × Json)) →
    List.Forall₂ SameField fields (canonicalFields fields)
  | [] => by
    rw [canonicalFields]
    exact .nil
  | (name, v) :: rest => by
    rw [canonicalFields]
    exact .cons ⟨rfl, sameUpToOrder_canonical v⟩ (forall₂_canonicalFields rest)

end

/-! ## What has one canonical form -/

/-- Values have one canonical form if they are equal up to the order of fields. -/
theorem canonical_eq_iff {v w : Json} : v.canonical = w.canonical ↔ SameUpToOrder v w := by
  constructor
  · intro h
    have hw := (sameUpToOrder_canonical w).symm
    rw [← h] at hw
    exact (sameUpToOrder_canonical v).trans hw
  · exact SameUpToOrder.canonical_eq

theorem canonical_canonical (v : Json) : v.canonical.canonical = v.canonical :=
  (sameUpToOrder_canonical v).canonical_eq.symm

theorem map_eq_map_iff_forall₂ {α β : Type*} {f : α → β} {xs ys : List α} :
    xs.map f = ys.map f ↔ List.Forall₂ (fun x y => f x = f y) xs ys := by
  rw [← List.forall₂_eq_eq_eq, List.forall₂_map_left_iff, List.forall₂_map_right_iff]

/-- Arrays are equal up to the order of fields if their items are, one by one. -/
theorem sameUpToOrder_array_iff {items items' : List Json} :
    SameUpToOrder (.array items) (.array items') ↔ List.Forall₂ SameUpToOrder items items' := by
  constructor
  · intro h
    have hcanonical := h.canonical_eq
    rw [canonical, canonical, array.injEq, canonicalItems_eq_map, canonicalItems_eq_map,
      map_eq_map_iff_forall₂] at hcanonical
    exact hcanonical.imp fun _ _ => canonical_eq_iff.mp
  · exact SameUpToOrder.append_items []

/-- Fields of different names can be put in any order. -/
theorem SameUpToOrder.perm_fields (before : List (String × Json)) {es fs : List (String × Json)}
    (h : es.Perm fs) (hnames : (es.map Prod.fst).Nodup) :
    SameUpToOrder (.object (before ++ es)) (.object (before ++ fs)) := by
  induction h generalizing before with
  | nil => exact .refl
  | cons e _ ih =>
    rw [List.map_cons, List.nodup_cons] at hnames
    have hrest := ih (before ++ [e]) hnames.2
    rw [List.append_assoc, List.append_assoc] at hrest
    exact hrest
  | swap e f rest =>
    rw [List.map_cons, List.map_cons, List.nodup_cons, List.mem_cons, not_or] at hnames
    exact .single (.here before rest hnames.1.1)
  | trans hfirst _ ih ih' =>
    exact (ih before hnames).trans (ih' before ((hfirst.map Prod.fst).nodup_iff.mp hnames))

/-- Objects are equal up to the order of fields if they have the same fields in some order. -/
theorem sameUpToOrder_object_iff {es fs : List (String × Json)}
    (hnames : (es.map Prod.fst).Nodup) : SameUpToOrder (.object es) (.object fs) ↔
      ∃ gs, List.Forall₂ SameField es gs ∧ gs.Perm fs := by
  constructor
  · intro h
    have hcanonical := h.canonical_eq
    rw [canonical, canonical, object.injEq] at hcanonical
    have hperm : (canonicalFields es).Perm (canonicalFields fs) :=
      ((sortFields_perm _).symm.trans (.of_eq hcanonical)).trans (sortFields_perm _)
    rw [canonicalFields_eq_map, canonicalFields_eq_map] at hperm
    obtain ⟨gs, hmap, hgs⟩ := (congrFun (congrFun (List.eq_map_comp_perm _) _) _).mpr hperm
    refine ⟨gs, (map_eq_map_iff_forall₂.mp hmap).imp fun e g heq => ?_, hgs⟩
    rw [Prod.mk.injEq] at heq
    exact ⟨heq.1, canonical_eq_iff.mp heq.2⟩
  · rintro ⟨gs, hsame, hperm⟩
    have hnames_eq : es.map Prod.fst = gs.map Prod.fst :=
      map_eq_map_iff_forall₂.mpr (hsame.imp fun _ _ => And.left)
    rw [hnames_eq] at hnames
    exact (SameUpToOrder.append_fields [] hsame).trans
      (SameUpToOrder.perm_fields [] hperm hnames)

theorem sameUpToOrder_number_iff {m n : JsonNumber} :
    SameUpToOrder (.number m) (.number n) ↔ m = n := by
  rw [← canonical_eq_iff, canonical, canonical, number.injEq]

/-- The canonical forms of two values have one text if the values are equal up to the order of
fields, and only then; and the canonical form is its own. Up to that order, arrays are equal item by
item, objects if their fields are in some order, and a number is equal to itself alone. -/
theorem compact_canonical_eq_iff (f g : Json) :
    (f.canonical.compact = g.canonical.compact ↔ SameUpToOrder f g) ∧
      f.canonical.canonical = f.canonical ∧
      (∀ items items', SameUpToOrder (.array items) (.array items') ↔
        List.Forall₂ SameUpToOrder items items') ∧
      (∀ es fs : List (String × Json), (es.map Prod.fst).Nodup →
        (SameUpToOrder (.object es) (.object fs) ↔
          ∃ gs, List.Forall₂ SameField es gs ∧ gs.Perm fs)) ∧
      ∀ m n, SameUpToOrder (.number m) (.number n) ↔ m = n := by
  refine ⟨?_, canonical_canonical f, fun _ _ => sameUpToOrder_array_iff,
    fun _ _ => sameUpToOrder_object_iff, fun _ _ => sameUpToOrder_number_iff⟩
  rw [← canonical_eq_iff]
  exact ⟨compact_injective, congrArg compact⟩

/-- Bounds of a column. -/
def boundFields : List (String × Json) := [("$lt", .int 3), ("$gt", .int 1)]

/-- The bounds after a value of another column. -/
def boundedFields : List (String × Json) := [("b", .int 1), ("a", .object boundFields)]

/-- The same fields in the order of their names. -/
def orderedFields : List (String × Json) :=
  [("a", .object [("$gt", .int 1), ("$lt", .int 3)]), ("b", .int 1)]

/-- An object in another order at both depths, and arrays and numbers that are apart. -/
theorem compact_canonical_eq_iff_bounded :
    ((boundedFields.map Prod.fst).Nodup ∧ (boundFields.map Prod.fst).Nodup) ∧
      (object boundedFields).canonical.compact = (object orderedFields).canonical.compact ∧
      (array [.int 1, .int 2]).canonical.compact ≠ (array [.int 2, .int 1]).canonical.compact ∧
      ∀ x, (int 1).canonical.compact ≠ (number (.float x)).canonical.compact := by
  obtain ⟨htext, -, -, hobject, hnumber⟩ :=
    compact_canonical_eq_iff (object boundedFields) (object orderedFields)
  obtain ⟨hitems, -, harray, -, -⟩ :=
    compact_canonical_eq_iff (array [.int 1, .int 2]) (array [.int 2, .int 1])
  have hnames : (boundedFields.map Prod.fst).Nodup := by decide
  have hinner : (boundFields.map Prod.fst).Nodup := by decide
  have hbounds : SameUpToOrder (.object boundFields)
      (.object [("$gt", .int 1), ("$lt", .int 3)]) :=
    (hobject _ _ hinner).mpr
      ⟨boundFields, .cons ⟨rfl, .refl⟩ (.cons ⟨rfl, .refl⟩ .nil), .swap _ _ _⟩
  have hsame := (hobject _ _ hnames).mpr
    ⟨[("b", .int 1), ("a", .object [("$gt", .int 1), ("$lt", .int 3)])],
      .cons ⟨rfl, .refl⟩ (.cons ⟨rfl, hbounds⟩ .nil), .swap _ _ _⟩
  refine ⟨⟨hnames, hinner⟩, htext.mpr hsame, fun h => ?_, fun x h => ?_⟩
  · cases (harray _ _).mp (hitems.mp h) with
    | cons hfirst _ => cases (hnumber _ _).mp hfirst
  · have hnumbers := (compact_canonical_eq_iff (int 1) (number (.float x))).1.mp h
    cases (hnumber _ _).mp hnumbers

end Json

end TableQuery
