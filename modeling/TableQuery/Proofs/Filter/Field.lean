import TableQuery.Proofs.Filter.Order

/-!
# The fields that filters name

A filter names fields as keys of its objects. What it is read as has a condition or several for
each of these keys, so the fields in question are the same, in the same order.

* `Json.namedFields`: the fields that a filter names, in its order and at every depth.
* `unknownFields_eq`: the fields of a filter that a table does not have.
* `namedFields_canonical`: the order of entries changes the order of the fields alone.
-/

namespace TableQuery

/-! ## First occurrences -/

theorem foldl_eq_append_eraseDups (xs seen : List String) :
    xs.foldl (fun seen x => if seen.contains x then seen else seen ++ [x]) seen =
      seen ++ (xs.removeAll seen).eraseDups := by
  induction xs generalizing seen with
  | nil => simp [List.removeAll]
  | cons x rest ih =>
    rw [List.foldl_cons, ih]
    by_cases hx : seen.contains x = true
    · have hskip : (x :: rest).removeAll seen = rest.removeAll seen := by
        simp [List.removeAll, show x ∈ seen by simpa using hx]
      rw [if_pos hx, hskip]
    · have hkeep : (x :: rest).removeAll seen = x :: rest.removeAll seen := by
        simp [List.removeAll, show x ∉ seen by simpa using hx]
      have hlater : rest.removeAll (seen ++ [x]) = (rest.removeAll seen).filter fun y => !y == x := by
        simp only [List.removeAll, List.filter_filter]
        refine List.filter_congr fun y _ => ?_
        by_cases hy : y = x <;> simp [hy]
      rw [if_neg hx, hkeep, List.eraseDups_cons, hlater, List.append_assoc, List.singleton_append]

theorem firstOccurrences_eq_eraseDups (xs : List String) : firstOccurrences xs = xs.eraseDups := by
  have hnone : xs.removeAll [] = xs := by simp [List.removeAll]
  have h := foldl_eq_append_eraseDups xs []
  rwa [hnone, List.nil_append] at h

/-- The elements of both lists that pass a test occur for the first time in the same order,
whatever the test is. -/
def SameOccurrences (xs ys : List String) : Prop :=
  ∀ test : String → Bool, (xs.filter test).eraseDups = (ys.filter test).eraseDups

namespace SameOccurrences

theorem refl (xs : List String) : SameOccurrences xs xs := fun _ => rfl

theorem mem_iff {xs ys : List String} (h : SameOccurrences xs ys) (x : String) :
    x ∈ xs ↔ x ∈ ys := by
  have hall := h fun _ => true
  have hfilter (zs : List String) : zs.filter (fun _ => true) = zs :=
    List.filter_eq_self.mpr fun _ _ => rfl
  rw [hfilter, hfilter] at hall
  rw [← List.mem_eraseDups, hall, List.mem_eraseDups]

theorem append {xs ys xs' ys' : List String} (h : SameOccurrences xs ys)
    (h' : SameOccurrences xs' ys') : SameOccurrences (xs ++ xs') (ys ++ ys') := by
  intro test
  -- What comes later counts only where it has not come before.
  have hlater (zs zs' : List String) : (zs'.filter test).removeAll (zs.filter test) =
      zs'.filter fun x => test x && !zs.contains x := by
    simp only [List.removeAll, List.filter_filter]
    refine List.filter_congr fun x _ => ?_
    cases hx : test x <;> simp [hx]
  have hmem : (fun x => test x && !xs.contains x) = fun x => test x && !ys.contains x := by
    funext x
    simp only [List.contains_eq_mem, h.mem_iff x]
  rw [List.filter_append, List.filter_append, List.eraseDups_append, List.eraseDups_append, hlater,
    hlater, h test, hmem, h']

/-- An element that is repeated occurs for the first time where it stands alone. -/
theorem replicate_succ (n : Nat) (x : String) :
    SameOccurrences (List.replicate (n + 1) x) [x] := by
  intro test
  by_cases hx : test x = true <;> simp [hx, List.replicate_succ, List.eraseDups_cons]

end SameOccurrences

/-! ## Fields -/

namespace Filter

/-- The field that a key names: itself, unless it begins with a dollar sign. -/
def namedByKey (key : String) : List String := if isOperatorKey key then [] else [key]

mutual

/-- The fields that the entries of a filter object name. -/
def namedFields : List (String × Json) → List String
  | [] => []
  | (key, .array items) :: rest =>
    (if (Connective.ofKey? key).isSome then namedInMembers items else namedByKey key) ++
      namedFields rest
  | (key, _) :: rest => namedByKey key ++ namedFields rest

/-- The fields that the members of a group name. -/
def namedInMembers : List Json → List String
  | [] => []
  | .object entries :: rest => namedFields entries ++ namedInMembers rest
  | _ :: rest => namedInMembers rest

end

/-- The fields that one entry names. -/
def namedInEntry (key : String) : Json → List String
  | .array items =>
    if (Connective.ofKey? key).isSome then namedInMembers items else namedByKey key
  | _ => namedByKey key

theorem namedFields_cons (key : String) (value : Json) (rest : List (String × Json)) :
    namedFields ((key, value) :: rest) = namedInEntry key value ++ namedFields rest := by
  cases value <;> rw [namedFields] <;> first | rfl | simp

theorem namedInMembers_other {v : Json} (h : v.kind ≠ .object) (rest : List Json) :
    namedInMembers (v :: rest) = namedInMembers rest := by
  rw [namedInMembers]
  rintro entries rfl
  exact h rfl

end Filter

/-- The fields that a filter names, in its order and at every depth. -/
def Json.namedFields : Json → List String
  | .object entries => Filter.namedFields entries
  | _ => []

namespace Filter

theorem fieldsOfAll_append (fs gs : List Filter) :
    fieldsOfAll (fs ++ gs) = fieldsOfAll fs ++ fieldsOfAll gs := by
  induction fs with
  | nil => rfl
  | cons f rest ih => rw [List.cons_append, fieldsOfAll, fieldsOfAll, ih, List.append_assoc]

theorem fieldsOfAll_asMember (fs : List Filter) : fieldsOfAll (asMember fs) = fieldsOfAll fs := by
  match fs with
  | [] => rfl
  | [_] => rfl
  | f :: g :: rest =>
    show fieldsOf (.group .and (f :: g :: rest)) ++ [] = _
    rw [fieldsOf, List.append_nil]

theorem fieldsOfAll_of_conditions {field : String} {fs : List Filter}
    (h : ∀ f ∈ fs, ∃ operator value, f = .condition ⟨field, operator, value⟩) :
    fieldsOfAll fs = List.replicate fs.length field := by
  induction fs with
  | nil => rfl
  | cons f rest ih =>
    obtain ⟨operator, value, rfl⟩ := h f (by simp)
    rw [fieldsOfAll, fieldsOf, ih fun g hg => h g (by simp [hg])]
    rfl

/-- The conditions on a field are all that is read for its key. -/
theorem fieldsOfAll_ofField? {field : String} {value : Json} {fs : List Filter}
    (h : ofField? field value = .ok fs) : SameOccurrences (fieldsOfAll fs) [field] := by
  obtain ⟨hne, hall⟩ := ofField?_eq_ok h
  obtain ⟨n, hn⟩ := Nat.exists_eq_succ_of_ne_zero (mt List.eq_nil_of_length_eq_zero hne)
  rw [fieldsOfAll_of_conditions hall, hn]
  exact .replicate_succ n field

mutual

/-- The fields of the conditions are those that the entries name. -/
theorem fieldsOfAll_ofEntries? : (es : List (String × Json)) → {fs : List Filter} →
    ofEntries? es = .ok fs → SameOccurrences (fieldsOfAll fs) (namedFields es)
  | [], fs, h => by
    rw [ofEntries?] at h
    cases h
    rw [namedFields]
    exact .refl _
  | (key, value) :: rest, fs, h => by
    rw [ofEntries?_cons] at h
    obtain ⟨here, hhere, h⟩ := bind_eq_ok.mp h
    obtain ⟨more, hmore, h⟩ := bind_eq_ok.mp h
    cases h
    rw [fieldsOfAll_append, namedFields_cons]
    refine .append ?_ (fieldsOfAll_ofEntries? rest hmore)
    rcases ofEntry?_eq_ok hhere with
      ⟨kind, items, members, hkey, rfl, hmembers, rfl⟩ | ⟨hkey, hname, hfield⟩
    · have hitems := fieldsOfAll_ofMembers? kind items hmembers
      rw [fieldsOfAll, fieldsOf, fieldsOfAll, List.append_nil]
      simpa [namedInEntry, hkey] using hitems
    · have hentry : namedInEntry key value = [key] := by
        cases value <;> simp [namedInEntry, namedByKey, hkey, hname]
      rw [hentry]
      exact fieldsOfAll_ofField? hfield

/-- The fields of the conditions are those that the members name. -/
theorem fieldsOfAll_ofMembers? (kind : Connective) : (items : List Json) → {fs : List Filter} →
    ofMembers? kind items = .ok fs → SameOccurrences (fieldsOfAll fs) (namedInMembers items)
  | [], fs, h => by
    rw [ofMembers?] at h
    cases h
    rw [namedInMembers]
    exact .refl _
  | v :: rest, fs, h => by
    obtain ⟨entries, parsed, more, rfl, hparsed, hmore, rfl⟩ := ofMembers?_cons_eq_ok h
    rw [fieldsOfAll_append, fieldsOfAll_asMember, namedInMembers]
    exact (fieldsOfAll_ofEntries? entries hparsed).append (fieldsOfAll_ofMembers? kind rest hmore)

end

theorem fieldsOfAll_ofJson? {filter : Json} {fs : List Filter} (h : ofJson? filter = .ok fs) :
    SameOccurrences (fieldsOfAll fs) filter.namedFields := by
  cases filter with
  | null => cases h; exact .refl _
  | object entries => exact fieldsOfAll_ofEntries? entries h
  | _ => cases h

end Filter

/-- The fields of a filter that a table does not have, each once and where the filter first names
it. -/
theorem unknownFields_eq {table : Table} {filter : Json} {fs : List Filter}
    (h : Filter.ofJson? filter = .ok fs) :
    unknownFields table fs =
      (filter.namedFields.filter fun name => (table.column? name).isNone).eraseDups := by
  unfold unknownFields
  rw [firstOccurrences_eq_eraseDups]
  exact Filter.fieldsOfAll_ofJson? h _

/-! ## Canonical forms -/

namespace Filter

theorem namedInMembers_other_canonical {v : Json} (h : v.kind ≠ .object) {rest : List Json}
    (hrest : (namedInMembers (Json.canonicalItems rest)).Perm (namedInMembers rest)) :
    (namedInMembers (Json.canonicalItems (v :: rest))).Perm (namedInMembers (v :: rest)) := by
  have hcanonical : v.canonical.kind ≠ .object := by rwa [Json.kind_canonical]
  rwa [Json.canonicalItems, namedInMembers_other hcanonical, namedInMembers_other h]

theorem namedFields_eq_flatMap (es : List (String × Json)) :
    namedFields es = es.flatMap fun e => namedInEntry e.1 e.2 := by
  induction es with
  | nil => rw [namedFields]; rfl
  | cons e rest ih => rw [namedFields_cons, ih, List.flatMap_cons]

theorem namedFields_perm {es fs : List (String × Json)} (h : es.Perm fs) :
    (namedFields es).Perm (namedFields fs) := by
  rw [namedFields_eq_flatMap, namedFields_eq_flatMap]
  exact h.flatMap_right _

mutual

theorem namedInEntry_canonical (key : String) : (v : Json) →
    (namedInEntry key v.canonical).Perm (namedInEntry key v)
  | .array items => by
    rw [Json.canonical, namedInEntry, namedInEntry]
    split
    · exact namedInMembers_canonical items
    · exact .refl _
  | .object fields => by rw [Json.canonical]; exact .refl _
  | .null | .bool _ | .number _ | .string _ => by rw [Json.canonical]

theorem namedInMembers_canonical : (items : List Json) →
    (namedInMembers (Json.canonicalItems items)).Perm (namedInMembers items)
  | [] => by rw [Json.canonicalItems]
  | .object fields :: rest => by
    rw [Json.canonicalItems, Json.canonical, namedInMembers, namedInMembers]
    have hsorted := namedFields_perm (Json.sortFields_perm (Json.canonicalFields fields))
    exact (hsorted.trans (namedFields_canonicalFields fields)).append (namedInMembers_canonical rest)
  | .array _ :: rest =>
    namedInMembers_other_canonical (by simp [Json.kind]) (namedInMembers_canonical rest)
  | .null :: rest | .bool _ :: rest | .number _ :: rest | .string _ :: rest =>
    namedInMembers_other_canonical (by simp [Json.kind]) (namedInMembers_canonical rest)

theorem namedFields_canonicalFields : (fields : List (String × Json)) →
    (namedFields (Json.canonicalFields fields)).Perm (namedFields fields)
  | [] => by rw [Json.canonicalFields]
  | (key, v) :: rest => by
    rw [Json.canonicalFields, namedFields_cons, namedFields_cons]
    exact (namedInEntry_canonical key v).append (namedFields_canonicalFields rest)

end

end Filter

/-- A filter and its canonical form name the same fields, perhaps in another order. -/
theorem namedFields_canonical (filter : Json) :
    filter.canonical.namedFields.Perm filter.namedFields := by
  cases filter with
  | object fields =>
    rw [Json.canonical]
    have hsorted := Filter.namedFields_perm (Json.sortFields_perm (Json.canonicalFields fields))
    exact hsorted.trans (Filter.namedFields_canonicalFields fields)
  | array items => rw [Json.canonical]; exact .refl _
  | _ => rw [Json.canonical]

end TableQuery
