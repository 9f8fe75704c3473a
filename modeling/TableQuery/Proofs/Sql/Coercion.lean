import TableQuery.Proofs.Result
import TableQuery.Sql.Param

/-!
# Parameters of JSON values

* `Param.isNull_of_coerce`: a parameter is null if it comes from `null` and only then.
* `Param.ofBound_toBound`: a parameter survives the way through the statement builder.
-/

namespace TableQuery

/-- The value is `null`. -/
def Json.isNull : Json → Bool
  | .null => true
  | _ => false

/-- The length of an array. -/
def Json.listLength? : Json → Option Nat
  | .array items => some items.length
  | _ => none

namespace Param

theorem isNull_ofNumber (n : JsonNumber) : (ofNumber n).isNull = false := by
  unfold ofNumber
  split <;> rfl

theorem isNull_of_ofNumeral? {s : String} {p : Param} (h : ofNumeral? s = some p) :
    p.isNull = false := by
  unfold ofNumeral? at h
  simp only at h
  split at h
  · cases h; rfl
  · split at h
    · split at h
      · cases h; rfl
      · cases h
    · cases h

theorem isNull_of_ofScalar? {type : ColumnType} {value : Json} {p : Param}
    (h : ofScalar? type value = some p) : p.isNull = false := by
  unfold ofScalar? at h
  split at h
  · cases h; exact isNull_ofNumber _
  · exact isNull_of_ofNumeral? h
  · cases h
  · cases h; rfl
  · unfold ofTruthNumber? at h
    split at h <;> cases h <;> rfl
  · unfold ofTruthText? at h
    split at h <;> cases h <;> rfl
  · cases h
  · cases h; rfl
  · cases h; rfl

/-- A parameter is null if its value is, and only then. -/
theorem isNull_of_coerce {value : Json} {type : ColumnType} {field : String} {p : Param}
    (h : coerce value type field = .ok p) : p.isNull = value.isNull := by
  unfold coerce at h
  split at h
  · cases h; rfl
  · cases h
  · cases h
  · split at h
    · rename_i hv
      cases h
      rw [isNull_of_ofScalar? hv]
      cases value <;> first | rfl | contradiction
    · cases h

/-- A parameter comes back from the statement builder as it was. -/
theorem ofBound_toBound (p : Param) : ofBound p.toBound = .ok p := by
  cases p <;> rfl

theorem mapM_ofBound_toBound (ps : List Param) : (ps.map toBound).mapM ofBound = .ok ps := by
  induction ps with
  | nil => rfl
  | cons p ps ih => rw [List.map_cons, List.mapM_cons, ofBound_toBound, ih]; rfl

end Param

end TableQuery
