import TableQuery.Proofs.Filter.Rendering
import TableQuery.Proofs.Query.Unfiltered
import TableQuery.Proofs.Sql.Delimited

/-!
# The identifiers in conditions

Whatever characters the columns' names have, the identifiers in the text of a condition are the
names of the columns that it was written for, and everything else in it is plain.

* `Comparison.mentions`: the names that a comparison is written with.
* `Comparison.finds_text`, `Predicate.finds_text`: these are the identifiers in its text.
* `quoted_names_read_back`: no name ends its identifier too early, by itself or in a condition.
-/

namespace TableQuery

/-! ## Texts of columns -/

/-- How often the text of a column's value names the column. -/
def ColumnType.textMentions : ColumnType → ℕ
  | .number => 5
  | _ => 1

theorem finds_textExpression (column : String) (type : ColumnType) :
    Finds (textExpression (quoteIdentifier column) type).toList
      (List.replicate type.textMentions column) := by
  have hname := finds_quoteIdentifier column
  have hcast : Finds ("CAST(" ++ quoteIdentifier column ++ " AS VARCHAR)").toList [column] := by
    rw [String.toList_append, String.toList_append]
    exact (hname.after "CAST(".toList rfl).before " AS VARCHAR)".toList rfl
  cases type with
  | number =>
    -- The mentions from the last to the first, each with the text up to the next.
    have helse := hname.before " AS VARCHAR) END".toList rfl
    have hwhole := hname.joined helse " AS BIGINT) AS VARCHAR) ELSE CAST(".toList rfl nofun
    have hsmall := hname.joined hwhole ") < 1e18 THEN CAST(CAST(".toList rfl nofun
    have htrunc := hname.joined hsmall ") AND ABS(".toList rfl nofun
    have hequal := hname.joined htrunc " = TRUNC(".toList rfl nofun
    unfold textExpression
    simp only [String.toList_append, List.append_assoc]
    exact hequal.after "CASE WHEN ".toList rfl
  | _ => exact hcast

/-! ## Comparisons -/

namespace Comparison

/-- The names that the comparison is written with: none for the empty list, as nothing is asked of
the column then. -/
def mentions (c : Comparison) : List String :=
  if c.operand = .list [] then []
  else List.replicate (if c.castToText then c.type.textMentions else 1) c.column

theorem finds_subject (c : Comparison) :
    Finds c.subject.toList
      (List.replicate (if c.castToText then c.type.textMentions else 1) c.column) := by
  unfold subject
  split
  · exact finds_textExpression c.column c.type
  · exact finds_quoteIdentifier c.column

theorem finds_placeholders (values : List Param) : Finds (placeholders values).toList [] := by
  have hplain : ", ".toList.all isPlain = true := rfl
  have hmark : ∀ p ∈ values, Finds "?".toList [] := fun _ _ => finds_of_plain rfl
  have h := finds_intercalate hplain nofun hmark
  rw [List.flatMap_eq_nil_iff.mpr fun _ _ => rfl] at h
  rwa [placeholders, String.toList_intercalate, List.map_map]

theorem isPlain_sign (op : Operator) : (" " ++ op.sql ++ " ?").toList.all isPlain := by
  cases op <;> rfl

/-- The identifiers in the text of a comparison. -/
theorem finds_text (c : Comparison) : Finds c.text.toList c.mentions := by
  have hsubject := c.finds_subject
  obtain ⟨column, type, op, operand, castToText⟩ := c
  cases operand with
  | scalar p =>
    have hsign := hsubject.before _ (isPlain_sign op)
    cases p with
    | null =>
      cases op with
      | eq => simpa [text, mentions] using hsubject.before " IS NULL".toList rfl
      | ne => simpa [text, mentions] using hsubject.before " IS NOT NULL".toList rfl
      | _ => simpa [text, mentions] using hsign
    | _ => simpa [text, mentions] using hsign
  | list ps =>
    cases ps with
    | nil =>
      have hnothing : Finds "1 = 0".toList [] := finds_of_plain rfl
      have heverything : Finds "1 = 1".toList [] := finds_of_plain rfl
      cases op with
      | notIn => exact heverything
      | _ => exact hnothing
    | cons p ps =>
      have hlist := (finds_placeholders (p :: ps)).before ")".toList rfl
      have hin := hsubject.joined hlist " IN (".toList rfl (by decide)
      have hnotIn := hsubject.joined hlist " NOT IN (".toList rfl (by decide)
      cases op with
      | notIn => simpa [text, mentions] using hnotIn
      | _ => simpa [text, mentions] using hin

end Comparison

/-! ## Predicates -/

namespace Predicate

theorem comparisonsOfAll_eq_flatMap (ps : List Predicate) :
    comparisonsOfAll ps = ps.flatMap comparisons := by
  induction ps with
  | nil => rfl
  | cons p rest ih => rw [comparisonsOfAll, ih, List.flatMap_cons]

theorem isPlain_connective (kind : Connective) : (" " ++ kind.sql ++ " ").toList.all isPlain := by
  cases kind <;> rfl

theorem finds_joined (kind : Connective) {ps : List Predicate}
    (h : ∀ p ∈ ps, Finds p.text.toList (p.comparisons.flatMap Comparison.mentions)) :
    Finds ((" " ++ kind.sql ++ " ").intercalate (texts ps)).toList
      ((comparisonsOfAll ps).flatMap Comparison.mentions) := by
  have hne : (" " ++ kind.sql ++ " ").toList ≠ [] := by simp
  have hall := finds_intercalate (isPlain_connective kind) hne h
  rwa [texts_eq_map, comparisonsOfAll_eq_flatMap, List.flatMap_assoc, String.toList_intercalate,
    List.map_map]

mutual

/-- The identifiers in the text of a predicate. -/
theorem finds_text : (p : Predicate) →
    Finds p.text.toList (p.comparisons.flatMap Comparison.mentions)
  | .compare c => by
    rw [text, comparisons, List.flatMap_singleton]
    exact c.finds_text
  | .group kind members => by
    have hmembers := finds_joined kind (finds_texts members)
    rw [text, comparisons, String.toList_append, String.toList_append]
    exact (hmembers.after "(".toList rfl).before ")".toList rfl

theorem finds_texts : (ps : List Predicate) →
    ∀ p ∈ ps, Finds p.text.toList (p.comparisons.flatMap Comparison.mentions)
  | [] => nofun
  | p :: rest => List.forall_mem_cons.mpr ⟨finds_text p, finds_texts rest⟩

end

end Predicate

/-- A quoted name is read up to its end, and as that name, exactly if no quote follows. So the
identifiers in the text of predicates are the names that their comparisons are written with, in the
order of the text. -/
theorem quoted_names_read_back :
    (∀ (name : String) (rest : List Char),
      delimited? ((quoteIdentifier name).toList ++ rest) = some (name, rest) ↔
        rest.head? ≠ some '"') ∧
    ∀ ps : List Predicate, delimitedNames? (Predicate.conjunction ps).toList =
      some ((Predicate.comparisonsOfAll ps).flatMap Comparison.mentions) :=
  ⟨fun _ _ => delimited?_quoteIdentifier_iff, fun ps =>
    (Predicate.finds_joined .and (Predicate.finds_texts ps)).alone⟩

/-- A name that would close itself and go on with a condition and a comment. -/
example : delimitedNames? (Predicate.conjunction [
    .compare ⟨"x\" OR 1=1 --", .string, .eq, .scalar (.int 1), false⟩,
    .compare ⟨"y", .string, .inList, .list [], false⟩,
    .compare ⟨"\"\"", .date, .like, .scalar (.text "%5%"), true⟩]).toList =
    some ["x\" OR 1=1 --", "\"\""] := by
  decide +kernel

end TableQuery
