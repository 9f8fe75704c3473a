import Mathlib.Data.List.Basic
import TableQuery.Query.Statement

/-!
# Patterns that a builder keeps

A pattern is put to the builder as text of its own, with a placeholder behind the quoted name. A
builder keeps such text and binds the value in it, unless it takes a backslash in the name for an
escape. What is built of plain names is the text with the value, whichever the builder is.

* `CustomText.KeepsPatterns`: what is expected of a builder.
* `Plan.HasPlainPatterns`: no pattern that is put to the builder has a backslash in its name.
* `selectRows_custom`, `selectCount_custom`, `updateRows_custom`, `deleteRows_custom`: the
  statements of such a plan.
* `CustomText.escaping`: a builder to which a backslash is an escape.
-/

namespace TableQuery

/-- The builder keeps the text of a pattern and binds its value, for names without a backslash. -/
def CustomText.KeepsPatterns (custom : CustomText) : Prop :=
  ∀ (name : String) (value : BoundValue), '\\' ∉ name.toList →
    custom (quoteIdentifier name ++ " ILIKE ?") [value] =
      ⟨quoteIdentifier name ++ " ILIKE ?", [value]⟩

/-- So does a builder that takes text and values as they are. -/
theorem Draft.mk_keepsPatterns : CustomText.KeepsPatterns Draft.mk := fun _ _ _ => rfl

/-- If the comparison is a pattern, its name has no backslash. -/
def Comparison.HasPlainPattern (c : Comparison) : Prop := c.isCustom = true → '\\' ∉ c.column.toList

/-- No pattern that is put to the builder has a backslash in its name. -/
def Plan.HasPlainPatterns : Plan → Prop
  | .builder comparisons => ∀ c ∈ comparisons, c.HasPlainPattern
  | .raw .. => True

instance (c : Comparison) : Decidable c.HasPlainPattern := inferInstanceAs (Decidable (_ → _))

instance : (plan : Plan) → Decidable plan.HasPlainPatterns
  | .builder comparisons => inferInstanceAs (Decidable (∀ c ∈ comparisons, c.HasPlainPattern))
  | .raw .. => inferInstanceAs (Decidable True)

/-! ## What is built -/

section

variable {custom : CustomText} (hcustom : custom.KeepsPatterns)

include hcustom

theorem Comparison.draft_custom {c : Comparison} (h : c.HasPlainPattern) :
    c.draft custom = c.draft := by
  obtain ⟨column, type, op, operand, castToText⟩ := c
  cases operand with
  | scalar p =>
    cases op with
    | like => cases p <;> exact hcustom column _ (h rfl)
    | _ => cases p <;> rfl
  | list ps => cases ps <;> cases op <;> rfl

theorem Comparison.amongOthers_custom {c : Comparison} (h : c.HasPlainPattern) :
    c.amongOthers custom = c.amongOthers := by
  unfold amongOthers
  rw [draft_custom hcustom h]

theorem builderClause_custom {cs : List Comparison} (h : ∀ c ∈ cs, c.HasPlainPattern) :
    builderClause cs custom = builderClause cs := by
  have hdrafts : ∀ c ∈ cs, c.draft custom = c.draft := fun c hc =>
    Comparison.draft_custom hcustom (h c hc)
  match cs with
  | [] => rfl
  | [c] => simp only [builderClause, hdrafts c List.mem_cons_self]
  | c :: d :: rest =>
    have htexts := List.map_congr_left fun e he => Comparison.amongOthers_custom hcustom (h e he)
    have hvalues := List.flatMap_congr fun e he => congrArg Draft.values (hdrafts e he)
    simp only [builderClause, htexts, hvalues]

variable {q : Query} (h : q.plan.HasPlainPatterns)

include h

theorem selectRows_custom : selectRows q custom = selectRows q := by
  obtain ⟨datasetId, table, columns, page, plan, dropped⟩ := q
  cases plan with
  | builder cs => simp only [selectRows, builderClause_custom hcustom h]
  | raw text params => rfl

theorem selectCount_custom : selectCount q custom = selectCount q := by
  obtain ⟨datasetId, table, columns, page, plan, dropped⟩ := q
  cases plan with
  | builder cs => simp only [selectCount, builderClause_custom hcustom h]
  | raw text params => rfl

theorem updateRows_custom (assignments : List (String × Param)) :
    updateRows q assignments custom = updateRows q assignments := by
  obtain ⟨datasetId, table, columns, page, plan, dropped⟩ := q
  cases plan with
  | builder cs => simp only [updateRows, builderClause_custom hcustom h]
  | raw text params => rfl

theorem deleteRows_custom : deleteRows q custom = deleteRows q := by
  obtain ⟨datasetId, table, columns, page, plan, dropped⟩ := q
  cases plan with
  | builder cs => simp only [deleteRows, builderClause_custom hcustom h]
  | raw text params => rfl

end

/-! ## A builder with escapes -/

/-- The values that are bound in text, from outside of a name in double quotes or from inside of
one: each placeholder outside takes the next value. In a name a backslash takes the meaning from
the character behind it. -/
def boundIn : Bool → List Char → List BoundValue → List BoundValue
  | _, [], _ => []
  | true, '\\' :: _ :: rest, values => boundIn true rest values
  | true, '"' :: rest, values => boundIn false rest values
  | false, '"' :: rest, values => boundIn true rest values
  | false, '?' :: rest, value :: values => value :: boundIn false rest values
  | quoted, _ :: rest, values => boundIn quoted rest values

/-- To this builder a backslash in a quoted name is an escape. -/
def CustomText.escaping : CustomText := fun text values => ⟨text, boundIn false text.toList values⟩

/-- A name without a backslash is left where it is closed. -/
theorem boundIn_doubleQuotes {cs : List Char} (h : '\\' ∉ cs) (rest : List Char)
    (values : List BoundValue) :
    boundIn true (doubleQuotes cs ++ '"' :: rest) values = boundIn false rest values := by
  induction cs with
  | nil => rfl
  | cons c cs ih =>
    obtain ⟨hc, hcs⟩ := not_or.mp (mt List.mem_cons.mpr h)
    by_cases hquote : c = '"'
    · subst hquote
      exact ih hcs
    · have hstep : boundIn true (c :: (doubleQuotes cs ++ '"' :: rest)) values =
          boundIn true (doubleQuotes cs ++ '"' :: rest) values := by
        simp [boundIn, hquote, Ne.symm hc]
      rw [doubleQuotes, if_neg hquote, List.cons_append, hstep, ih hcs]

theorem CustomText.escaping_keepsPatterns : escaping.KeepsPatterns := by
  intro name value h
  have htext : (quoteIdentifier name ++ " ILIKE ?").toList =
      '"' :: (doubleQuotes name.toList ++ '"' :: " ILIKE ?".toList) := by
    simp [quoteIdentifier]
  rw [escaping, htext]
  exact congrArg (Draft.mk _) (boundIn_doubleQuotes h _ _)

/-- The value of a pattern is lost where its name ends with a backslash. -/
example : builderClause [⟨"a\\", .string, .like, .scalar (.text "%x%"), false⟩] .escaping =
    ⟨" WHERE \"a\\\" ILIKE ?", []⟩ := by
  decide +kernel

end TableQuery
