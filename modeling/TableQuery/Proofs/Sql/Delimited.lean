import TableQuery.Sql.Identifier

/-!
# Delimited identifiers

SQL text is searched from left to right for the identifiers between double quotes in it. Two quotes
inside of an identifier stand for one, and a quote that is not followed by another one closes it.

* `delimited?`: the identifier at the beginning of a text, and what stands behind it.
* `delimited?_quoteIdentifier_iff`: a quoted name is read up to its end, and as that name, if the
  text goes on with anything but a quote.
* `delimitedNames?`: the identifiers in a text.
* `Finds`: a piece of text has the given identifiers in it, wherever it stands. The texts of
  statements are put together from such pieces.
-/

namespace TableQuery

/-! ## One identifier -/

/-- The characters of an identifier whose opening quote is read already, and what stands behind its
closing quote. -/
def delimitedTail? : List Char → Option (List Char × List Char)
  | [] => none
  | '"' :: '"' :: rest => (delimitedTail? rest).map (Prod.map ('"' :: ·) id)
  | '"' :: rest => some ([], rest)
  | c :: rest => (delimitedTail? rest).map (Prod.map (c :: ·) id)

/-- The identifier at the beginning of a text, and what stands behind it. -/
def delimited? : List Char → Option (String × List Char)
  | '"' :: rest => (delimitedTail? rest).map (Prod.map String.ofList id)
  | _ => none

theorem length_delimitedTail? {text name rest : List Char}
    (h : delimitedTail? text = some (name, rest)) : rest.length < text.length := by
  fun_induction delimitedTail? text generalizing name with
  | case1 => cases h
  | case2 tail ih =>
    obtain ⟨⟨inner, behind⟩, hinner, heq⟩ := Option.map_eq_some_iff.mp h
    cases heq
    exact Nat.lt_add_right 1 (Nat.lt_succ_of_lt (ih hinner))
  | case3 tail => cases h; simp
  | case4 c tail _ _ ih =>
    obtain ⟨⟨inner, behind⟩, hinner, heq⟩ := Option.map_eq_some_iff.mp h
    cases heq
    exact Nat.lt_succ_of_lt (ih hinner)

theorem length_delimited? {text rest : List Char} {name : String}
    (h : delimited? text = some (name, rest)) : rest.length < text.length := by
  unfold delimited? at h
  split at h
  · obtain ⟨⟨inner, behind⟩, hinner, heq⟩ := Option.map_eq_some_iff.mp h
    cases heq
    exact Nat.lt_succ_of_lt (length_delimitedTail? hinner)
  · cases h

/-- The quotes of a name come in pairs, so that reading it leaves off between two characters of the
text that it was written as. -/
theorem delimitedTail?_doubleQuotes (name rest : List Char) :
    delimitedTail? (doubleQuotes name ++ rest) =
      (delimitedTail? rest).map (Prod.map (name ++ ·) id) := by
  induction name with
  | nil => exact (congrFun Option.map_id _).symm
  | cons c cs ih =>
    by_cases hc : c = '"'
    · subst hc
      have h : doubleQuotes ('"' :: cs) ++ rest = '"' :: '"' :: (doubleQuotes cs ++ rest) := rfl
      rw [h, delimitedTail?, ih, Option.map_map]
      rfl
    · have h : doubleQuotes (c :: cs) ++ rest = c :: (doubleQuotes cs ++ rest) := by
        simp [doubleQuotes, hc]
      rw [h, delimitedTail?, ih, Option.map_map]
      · rfl
      all_goals simp [hc]

theorem delimited?_quoteIdentifier (name : String) (rest : List Char) :
    delimited? ((quoteIdentifier name).toList ++ rest) =
      (delimitedTail? ('"' :: rest)).map
        (Prod.map (fun tail => String.ofList (name.toList ++ tail)) id) := by
  have htext : (quoteIdentifier name).toList ++ rest =
      '"' :: (doubleQuotes name.toList ++ '"' :: rest) := by
    simp [quoteIdentifier]
  rw [htext, delimited?, delimitedTail?_doubleQuotes, Option.map_map]
  rfl

/-- A quoted name is read up to its end, and as that name, unless a quote follows. -/
theorem delimited?_quoteIdentifier_iff {name : String} {rest : List Char} :
    delimited? ((quoteIdentifier name).toList ++ rest) = some (name, rest) ↔
      rest.head? ≠ some '"' := by
  rw [delimited?_quoteIdentifier]
  match rest with
  | [] => simp [delimitedTail?]
  | c :: rest =>
    by_cases hc : c = '"'
    · -- The name that is read has a quote more.
      subst hc
      simp [delimitedTail?, String.ext_iff]
    · simp [delimitedTail?, hc]

/-! ## The identifiers in a text -/

/-- Outside of identifiers, the character opens neither an identifier nor a literal or a comment,
and does not end the statement. -/
def isPlain (c : Char) : Bool := c ∉ ['"', '\'', '-', '/', ';', '$']

/-- The identifiers in a text, in their order. There are none to be told if one is not closed or
a character outside of them is not plain. -/
def delimitedNames? (text : List Char) : Option (List String) :=
  match h : delimited? text with
  | some (name, rest) =>
    have := length_delimited? h
    (delimitedNames? rest).map (name :: ·)
  | none =>
    match text with
    | [] => some []
    | c :: rest => if isPlain c then delimitedNames? rest else none
termination_by text.length

theorem delimitedNames?_nil : delimitedNames? [] = some [] := by
  rw [delimitedNames?]
  rfl

theorem delimitedNames?_of_delimited? {text rest : List Char} {name : String}
    (h : delimited? text = some (name, rest)) :
    delimitedNames? text = (delimitedNames? rest).map (name :: ·) := by
  rw [delimitedNames?]
  split <;> simp_all

theorem delimitedNames?_cons {c : Char} (hc : isPlain c) (rest : List Char) :
    delimitedNames? (c :: rest) = delimitedNames? rest := by
  have hquote : c ≠ '"' := by rintro rfl; exact absurd hc (by decide)
  have hnone : delimited? (c :: rest) = none := by simp [delimited?, hquote]
  rw [delimitedNames?]
  split <;> simp_all

theorem delimitedNames?_append {text : List Char} (h : text.all isPlain) (rest : List Char) :
    delimitedNames? (text ++ rest) = delimitedNames? rest := by
  induction text with
  | nil => rfl
  | cons c text ih =>
    rw [List.all_cons, Bool.and_eq_true] at h
    rw [List.cons_append, delimitedNames?_cons h.1, ih h.2]

theorem head?_of_plain {text : List Char} (h : text.all isPlain) : text.head? ≠ some '"' := by
  intro hquote
  have hmem := List.mem_of_mem_head? hquote
  exact absurd (List.all_eq_true.mp h _ hmem) (by decide)

/-! ## Pieces of text -/

/-- The names are the identifiers of the text, whatever it stands before. Only a quote right behind
it could go on with its last identifier. -/
def Finds (text : List Char) (names : List String) : Prop :=
  ∀ rest, rest.head? ≠ some '"' →
    delimitedNames? (text ++ rest) = (delimitedNames? rest).map (names ++ ·)

theorem finds_quoteIdentifier (name : String) : Finds (quoteIdentifier name).toList [name] :=
  fun _ hrest => delimitedNames?_of_delimited? (delimited?_quoteIdentifier_iff.mpr hrest)

theorem finds_of_plain {text : List Char} (h : text.all isPlain) : Finds text [] := fun rest _ =>
  (delimitedNames?_append h rest).trans (congrFun Option.map_id _).symm

namespace Finds

variable {a b : List Char} {names more : List String}

theorem alone (h : Finds a names) : delimitedNames? a = some names := by
  have hall := h [] nofun
  rwa [List.append_nil, delimitedNames?_nil, Option.map_some, List.append_nil] at hall

theorem append (ha : Finds a names) (hb : Finds b more) (hhead : b.head? ≠ some '"') :
    Finds (a ++ b) (names ++ more) := by
  intro rest hrest
  have hbehind : (b ++ rest).head? ≠ some '"' := by
    cases b with
    | nil => exact hrest
    | cons c b => exact hhead
  rw [List.append_assoc, ha _ hbehind, hb _ hrest, Option.map_map]
  congr 1
  funext found
  exact (List.append_assoc ..).symm

theorem after (h : Finds a names) (before : List Char) (hplain : before.all isPlain) :
    Finds (before ++ a) names := by
  intro rest hrest
  rw [List.append_assoc, delimitedNames?_append hplain, h rest hrest]

theorem before (h : Finds a names) (behind : List Char) (hplain : behind.all isPlain) :
    Finds (a ++ behind) names := by
  simpa using h.append (finds_of_plain hplain) (head?_of_plain hplain)

theorem joined (ha : Finds a names) (hb : Finds b more) (between : List Char)
    (hplain : between.all isPlain) (hne : between ≠ []) :
    Finds (a ++ (between ++ b)) (names ++ more) := by
  refine ha.append (hb.after between hplain) ?_
  cases between with
  | nil => exact absurd rfl hne
  | cons c between => simpa using head?_of_plain hplain

end Finds

/-- Pieces with a plain separator between them. -/
theorem finds_intercalate {α : Type} {separator : List Char} (hplain : separator.all isPlain)
    (hne : separator ≠ []) {text : α → List Char} {names : α → List String} {xs : List α}
    (h : ∀ x ∈ xs, Finds (text x) (names x)) :
    Finds (separator.intercalate (xs.map text)) (xs.flatMap names) := by
  induction xs with
  | nil => exact finds_of_plain rfl
  | cons x rest ih =>
    have hx := h x List.mem_cons_self
    have hrest := ih fun y hy => h y (List.mem_cons_of_mem x hy)
    cases rest with
    | nil => simpa using hx
    | cons y rest =>
      rw [List.map_cons, List.map_cons, List.intercalate_cons_cons, List.append_assoc]
      exact hx.joined hrest separator hplain hne

end TableQuery
