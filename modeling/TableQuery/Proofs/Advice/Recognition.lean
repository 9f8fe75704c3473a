import Mathlib.Data.List.DropRight
import Mathlib.Data.List.Forall2
import TableQuery.Advice.Report
import TableQuery.Database.Store
import TableQuery.Proofs.Dataset.Declared

/-!
# Indexes that are recognised

The columns of an index are read from the statement that created it: what stands in its brackets is
taken apart at the commas, and blanks and double quotes at the ends of each part go. A comma in a
name takes the name apart as well, and a double quote at an end of a name goes with those around it.

* `IsListable`: the names without either, which are read as they are.
* `IsIndexText`: the statements that make an index on some columns.
* `indexColumns_of_isIndexText`: the columns that are read from such a statement.
* `isListable_of_mem_indexColumns`: no other name is read from any text.
* `indexPlans_recognised`: the indexes that a planned index is found among.
-/

namespace TableQuery

/-! ## Names in lists -/

/-- A name without commas, and without a double quote at either end. -/
structure IsListable (name : String) : Prop where
  named : name ≠ ""
  whole : ',' ∉ name.toList
  first : name.toList.head? ≠ some '"'
  last : name.toList.getLast? ≠ some '"'

instance (name : String) : Decidable (IsListable name) :=
  decidable_of_iff (name ≠ "" ∧ ',' ∉ name.toList ∧ name.toList.head? ≠ some '"' ∧
      name.toList.getLast? ≠ some '"')
    ⟨fun ⟨h₁, h₂, h₃, h₄⟩ => ⟨h₁, h₂, h₃, h₄⟩, fun ⟨h₁, h₂, h₃, h₄⟩ => ⟨h₁, h₂, h₃, h₄⟩⟩

/-- A way to write the name of a column: between double quotes, or as it is if it has neither
commas nor double quotes nor blanks. There may be blanks around it. -/
inductive IsColumnText (column : String) : List Char → Prop
  | quoted {before after : List Char} (hbefore : ∀ c ∈ before, isBlank c = true)
      (hafter : ∀ c ∈ after, isBlank c = true) :
    IsColumnText column (before ++ (quoteIdentifier column).toList ++ after)
  | bare {before after : List Char} (hbefore : ∀ c ∈ before, isBlank c = true)
      (hafter : ∀ c ∈ after, isBlank c = true)
      (hcolumn : ∀ c ∈ column.toList, c ≠ ',' ∧ c ≠ '"' ∧ isBlank c = false) :
    IsColumnText column (before ++ column.toList ++ after)

/-- A statement that makes an index on columns, with their names in the first brackets that are
opened and the last that are closed. -/
def IsIndexText (columns : List String) (text : String) : Prop :=
  ∃ opening ending parts, '(' ∉ opening ∧ ')' ∉ ending ∧ List.Forall₂ IsColumnText columns parts ∧
    text.toList = opening ++ '(' :: ([','].intercalate parts ++ ')' :: ending)

/-! ## Double quotes -/

theorem singleQuotes_cons_of_ne {c : Char} (h : c ≠ '"') (cs : List Char) :
    singleQuotes (c :: cs) = c :: singleQuotes cs := by
  rw [singleQuotes.eq_def]
  split
  · rename_i heq
    cases heq
    exact absurd rfl h
  · rename_i heq
    cases heq
    rfl
  · rename_i heq
    cases heq

theorem doubleQuotes_cons_of_ne {c : Char} (h : c ≠ '"') (cs : List Char) :
    doubleQuotes (c :: cs) = c :: doubleQuotes cs := by
  rw [doubleQuotes, if_neg h]

/-- Double quotes that are written twice are read once. -/
theorem singleQuotes_doubleQuotes (cs : List Char) : singleQuotes (doubleQuotes cs) = cs := by
  induction cs with
  | nil => rfl
  | cons c cs ih =>
    by_cases hc : c = '"'
    · subst hc
      exact congrArg ('"' :: ·) ih
    · rw [doubleQuotes_cons_of_ne hc, singleQuotes_cons_of_ne hc, ih]

theorem singleQuotes_of_forall_ne {cs : List Char} (h : ∀ c ∈ cs, c ≠ '"') :
    singleQuotes cs = cs := by
  induction cs with
  | nil => rfl
  | cons c cs ih =>
    rw [List.forall_mem_cons] at h
    rw [singleQuotes_cons_of_ne h.1, ih h.2]

theorem mem_of_mem_doubleQuotes {c : Char} {cs : List Char} (h : c ∈ doubleQuotes cs) : c ∈ cs := by
  induction cs with
  | nil => exact h
  | cons d cs ih =>
    by_cases hd : d = '"'
    · subst hd
      rw [doubleQuotes, if_pos rfl, List.mem_cons, List.mem_cons] at h
      rcases h with rfl | rfl | h
      · exact List.mem_cons_self
      · exact List.mem_cons_self
      · exact List.mem_cons_of_mem _ (ih h)
    · rw [doubleQuotes_cons_of_ne hd, List.mem_cons] at h
      rcases h with rfl | h
      · exact List.mem_cons_self
      · exact List.mem_cons_of_mem _ (ih h)

theorem mem_of_mem_singleQuotes {c : Char} {cs : List Char} (h : c ∈ singleQuotes cs) : c ∈ cs := by
  induction cs using singleQuotes.induct with
  | case1 rest ih =>
    rw [singleQuotes, List.mem_cons] at h
    rcases h with rfl | h
    · exact List.mem_cons_self
    · exact List.mem_cons_of_mem _ (List.mem_cons_of_mem _ (ih h))
  | case2 d rest hne ih =>
    rw [singleQuotes.eq_2 d rest hne, List.mem_cons] at h
    rcases h with rfl | h
    · exact List.mem_cons_self
    · exact List.mem_cons_of_mem _ (ih h)
  | case3 => exact h

theorem head?_doubleQuotes (cs : List Char) : (doubleQuotes cs).head? = cs.head? := by
  cases cs with
  | nil => rfl
  | cons c cs =>
    rw [doubleQuotes]
    split
    · rename_i hc
      rw [hc]
      rfl
    · rfl

theorem getLast?_doubleQuotes (cs : List Char) : (doubleQuotes cs).getLast? = cs.getLast? := by
  induction cs with
  | nil => rfl
  | cons c cs ih =>
    rw [doubleQuotes]
    split
    · rename_i hc
      simp only [List.getLast?_cons, ih, Option.getD_some, hc]
    · simp only [List.getLast?_cons, ih]

theorem head?_singleQuotes {cs : List Char} (h : cs.head? ≠ some '"') :
    (singleQuotes cs).head? = cs.head? := by
  cases cs with
  | nil => rfl
  | cons c cs => rw [singleQuotes_cons_of_ne (by simpa using h)]; rfl

theorem getLast?_singleQuotes {cs : List Char} (h : cs.getLast? ≠ some '"') :
    (singleQuotes cs).getLast? = cs.getLast? := by
  induction cs using singleQuotes.induct with
  | case1 rest ih =>
    have hrest : rest.getLast? ≠ some '"' := by
      intro hlast
      simp [List.getLast?_cons, hlast] at h
    rw [singleQuotes]
    simp only [List.getLast?_cons, ih hrest] at h ⊢
    cases hlast : rest.getLast? with
    | none => simp [hlast] at h
    | some c => rfl
  | case2 d rest hne ih =>
    have hrest : rest.getLast? ≠ some '"' := by
      intro hlast
      simp [List.getLast?_cons, hlast] at h
    rw [singleQuotes.eq_2 d rest hne, List.getLast?_cons, ih hrest, List.getLast?_cons]
  | case3 => rfl

/-! ## The ends of a text -/

/-- A text without the characters of a kind at its ends. -/
def dropEnds (p : Char → Bool) (cs : List Char) : List Char :=
  ((cs.dropWhile p).reverse.dropWhile p).reverse

theorem unquoteColumn_eq (part : List Char) :
    unquoteColumn part =
      String.ofList (singleQuotes (dropEnds (· == '"') (dropEnds isBlank part))) := rfl

theorem dropWhile_append_eq {p : Char → Bool} {before cs : List Char}
    (hbefore : ∀ c ∈ before, p c = true) (hfirst : ∀ c ∈ cs.head?, p c = false) :
    (before ++ cs).dropWhile p = cs := by
  rw [List.dropWhile_append_of_pos hbefore]
  cases cs with
  | nil => rfl
  | cons c cs => exact List.dropWhile_cons_of_neg (by simpa using hfirst c rfl)

/-- What is left is what stands between the characters of the kind, if its own ends stay. -/
theorem dropEnds_append {p : Char → Bool} {before cs after : List Char} (hne : cs ≠ [])
    (hbefore : ∀ c ∈ before, p c = true) (hafter : ∀ c ∈ after, p c = true)
    (hfirst : ∀ c ∈ cs.head?, p c = false) (hlast : ∀ c ∈ cs.getLast?, p c = false) :
    dropEnds p (before ++ cs ++ after) = cs := by
  have hhead : (cs ++ after).head? = cs.head? := List.head?_append_of_ne_nil cs hne
  rw [dropEnds, List.append_assoc, dropWhile_append_eq hbefore (hhead ▸ hfirst),
    List.reverse_append, dropWhile_append_eq, List.reverse_reverse]
  · simpa using hafter
  · simpa using hlast

theorem mem_of_mem_dropEnds {p : Char → Bool} {c : Char} {cs : List Char}
    (h : c ∈ dropEnds p cs) : c ∈ cs := by
  have h := (List.dropWhile_sublist p).subset (List.mem_reverse.mp h)
  exact (List.dropWhile_sublist p).subset (List.mem_reverse.mp h)

theorem head?_dropEnds {p : Char → Bool} {cs : List Char} :
    ∀ c ∈ (dropEnds p cs).head?, p c = false := by
  intro c hc
  obtain ⟨rest, hrest⟩ : dropEnds p cs <+: cs.dropWhile p := List.rdropWhile_prefix p _
  have hnot := List.head?_dropWhile_not p cs
  rw [← hrest, List.head?_append, hc] at hnot
  exact hnot

theorem getLast?_dropEnds {p : Char → Bool} {cs : List Char} :
    ∀ c ∈ (dropEnds p cs).getLast?, p c = false := by
  intro c hc
  rw [dropEnds, List.getLast?_reverse] at hc
  have hnot := List.head?_dropWhile_not p (cs.dropWhile p).reverse
  rw [hc] at hnot
  exact hnot

/-! ## One name -/

theorem toList_quoteIdentifier (name : String) :
    (quoteIdentifier name).toList = ['"'] ++ doubleQuotes name.toList ++ ['"'] := by
  simp [quoteIdentifier]

/-- A name is read from its text, whichever way that is written. -/
theorem unquoteColumn_of_isColumnText {column : String} {part : List Char}
    (hpart : IsColumnText column part) (hcolumn : IsListable column) :
    unquoteColumn part = column := by
  have hne : column.toList ≠ [] := by simpa using hcolumn.named
  have hfirst : ∀ c ∈ column.toList.head?, (c == '"') = false := by
    intro c hc
    rw [Option.mem_def] at hc
    have hnot := hcolumn.first
    simpa [hc] using hnot
  have hlast : ∀ c ∈ column.toList.getLast?, (c == '"') = false := by
    intro c hc
    rw [Option.mem_def] at hc
    have hnot := hcolumn.last
    simpa [hc] using hnot
  rw [unquoteColumn_eq]
  cases hpart with
  | quoted hbefore hafter =>
    have hdoubled : doubleQuotes column.toList ≠ [] := by
      intro hnil
      have hhead := head?_doubleQuotes column.toList
      rw [hnil] at hhead
      exact hne (List.head?_eq_none_iff.mp hhead.symm)
    have hquote : isBlank '"' = false := by decide
    rw [toList_quoteIdentifier, dropEnds_append (by simp) hbefore hafter (by simpa using hquote)
        (by simpa [List.getLast?_cons] using hquote),
      dropEnds_append hdoubled (by simp) (by simp) (by rwa [head?_doubleQuotes])
        (by rwa [getLast?_doubleQuotes]),
      singleQuotes_doubleQuotes, String.ofList_toList]
  | bare hbefore hafter hplain =>
    have hbare : dropEnds (· == '"') column.toList = column.toList := by
      have hwhole := @dropEnds_append (· == '"') [] column.toList [] hne nofun nofun hfirst hlast
      rwa [List.nil_append, List.append_nil] at hwhole
    rw [dropEnds_append hne hbefore hafter
        (fun c hc => (hplain c (List.mem_of_mem_head? hc)).2.2)
        (fun c hc => (hplain c (List.mem_of_mem_getLast? hc)).2.2),
      hbare, singleQuotes_of_forall_ne fun c hc => (hplain c hc).2.1, String.ofList_toList]

/-- The text of a name without commas has none. -/
theorem IsColumnText.comma_notMem {column : String} {part : List Char}
    (hpart : IsColumnText column part) (hcolumn : ',' ∉ column.toList) : ',' ∉ part := by
  have hcomma : isBlank ',' = false := by decide
  have hblanks {cs : List Char} (h : ∀ c ∈ cs, isBlank c = true) : ',' ∉ cs := by
    intro hmem
    exact Bool.false_ne_true (hcomma.symm.trans (h ',' hmem))
  have hquoted : ',' ∉ (quoteIdentifier column).toList := by
    rw [toList_quoteIdentifier]
    intro hmem
    exact hcolumn (mem_of_mem_doubleQuotes (by simpa using hmem))
  cases hpart with
  | quoted hbefore hafter => simp [hblanks hbefore, hblanks hafter, hquoted]
  | bare hbefore hafter hplain => simp [hblanks hbefore, hblanks hafter, hcolumn]

/-- A name that is read is listable. -/
theorem isListable_unquoteColumn {part : List Char} (hcomma : ',' ∉ part)
    (hne : unquoteColumn part ≠ "") : IsListable (unquoteColumn part) := by
  let bare := dropEnds (· == '"') (dropEnds isBlank part)
  have hfirst : bare.head? ≠ some '"' := by
    intro h
    exact absurd (head?_dropEnds '"' h) (by decide)
  have hlast : bare.getLast? ≠ some '"' := by
    intro h
    exact absurd (getLast?_dropEnds '"' h) (by decide)
  have hname : (unquoteColumn part).toList = singleQuotes bare := by
    rw [unquoteColumn_eq, String.toList_ofList]
  refine ⟨hne, ?_, ?_, ?_⟩
  · rw [hname]
    intro hmem
    exact hcomma (mem_of_mem_dropEnds (mem_of_mem_dropEnds (mem_of_mem_singleQuotes hmem)))
  · rwa [hname, head?_singleQuotes hfirst]
  · rwa [hname, getLast?_singleQuotes hlast]

/-! ## Lists of names -/

section

variable {α : Type} [BEq α] [LawfulBEq α] {separator : α}

theorem splitAtEach_of_notMem {xs : List α} (h : separator ∉ xs) :
    splitAtEach separator xs = [xs] := by
  induction xs with
  | nil => rfl
  | cons x xs ih =>
    rw [List.mem_cons, not_or] at h
    rw [splitAtEach, if_neg (by simpa using Ne.symm h.1), ih h.2]

theorem splitAtEach_append {xs : List α} (h : separator ∉ xs) (rest : List α) :
    splitAtEach separator (xs ++ separator :: rest) = xs :: splitAtEach separator rest := by
  induction xs with
  | nil => simp [splitAtEach]
  | cons x xs ih =>
    rw [List.mem_cons, not_or] at h
    rw [List.cons_append, splitAtEach, if_neg (by simpa using Ne.symm h.1), ih h.2]

/-- Pieces with a separator between them are found again. -/
theorem splitAtEach_intercalate {pieces : List (List α)} (hne : pieces ≠ [])
    (h : ∀ piece ∈ pieces, separator ∉ piece) :
    splitAtEach separator ([separator].intercalate pieces) = pieces := by
  induction pieces with
  | nil => exact absurd rfl hne
  | cons piece rest ih =>
    rw [List.forall_mem_cons] at h
    cases rest with
    | nil => simpa using splitAtEach_of_notMem h.1
    | cons next rest =>
      rw [List.intercalate_cons_cons, List.append_assoc, List.singleton_append,
        splitAtEach_append h.1, ih (by simp) h.2]

theorem notMem_of_mem_splitAtEach {xs piece : List α} (h : piece ∈ splitAtEach separator xs) :
    separator ∉ piece := by
  induction xs generalizing piece with
  | nil => simp_all [splitAtEach]
  | cons x xs ih =>
    rw [splitAtEach] at h
    split at h
    · rcases List.mem_cons.mp h with rfl | h
      · exact List.not_mem_nil
      · exact ih h
    · rename_i hx
      have hx : separator ≠ x := fun heq => hx (by simp [heq])
      cases hrest : splitAtEach separator xs with
      | nil =>
        rw [hrest] at h
        rw [List.mem_singleton.mp h, List.mem_singleton]
        exact hx
      | cons first others =>
        rw [hrest] at h ih
        rcases List.mem_cons.mp h with rfl | h
        · rw [List.mem_cons, not_or]
          exact ⟨hx, ih List.mem_cons_self⟩
        · exact ih (List.mem_cons_of_mem _ h)

end

theorem insideBrackets?_append {opening inside ending : List Char} (hopening : '(' ∉ opening)
    (hending : ')' ∉ ending) :
    insideBrackets? (opening ++ '(' :: (inside ++ ')' :: ending)) = some inside := by
  have hfirst : (opening ++ '(' :: (inside ++ ')' :: ending)).dropWhile (· != '(') =
      '(' :: (inside ++ ')' :: ending) := by
    refine dropWhile_append_eq (fun c hc => ?_) (by simp)
    exact bne_iff_ne.mpr (ne_of_mem_of_not_mem hc hopening)
  have hlast : (inside ++ ')' :: ending).reverse.dropWhile (· != ')') = ')' :: inside.reverse := by
    rw [List.reverse_append, List.reverse_cons, List.append_assoc]
    refine dropWhile_append_eq (fun c hc => ?_) (by simp)
    exact bne_iff_ne.mpr (ne_of_mem_of_not_mem (List.mem_reverse.mp hc) hending)
  rw [insideBrackets?, hfirst]
  simp only [hlast, List.reverse_reverse]

/-- The columns of an index are read from its statement, whichever way that is written. -/
theorem indexColumns_of_isIndexText {columns : List String} {text : String}
    (htext : IsIndexText columns text) (hcolumns : ∀ column ∈ columns, IsListable column) :
    indexColumns text = columns := by
  obtain ⟨opening, ending, parts, hopening, hending, hparts, htext⟩ := htext
  have hread : parts.map unquoteColumn = columns ∧ ∀ part ∈ parts, ',' ∉ part := by
    clear htext
    induction hparts with
    | nil => exact ⟨rfl, nofun⟩
    | cons hpart _ ih =>
      rw [List.forall_mem_cons] at hcolumns
      obtain ⟨hrest, hcommas⟩ := ih hcolumns.2
      rw [List.map_cons, unquoteColumn_of_isColumnText hpart hcolumns.1, hrest]
      exact ⟨rfl, List.forall_mem_cons.mpr ⟨hpart.comma_notMem hcolumns.1.whole, hcommas⟩⟩
  rw [indexColumns, htext, insideBrackets?_append hopening hending]
  simp only
  by_cases hnone : parts = []
  · subst hnone
    rw [← hread.1]
    rfl
  · rw [splitAtEach_intercalate hnone hread.2, hread.1, List.filter_eq_self]
    intro column hcolumn
    simpa using (hcolumns column hcolumn).named

/-- What is read from any text are listable names. -/
theorem isListable_of_mem_indexColumns {text column : String} (h : column ∈ indexColumns text) :
    IsListable column := by
  unfold indexColumns at h
  split at h
  · cases h
  · obtain ⟨h, hne⟩ := List.mem_filter.mp h
    obtain ⟨piece, hpiece, rfl⟩ := List.mem_map.mp h
    exact isListable_unquoteColumn (notMem_of_mem_splitAtEach hpiece) (by simpa using hne)

/-! ## Planned indexes -/

theorem ne_indexName {name id column : String} (h : name.toList.head? ≠ some 'i') :
    name ≠ indexName id column := by
  rintro rfl
  exact h (by simp [indexName])

theorem leftBracket_notMem_hexDigest (text : String) : '(' ∉ (Sha256.hexDigest text).toList := by
  have hdigit : ∀ n < 16, '(' ≠ Nat.digitChar n := by decide
  intro h
  rw [Sha256.hexDigest, Sha256.hexText, String.toList_ofList] at h
  obtain ⟨b, -, h⟩ := List.mem_flatMap.mp h
  have hb := b.toNat_lt
  rcases List.mem_cons.mp h with h | h
  · exact hdigit _ (by omega) h
  · exact hdigit _ (by omega) (List.mem_singleton.mp h)

/-- The first bracket in the statement of a planned index is the one before its column. -/
theorem exists_statement_eq {t : Table} (ht : t.IsProper) {p : IndexPlan}
    (hp : p ∈ t.indexPlans) : ∃ opening, '(' ∉ opening ∧
      p.statement.sql.toList = opening ++ '(' :: ((quoteIdentifier p.column).toList ++ [')']) := by
  obtain ⟨hname, htable⟩ : p.name = indexName t.datasetId p.column ∧ p.table = t.name := by
    unfold Table.indexPlans at hp
    rcases List.mem_cons.mp hp with rfl | hp
    · exact ⟨rfl, rfl⟩
    · obtain ⟨_, -, rfl⟩ := List.mem_map.mp hp
      exact ⟨rfl, rfl⟩
  have hid : '(' ∉ t.datasetId.toList := by
    intro hmem
    have hvalid := ht.valid
    rw [isDatasetId, Bool.and_eq_true] at hvalid
    exact absurd (List.all_eq_true.mp hvalid.2 '(' hmem) (by decide)
  have hquoted {name : String} (h : '(' ∉ name.toList) : '(' ∉ (quoteIdentifier name).toList := by
    rw [toList_quoteIdentifier]
    intro hmem
    exact h (mem_of_mem_doubleQuotes (by simpa using hmem))
  have hindex : '(' ∉ p.name.toList := by
    have hdigest := leftBracket_notMem_hexDigest p.column
    rw [hname, indexName]
    simp only [String.toList_append, String.toList_ofList, List.mem_append, not_or]
    exact ⟨⟨⟨by decide, hid⟩, by decide⟩, fun h => hdigest (List.mem_of_mem_take h)⟩
  have htableName : '(' ∉ p.table.toList := by
    rw [htable, ht.named, tableName, String.toList_append, List.mem_append, not_or]
    exact ⟨by decide, hid⟩
  refine ⟨("CREATE INDEX IF NOT EXISTS " ++ quoteIdentifier p.name ++ " ON " ++
    quoteIdentifier p.table ++ " ").toList, ?_, ?_⟩
  · simp only [String.toList_append, List.mem_append, not_or]
    exact ⟨⟨⟨⟨by decide, hquoted hindex⟩, by decide⟩, hquoted htableName⟩, by decide⟩
  · have hopen : " (".toList = " ".toList ++ ['('] := rfl
    have hclose : ")".toList = [')'] := rfl
    unfold IndexPlan.statement
    simp only [String.toList_append, hopen, hclose, List.append_assoc, List.cons_append,
      List.nil_append]

/-- The statement of a planned index makes an index on its column. -/
theorem isIndexText_statement {t : Table} (ht : t.IsProper) {p : IndexPlan}
    (hp : p ∈ t.indexPlans) : IsIndexText [p.column] p.statement.sql := by
  obtain ⟨opening, hopening, htext⟩ := exists_statement_eq ht hp
  have hpart : IsColumnText p.column (quoteIdentifier p.column).toList := by
    simpa using @IsColumnText.quoted p.column [] [] nofun nofun
  refine ⟨opening, [], [(quoteIdentifier p.column).toList], hopening, List.not_mem_nil,
    .cons hpart .nil, ?_⟩
  rw [htext, List.intercalate_singleton]

/-- What is read from the statement of a planned index are the parts of its quoted column. -/
theorem indexColumns_statement {t : Table} (ht : t.IsProper) {p : IndexPlan}
    (hp : p ∈ t.indexPlans) :
    indexColumns p.statement.sql =
      ((splitAtEach ',' (quoteIdentifier p.column).toList).map unquoteColumn).filter (· != "") := by
  obtain ⟨opening, hopening, htext⟩ := exists_statement_eq ht hp
  rw [indexColumns, htext, insideBrackets?_append hopening List.not_mem_nil]

namespace IndexPlan

variable {p : IndexPlan} {name text : String}

/-- One index is the planned one by its name or by its column. -/
theorem isCovered_singleton {index : StoredIndex} :
    p.isCovered [index] = true ↔ index.name = p.name ∨ index.columns = [p.column] := by
  simp [isCovered]

/-- An index on columns with listable names is the planned one by its name, or if it is on just the
planned column. -/
theorem isCovered_of_isIndexText {columns : List String} (htext : IsIndexText columns text)
    (hcolumns : ∀ column ∈ columns, IsListable column) :
    p.isCovered [⟨name, indexColumns text⟩] = true ↔ name = p.name ∨ columns = [p.column] := by
  rw [isCovered_singleton, indexColumns_of_isIndexText htext hcolumns]

/-- An index on a column without a listable name is recognised by its name only. -/
theorem isCovered_of_not_isListable (h : ¬IsListable p.column) :
    p.isCovered [⟨name, indexColumns text⟩] = true ↔ name = p.name := by
  rw [isCovered_singleton, or_iff_left]
  intro hcolumns
  exact h (isListable_of_mem_indexColumns (hcolumns ▸ List.mem_singleton_self p.column))

end IndexPlan

/-- The statement of a planned index is read as an index on the planned column exactly if the name
of this column is listable. An index on columns with such names covers the planned one by its name,
or if it is on that column and no other; and no statement whatsoever covers an index that is planned
on a column with another name, unless the name of the index is the same. -/
theorem indexPlans_recognised {id : String} {specs : List ColumnSpec} {t : Table}
    (hdeclared : Table.declare id specs = .ok t) {p : IndexPlan} (hp : p ∈ t.indexPlans) :
    (indexColumns p.statement.sql = [p.column] ↔ IsListable p.column) ∧
      (∀ name text columns, IsIndexText columns text → (∀ column ∈ columns, IsListable column) →
        (p.isCovered [⟨name, indexColumns text⟩] = true ↔ name = p.name ∨ columns = [p.column])) ∧
      ∀ name text, ¬IsListable p.column →
        (p.isCovered [⟨name, indexColumns text⟩] = true ↔ name = p.name) := by
  have htext := isIndexText_statement (declare_isProper hdeclared) hp
  refine ⟨⟨fun hread => ?_, fun hcolumn => ?_⟩, fun _ _ _ => IndexPlan.isCovered_of_isIndexText,
    fun _ _ => IndexPlan.isCovered_of_not_isListable⟩
  · exact isListable_of_mem_indexColumns (hread ▸ List.mem_singleton_self p.column)
  · exact indexColumns_of_isIndexText htext (by simpa using hcolumn)

/-! ### A catalog with odd names -/

def priceSpecs : List ColumnSpec := [
  ⟨"net \"unit\" (EUR)", "number", none⟩, ⟨"price, gross", "number", none⟩,
  ⟨"\"net \"unit\" (EUR)", "number", none⟩]

/-- Prices: a name that is listable, one with a comma, and one that begins with a double quote. -/
def prices : Table where
  datasetId := "0123456789abcdef0123456789abcdef"
  name := "data_0123456789abcdef0123456789abcdef"
  columns := [⟨"net \"unit\" (EUR)", .number, true⟩, ⟨"price, gross", .number, true⟩,
    ⟨"\"net \"unit\" (EUR)", .number, true⟩]
  rowCount := 0

/-- An index on two columns, made by hand. -/
def pairIndexText : String :=
  "CREATE UNIQUE INDEX pair ON prices ( shipped , \"net \"\"unit\"\" (EUR)\") ;"

theorem isIndexText_pair : IsIndexText ["shipped", "net \"unit\" (EUR)"] pairIndexText := by
  have hblank : ∀ c ∈ [' '], isBlank c = true := List.forall_mem_singleton.mpr (by decide)
  have hplain : ∀ c ∈ "shipped".toList, c ≠ ',' ∧ c ≠ '"' ∧ isBlank c = false := by
    have hall : "shipped".toList.all (fun c => c != ',' && c != '"' && !isBlank c) = true := by
      decide
    intro c hc
    simpa [and_assoc] using List.all_eq_true.mp hall c hc
  exact ⟨"CREATE UNIQUE INDEX pair ON prices ".toList, " ;".toList,
    [" shipped ".toList, " \"net \"\"unit\"\" (EUR)\"".toList], by decide, by decide,
    .cons (.bare hblank hblank hplain) (.cons (@IsColumnText.quoted _ [' '] [] hblank nofun) .nil),
    by decide⟩

theorem declare_prices : Table.declare prices.datasetId priceSpecs = .ok prices := rfl

/-- The first two of the prices have planned indexes, of which one is recognised. -/
theorem indexPlans_recognised_prices :
    let net := prices.indexOn "net \"unit\" (EUR)"
    let gross := prices.indexOn "price, gross"
    Table.declare prices.datasetId priceSpecs = .ok prices ∧ net ∈ prices.indexPlans ∧
      gross ∈ prices.indexPlans ∧ indexColumns net.statement.sql = [net.column] ∧
      net.isCovered [⟨"by_net", indexColumns net.statement.sql⟩] = true ∧
      net.isCovered [⟨"pair", indexColumns pairIndexText⟩] = false ∧
      gross.isCovered [⟨"by_gross", indexColumns gross.statement.sql⟩] = false := by
  intro net gross
  have hnet : net ∈ prices.indexPlans := .tail _ (.head _)
  have hgross : gross ∈ prices.indexPlans := .tail _ (.tail _ (.head _))
  obtain ⟨hread, hcovers, -⟩ := indexPlans_recognised declare_prices hnet
  have hread : indexColumns net.statement.sql = [net.column] := hread.mpr (by decide)
  refine ⟨declare_prices, hnet, hgross, hread, ?_, ?_, ?_⟩
  · rw [hread, IndexPlan.isCovered_singleton]
    exact Or.inr rfl
  · rw [Bool.eq_false_iff, Ne, hcovers _ _ _ isIndexText_pair (by decide)]
    exact not_or.mpr ⟨ne_indexName (by decide), by decide⟩
  · rw [Bool.eq_false_iff, Ne, (indexPlans_recognised declare_prices hgross).2.2 _ _ (by decide)]
    exact ne_indexName (by decide)

/-- A planned index is not found by its own statement where a comma is in the name of its column,
and it is found by that of an index on another column where a double quote begins the name. -/
theorem indexPlans_confused :
    (¬∀ (id : String) (specs : List ColumnSpec) (t : Table), Table.declare id specs = .ok t →
      ∀ p ∈ t.indexPlans, indexColumns p.statement.sql = [p.column]) ∧
    ¬∀ (id : String) (specs : List ColumnSpec) (t : Table), Table.declare id specs = .ok t →
      ∀ p ∈ t.indexPlans, ∀ q ∈ t.indexPlans, q.column ≠ p.column →
        p.isCovered [⟨q.name, indexColumns q.statement.sql⟩] = false := by
  have hproper := declare_isProper declare_prices
  constructor
  · intro h
    have hgross : prices.indexOn "price, gross" ∈ prices.indexPlans := .tail _ (.tail _ (.head _))
    have hread := h _ _ _ declare_prices _ hgross
    rw [indexColumns_statement hproper hgross] at hread
    exact absurd hread (by decide)
  · intro h
    have hnet : prices.indexOn "net \"unit\" (EUR)" ∈ prices.indexPlans := .tail _ (.head _)
    have hquoted : prices.indexOn "\"net \"unit\" (EUR)" ∈ prices.indexPlans :=
      .tail _ (.tail _ (.tail _ (.head _)))
    have hcovered := h _ _ _ declare_prices _ hnet _ hquoted (by decide)
    rw [Bool.eq_false_iff, Ne, IndexPlan.isCovered_singleton,
      indexColumns_statement hproper hquoted] at hcovered
    exact hcovered (Or.inr (by decide))

end TableQuery
