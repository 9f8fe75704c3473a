import TableQuery.Json.Canonical
import TableQuery.Proofs.Numeric.Text

/-!
# Values read back from their texts

The text of a value ends where the value does, so a text is the text of one value only.

* `jsonUnescape?`: the character that an escape stands for.
* `Json.chars_append_inj`: values followed by delimiters, and their texts with what follows.
* `Json.compact_injective`: different values have different texts.
-/

namespace TableQuery

/-! ## Strings -/

/-- The number of a small hexadecimal digit. -/
def hexValue (c : Char) : ℕ := if c.isDigit then c.toNat - '0'.toNat else c.toNat - 'a'.toNat + 10

/-- The character at the beginning of a text, and what follows its escape. -/
def jsonUnescape? : List Char → Option (Char × List Char)
  | '\\' :: 'u' :: '0' :: '0' :: a :: b :: rest =>
    some (Char.ofNat (16 * hexValue a + hexValue b), rest)
  | '\\' :: c :: rest =>
    some (match c with
      | 'n' => '\n'
      | 'r' => '\r'
      | 't' => '\t'
      | 'b' => '\x08'
      | 'f' => '\x0c'
      | c => c, rest)
  | c :: rest => some (c, rest)
  | [] => none

theorem hexValue_hexDigit : ∀ n < 32,
    16 * hexValue (hexDigit (n / 16)) + hexValue (hexDigit (n % 16)) = n := by
  decide

/-- An escape gives its character back. -/
theorem jsonUnescape?_jsonEscape (c : Char) (rest : List Char) :
    jsonUnescape? (jsonEscape c ++ rest) = some (c, rest) := by
  unfold jsonEscape
  iterate 7
    split
    · rename_i h
      rw [h]
      rfl
  split
  · rename_i h
    show some (Char.ofNat (16 * hexValue (hexDigit (c.toNat / 16)) +
      hexValue (hexDigit (c.toNat % 16))), rest) = _
    rw [hexValue_hexDigit c.toNat h, Char.ofNat_toNat]
  · rename_i _ hbackslash _ _ _ _ _ _
    show jsonUnescape? (c :: rest) = _
    unfold jsonUnescape?
    split <;> simp_all

/-- An escape never begins with a quote. -/
theorem jsonEscape_head? (c : Char) : (jsonEscape c).head?.all (· != '"') ∧ jsonEscape c ≠ [] := by
  unfold jsonEscape
  repeat' split
  all_goals first | exact ⟨rfl, by simp⟩ | exact ⟨by simpa using ‹¬c = '"'›, by simp⟩

/-- The characters of a string without its quotes. -/
def escapedChars (cs : List Char) : List Char := cs.flatMap jsonEscape

/-- A string ends at the first quote that is not escaped. -/
theorem escapedChars_append_inj {cs ds rest rest' : List Char}
    (h : escapedChars cs ++ '"' :: rest = escapedChars ds ++ '"' :: rest') :
    cs = ds ∧ rest = rest' := by
  have hquote {d : Char} {more tail : List Char} :
      '"' :: tail ≠ jsonEscape d ++ more := by
    intro heq
    obtain ⟨hhead, hne⟩ := jsonEscape_head? d
    cases hescape : jsonEscape d with
    | nil => exact hne hescape
    | cons x xs =>
      rw [hescape] at heq hhead
      cases (List.cons.inj heq).1
      cases hhead
  induction cs generalizing ds with
  | nil =>
    cases ds with
    | nil => exact ⟨rfl, (List.cons.inj h).2⟩
    | cons d ds =>
      rw [escapedChars, escapedChars, List.flatMap_nil, List.flatMap_cons, List.append_assoc] at h
      exact (hquote h).elim
  | cons c cs ih =>
    cases ds with
    | nil =>
      rw [escapedChars, escapedChars, List.flatMap_nil, List.flatMap_cons, List.append_assoc] at h
      exact (hquote h.symm).elim
    | cons d ds =>
      rw [escapedChars, escapedChars, List.flatMap_cons, List.flatMap_cons, List.append_assoc,
        List.append_assoc] at h
      have hboth := congrArg jsonUnescape? h
      rw [jsonUnescape?_jsonEscape, jsonUnescape?_jsonEscape] at hboth
      obtain ⟨rfl, hrest⟩ := Prod.mk.inj (Option.some.inj hboth)
      obtain ⟨rfl, rfl⟩ := ih hrest
      exact ⟨rfl, rfl⟩

theorem toList_jsonQuote (s : String) :
    (jsonQuote s).toList = '"' :: (escapedChars s.toList ++ ['"']) := by
  simp [jsonQuote, escapedChars]

theorem jsonQuote_append_inj {s t : String} {rest rest' : List Char}
    (h : (jsonQuote s).toList ++ rest = (jsonQuote t).toList ++ rest') : s = t ∧ rest = rest' := by
  rw [toList_jsonQuote, toList_jsonQuote, List.cons_append, List.cons_append, List.append_assoc,
    List.append_assoc] at h
  obtain ⟨hchars, hrest⟩ := escapedChars_append_inj (List.cons.inj h).2
  exact ⟨String.toList_injective hchars, hrest⟩

/-! ## Numbers -/

/-- What does not go on with a number. -/
def EndsNumber (cs : List Char) : Prop := cs.head?.all fun c => !isNumeralChar c

theorem numberText_append_inj {m n : JsonNumber} {rest rest' : List Char} (hrest : EndsNumber rest)
    (hrest' : EndsNumber rest') (h : m.text.toList ++ rest = n.text.toList ++ rest') :
    m = n ∧ rest = rest' := by
  have hstop {cs : List Char} (hcs : EndsNumber cs) : cs.takeWhile isNumeralChar = [] := by
    cases cs with
    | nil => rfl
    | cons c cs =>
      have hc : isNumeralChar c = false := by simpa [EndsNumber] using hcs
      rw [List.takeWhile_cons_of_neg (by simp [hc])]
  have hread := congrArg (List.takeWhile isNumeralChar) h
  rw [List.takeWhile_append_of_pos m.text_chars, List.takeWhile_append_of_pos n.text_chars,
    hstop hrest, hstop hrest', List.append_nil, List.append_nil] at hread
  rw [hread] at h
  exact ⟨JsonNumber.text_injective (String.toList_injective hread), List.append_cancel_left h⟩

/-! ## Values -/

namespace Json

/-- The text of a value. -/
def chars (v : Json) : List Char := v.compact.toList

/-- The text after an item of an array: the other items and the bracket. -/
def afterItem : List Json → List Char
  | [] => [']']
  | v :: rest => ',' :: (v.chars ++ afterItem rest)

/-- The text of a field. -/
def fieldChars (field : String × Json) : List Char :=
  (jsonQuote field.1).toList ++ ':' :: field.2.chars

/-- The text after a field of an object: the other fields and the brace. -/
def afterField : List (String × Json) → List Char
  | [] => ['\x7d']
  | f :: rest => ',' :: (fieldChars f ++ afterField rest)

theorem toList_commas (t : String) (ts : List String) :
    (",".intercalate (t :: ts)).toList = t.toList ++ ts.flatMap fun u => ',' :: u.toList := by
  rw [String.toList_intercalate]
  induction ts generalizing t with
  | nil => simp
  | cons u ts ih =>
    rw [List.map_cons, List.map_cons, List.intercalate_cons_cons, ← List.map_cons, ih u,
      List.flatMap_cons, List.append_assoc]
    rfl

theorem afterItem_eq (items : List Json) :
    afterItem items = (compactItems items).flatMap (fun u => ',' :: u.toList) ++ [']'] := by
  induction items with
  | nil => rw [compactItems]; rfl
  | cons v rest ih => simp [afterItem, compactItems, chars, ih]

theorem afterField_eq (fields : List (String × Json)) :
    afterField fields = (compactFields fields).flatMap (fun u => ',' :: u.toList) ++ ['\x7d'] := by
  induction fields with
  | nil => rw [compactFields]; rfl
  | cons f rest ih =>
    obtain ⟨k, v⟩ := f
    simp [afterField, fieldChars, compactFields, chars, ih]

/-- The text of an array after its first bracket. -/
def arrayBody : List Json → List Char
  | [] => [']']
  | v :: rest => v.chars ++ afterItem rest

/-- The text of an object after its first brace. -/
def objectBody : List (String × Json) → List Char
  | [] => ['\x7d']
  | f :: rest => fieldChars f ++ afterField rest

theorem chars_array (items : List Json) : chars (.array items) = '[' :: arrayBody items := by
  cases items with
  | nil => rw [chars, compact, compactItems]; rfl
  | cons v rest =>
    rw [chars, compact, compactItems, String.toList_append, String.toList_append, toList_commas,
      arrayBody, afterItem_eq]
    simp [chars]

theorem chars_object (fields : List (String × Json)) :
    chars (.object fields) = '\x7b' :: objectBody fields := by
  cases fields with
  | nil => rw [chars, compact, compactFields]; rfl
  | cons f rest =>
    obtain ⟨k, v⟩ := f
    rw [chars, compact, compactFields, String.toList_append, String.toList_append, toList_commas,
      objectBody, afterField_eq]
    simp [fieldChars, chars]

/-! ### The kind of a value -/

/-- A number for each first character of values. -/
def startTag : List Char → ℕ
  | 'n' :: _ => 0
  | 't' :: _ => 1
  | 'f' :: _ => 2
  | '"' :: _ => 4
  | '[' :: _ => 5
  | '\x7b' :: _ => 6
  | _ => 3

/-- A number for each kind of values. -/
def tag : Json → ℕ
  | .null => 0
  | .bool true => 1
  | .bool false => 2
  | .number _ => 3
  | .string _ => 4
  | .array _ => 5
  | .object _ => 6

/-- The first character of a text tells the kind of the value. -/
theorem startTag_chars (v : Json) (rest : List Char) : startTag (v.chars ++ rest) = v.tag := by
  cases v with
  | null => rw [chars, compact]; rfl
  | bool b => cases b <;> rw [chars, compact] <;> rfl
  | number n =>
    rw [chars, compact]
    have hnumeral := n.text_chars
    cases htext : n.text.toList with
    | nil => exact absurd htext n.text_ne_nil
    | cons c cs =>
      have hc := hnumeral c (by rw [htext]; exact List.mem_cons_self)
      rw [List.cons_append]
      unfold startTag
      split <;> first | rfl | (rename_i heq; cases (List.cons.inj heq).1; cases hc)
  | string s => rw [chars, compact, toList_jsonQuote]; rfl
  | array items => rw [chars_array]; rfl
  | object fields => rw [chars_object]; rfl

theorem endsNumber_afterItem (items : List Json) (rest : List Char) :
    EndsNumber (afterItem items ++ rest) := by
  cases items <;> exact rfl

theorem endsNumber_afterField (fields : List (String × Json)) (rest : List Char) :
    EndsNumber (afterField fields ++ rest) := by
  cases fields <;> exact rfl

/-- No value begins with a bracket that closes. -/
theorem chars_ne_closing (v : Json) (rest tail : List Char) : ']' :: tail ≠ v.chars ++ rest := by
  intro h
  have htag := startTag_chars v rest
  rw [← h] at htag
  cases v with
  | number n =>
    rw [chars, compact] at h
    cases htext : n.text.toList with
    | nil => exact n.text_ne_nil htext
    | cons c cs =>
      rw [htext] at h
      have hc := n.text_chars c (by rw [htext]; exact List.mem_cons_self)
      rw [← (List.cons.inj h).1] at hc
      cases hc
  | bool b => cases b <;> cases htag
  | _ => cases htag

/-- Values with texts that begin alike are of one kind. -/
theorem tag_eq {v w : Json} {rest rest' : List Char} (h : v.chars ++ rest = w.chars ++ rest') :
    v.tag = w.tag := by
  rw [← startTag_chars v rest, h, startTag_chars]

mutual

/-- Values end where their texts do. -/
theorem chars_append_inj : (v w : Json) → ⦃rest rest' : List Char⦄ → EndsNumber rest →
    EndsNumber rest' → v.chars ++ rest = w.chars ++ rest' → v = w ∧ rest = rest'
  | .null, w => by
    intro rest rest' _ _ h
    have htag := tag_eq h
    cases w with
    | null => exact ⟨rfl, List.append_cancel_left h⟩
    | bool b => cases b <;> cases htag
    | _ => cases htag
  | .bool b, w => by
    intro rest rest' _ _ h
    have htag := tag_eq h
    cases w with
    | bool b' =>
      have hb : b = b' := by cases b <;> cases b' <;> first | rfl | cases htag
      subst hb
      exact ⟨rfl, List.append_cancel_left h⟩
    | _ => cases b <;> cases htag
  | .number n, w => by
    intro rest rest' hrest hrest' h
    have htag := tag_eq h
    cases w with
    | number m =>
      rw [chars, chars, compact, compact] at h
      obtain ⟨rfl, hmore⟩ := numberText_append_inj hrest hrest' h
      exact ⟨rfl, hmore⟩
    | bool b => cases b <;> cases htag
    | _ => cases htag
  | .string s, w => by
    intro rest rest' _ _ h
    have htag := tag_eq h
    cases w with
    | string t =>
      rw [chars, chars, compact, compact] at h
      obtain ⟨rfl, hmore⟩ := jsonQuote_append_inj h
      exact ⟨rfl, hmore⟩
    | bool b => cases b <;> cases htag
    | _ => cases htag
  | .array items, w => by
    intro rest rest' _ _ h
    have htag := tag_eq h
    cases w with
    | array items' =>
      rw [chars_array, chars_array, List.cons_append, List.cons_append] at h
      obtain ⟨rfl, hmore⟩ := arrayBody_append_inj items items' (List.cons.inj h).2
      exact ⟨rfl, hmore⟩
    | bool b => cases b <;> cases htag
    | _ => cases htag
  | .object fields, w => by
    intro rest rest' _ _ h
    have htag := tag_eq h
    cases w with
    | object fields' =>
      rw [chars_object, chars_object, List.cons_append, List.cons_append] at h
      obtain ⟨rfl, hmore⟩ := objectBody_append_inj fields fields' (List.cons.inj h).2
      exact ⟨rfl, hmore⟩
    | bool b => cases b <;> cases htag
    | _ => cases htag

theorem arrayBody_append_inj : (items items' : List Json) → ⦃rest rest' : List Char⦄ →
    arrayBody items ++ rest = arrayBody items' ++ rest' → items = items' ∧ rest = rest'
  | [], items' => by
    intro rest rest' h
    cases items' with
    | nil => exact ⟨rfl, List.append_cancel_left h⟩
    | cons v' more' =>
      rw [arrayBody, arrayBody, List.append_assoc] at h
      exact (chars_ne_closing _ _ _ h).elim
  | v :: more, items' => by
    intro rest rest' h
    cases items' with
    | nil =>
      rw [arrayBody, arrayBody, List.append_assoc] at h
      exact (chars_ne_closing _ _ _ h.symm).elim
    | cons v' more' =>
      rw [arrayBody, arrayBody, List.append_assoc, List.append_assoc] at h
      obtain ⟨rfl, htail⟩ := chars_append_inj v v' (endsNumber_afterItem more rest)
        (endsNumber_afterItem more' rest') h
      obtain ⟨rfl, hmore⟩ := afterItem_append_inj more more' htail
      exact ⟨rfl, hmore⟩

theorem afterItem_append_inj : (items items' : List Json) → ⦃rest rest' : List Char⦄ →
    afterItem items ++ rest = afterItem items' ++ rest' → items = items' ∧ rest = rest'
  | [], items' => by
    intro rest rest' h
    cases items' with
    | nil => exact ⟨rfl, List.append_cancel_left h⟩
    | cons v' more' => cases (List.cons.inj h).1
  | v :: more, items' => by
    intro rest rest' h
    cases items' with
    | nil => cases (List.cons.inj h).1
    | cons v' more' =>
      rw [afterItem, afterItem, List.cons_append, List.cons_append, List.append_assoc,
        List.append_assoc] at h
      obtain ⟨rfl, htail⟩ := chars_append_inj v v' (endsNumber_afterItem more rest)
        (endsNumber_afterItem more' rest') (List.cons.inj h).2
      obtain ⟨rfl, hmore⟩ := afterItem_append_inj more more' htail
      exact ⟨rfl, hmore⟩

theorem objectBody_append_inj : (fields fields' : List (String × Json)) →
    ⦃rest rest' : List Char⦄ → objectBody fields ++ rest = objectBody fields' ++ rest' →
      fields = fields' ∧ rest = rest'
  | [], fields' => by
    intro rest rest' h
    cases fields' with
    | nil => exact ⟨rfl, List.append_cancel_left h⟩
    | cons f' more' =>
      rw [objectBody, objectBody, fieldChars, toList_jsonQuote] at h
      cases (List.cons.inj h).1
  | (k, v) :: more, fields' => by
    intro rest rest' h
    cases fields' with
    | nil =>
      rw [objectBody, objectBody, fieldChars, toList_jsonQuote] at h
      cases (List.cons.inj h).1
    | cons f' more' =>
      obtain ⟨k', v'⟩ := f'
      rw [objectBody, objectBody, fieldChars, fieldChars, List.append_assoc, List.append_assoc,
        List.append_assoc, List.append_assoc] at h
      obtain ⟨rfl, hvalue⟩ := jsonQuote_append_inj h
      obtain ⟨rfl, htail⟩ := chars_append_inj v v' (endsNumber_afterField more rest)
        (endsNumber_afterField more' rest') (List.cons.inj hvalue).2
      obtain ⟨rfl, hmore⟩ := afterField_append_inj more more' htail
      exact ⟨rfl, hmore⟩

theorem afterField_append_inj : (fields fields' : List (String × Json)) →
    ⦃rest rest' : List Char⦄ → afterField fields ++ rest = afterField fields' ++ rest' →
      fields = fields' ∧ rest = rest'
  | [], fields' => by
    intro rest rest' h
    cases fields' with
    | nil => exact ⟨rfl, List.append_cancel_left h⟩
    | cons f' more' => cases (List.cons.inj h).1
  | (k, v) :: more, fields' => by
    intro rest rest' h
    cases fields' with
    | nil => cases (List.cons.inj h).1
    | cons f' more' =>
      obtain ⟨k', v'⟩ := f'
      rw [afterField, afterField, fieldChars, fieldChars, List.cons_append, List.cons_append,
        List.append_assoc, List.append_assoc, List.append_assoc, List.append_assoc] at h
      obtain ⟨rfl, hvalue⟩ := jsonQuote_append_inj (List.cons.inj h).2
      obtain ⟨rfl, htail⟩ := chars_append_inj v v' (endsNumber_afterField more rest)
        (endsNumber_afterField more' rest') (List.cons.inj hvalue).2
      obtain ⟨rfl, hmore⟩ := afterField_append_inj more more' htail
      exact ⟨rfl, hmore⟩

end

/-- Different values have different texts. -/
theorem compact_injective {v w : Json} (h : v.compact = w.compact) : v = w := by
  have hchars : v.chars ++ [] = w.chars ++ [] := by
    rw [chars, chars, h]
  have hend : EndsNumber [] := rfl
  exact (chars_append_inj v w hend hend hchars).1

end Json

end TableQuery
