import TableQuery.Sql.Identifier
import TableQuery.Sql.Param

/-!
# Tokens of SQL text

SQL text with its parameters is read a character at a time. A quoted identifier ends at the first
quote that is not followed by another one, and each `?` outside of quoted identifiers takes the
next parameter.

* `sqlTokens?`: the tokens of a text. All parameters must be taken.
* `sqlTokens?_append`: two texts that cannot run together are read one after the other. The texts
  of statements are put together from pieces, and this is how their tokens are found.
* `sqlTokens?_quoteIdentifier`: a quoted identifier is read as the name it was made of, whatever
  characters the name has.
-/

namespace TableQuery

/-- Words with a meaning of their own. -/
inductive SqlKeyword where
  | SELECT | INSERT | UPDATE | DELETE | INTO | FROM | SET | VALUES | WHERE | ORDER | BY | ASC
  | LIMIT | OFFSET | AND | OR | NOT | IS | NULL | IN | ILIKE | CASE | WHEN | THEN | ELSE | END
  | CAST | AS | BIGINT | VARCHAR | TRUNC | ABS | COUNT | COALESCE | MAX
deriving DecidableEq, Repr

namespace SqlKeyword

/-- All of them with their letters. -/
def table : List (SqlKeyword × List Char) := [
  (SELECT, ['S', 'E', 'L', 'E', 'C', 'T']), (INSERT, ['I', 'N', 'S', 'E', 'R', 'T']),
  (UPDATE, ['U', 'P', 'D', 'A', 'T', 'E']), (DELETE, ['D', 'E', 'L', 'E', 'T', 'E']),
  (INTO, ['I', 'N', 'T', 'O']), (FROM, ['F', 'R', 'O', 'M']), (SET, ['S', 'E', 'T']),
  (VALUES, ['V', 'A', 'L', 'U', 'E', 'S']), (WHERE, ['W', 'H', 'E', 'R', 'E']),
  (ORDER, ['O', 'R', 'D', 'E', 'R']), (BY, ['B', 'Y']), (ASC, ['A', 'S', 'C']),
  (LIMIT, ['L', 'I', 'M', 'I', 'T']), (OFFSET, ['O', 'F', 'F', 'S', 'E', 'T']),
  (AND, ['A', 'N', 'D']), (OR, ['O', 'R']), (NOT, ['N', 'O', 'T']), (IS, ['I', 'S']),
  (NULL, ['N', 'U', 'L', 'L']), (IN, ['I', 'N']), (ILIKE, ['I', 'L', 'I', 'K', 'E']),
  (CASE, ['C', 'A', 'S', 'E']), (WHEN, ['W', 'H', 'E', 'N']), (THEN, ['T', 'H', 'E', 'N']),
  (ELSE, ['E', 'L', 'S', 'E']), (END, ['E', 'N', 'D']), (CAST, ['C', 'A', 'S', 'T']),
  (AS, ['A', 'S']), (BIGINT, ['B', 'I', 'G', 'I', 'N', 'T']),
  (VARCHAR, ['V', 'A', 'R', 'C', 'H', 'A', 'R']), (TRUNC, ['T', 'R', 'U', 'N', 'C']),
  (ABS, ['A', 'B', 'S']), (COUNT, ['C', 'O', 'U', 'N', 'T']),
  (COALESCE, ['C', 'O', 'A', 'L', 'E', 'S', 'C', 'E']), (MAX, ['M', 'A', 'X'])]

/-- The keyword of a word. -/
def ofLetters? (letters : List Char) : Option SqlKeyword :=
  (table.find? (·.2 == letters)).map (·.1)

end SqlKeyword

/-- Signs of one or two characters. -/
inductive SqlSign where
  | leftParen | rightParen | comma | star | plus | eq | ne | lt | gt | lte | gte
deriving DecidableEq, Repr

/-- The sign of a character that is a sign by itself. -/
def SqlSign.ofChar? : Char → Option SqlSign
  | '(' => some .leftParen
  | ')' => some .rightParen
  | ',' => some .comma
  | '*' => some .star
  | '+' => some .plus
  | '=' => some .eq
  | _ => none

/-- A token of SQL text. -/
inductive SqlToken where
  | key (word : SqlKeyword)
  /-- A word that is no keyword, such as a number. -/
  | other (word : String)
  /-- A quoted identifier. -/
  | name (name : String)
  | sign (sign : SqlSign)
  /-- A placeholder with the parameter that it takes. -/
  | param (value : Param)
deriving DecidableEq, Repr

/-- The token of a word. -/
def SqlToken.ofLetters (letters : List Char) : SqlToken :=
  match SqlKeyword.ofLetters? letters with
  | some k => .key k
  | none => .other (String.ofList letters)

/-- Where in a token the text read so far ends. What is read of a word or a name is held last
character first. -/
inductive SqlPlace where
  | between
  | word (read : List Char)
  | name (read : List Char)
  /-- A quote inside of a name: the end of it, or the first of two. -/
  | quote (read : List Char)
  | less
  | greater
deriving DecidableEq, Repr

/-- What is read so far, and the parameters that are left. -/
structure SqlScan where
  tokens : List SqlToken
  place : SqlPlace
  params : List Param
deriving DecidableEq, Repr

/-- A letter, a digit or an underscore. -/
def isSqlLetter (c : Char) : Bool := c.isAlphanum || c == '_'

namespace SqlScan

/-- The tokens if the text ends here; a name must be closed. -/
def settled? (s : SqlScan) : Option (List SqlToken) :=
  match s.place with
  | .between => some s.tokens
  | .word read => some (s.tokens ++ [.ofLetters read.reverse])
  | .name _ => none
  | .quote read => some (s.tokens ++ [.name (String.ofList read.reverse)])
  | .less => some (s.tokens ++ [.sign .lt])
  | .greater => some (s.tokens ++ [.sign .gt])

/-- The place after a character that begins a token of several characters, or after a blank. -/
def opening? (c : Char) : Option SqlPlace :=
  if c = ' ' then some .between
  else if c = '"' then some (.name [])
  else if c = '<' then some .less
  else if c = '>' then some .greater
  else if isSqlLetter c then some (.word [c])
  else none

/-- Reads a character that begins a token or stands between tokens. -/
def start (tokens : List SqlToken) (params : List Param) (c : Char) : Option SqlScan :=
  match opening? c with
  | some place => some ⟨tokens, place, params⟩
  | none =>
    if c = '?' then
      match params with
      | [] => none
      | p :: rest => some ⟨tokens ++ [.param p], .between, rest⟩
    else (SqlSign.ofChar? c).map fun sign => ⟨tokens ++ [.sign sign], .between, params⟩

/-- The place after a character that goes on with the token. -/
def extend? (place : SqlPlace) (c : Char) : Option SqlPlace :=
  match place with
  | .word read => if isSqlLetter c then some (.word (c :: read)) else none
  | .name read => if c = '"' then some (.quote read) else some (.name (c :: read))
  | .quote read => if c = '"' then some (.name ('"' :: read)) else none
  | _ => none

/-- The sign that the character completes. -/
def completed? (place : SqlPlace) (c : Char) : Option SqlSign :=
  match place with
  | .less => if c = '=' then some .lte else if c = '>' then some .ne else none
  | .greater => if c = '=' then some .gte else none
  | _ => none

/-- Reads a character. -/
def step (s : SqlScan) (c : Char) : Option SqlScan :=
  match extend? s.place c, completed? s.place c with
  | some place, _ => some { s with place }
  | none, some sign => some ⟨s.tokens ++ [.sign sign], .between, s.params⟩
  | none, none => s.settled?.bind fun tokens => start tokens s.params c

end SqlScan

/-- The tokens of a text whose placeholders take the parameters in their order. -/
def sqlTokens? (params : List Param) (text : List Char) : Option (List SqlToken) := do
  let s ← text.foldlM SqlScan.step ⟨[], .between, params⟩
  if s.params.isEmpty then s.settled? else none

/-! ## Pieces of text -/

namespace SqlScan

/-- The scan with tokens before it and parameters after it. -/
def within (s : SqlScan) (before : List SqlToken) (after : List Param) : SqlScan :=
  ⟨before ++ s.tokens, s.place, s.params ++ after⟩

theorem settled?_within (s : SqlScan) (before : List SqlToken) (after : List Param) :
    (s.within before after).settled? = s.settled?.map (before ++ ·) := by
  unfold settled? within
  cases s.place <;> simp

theorem start_within {tokens : List SqlToken} {params : List Param} {c : Char} {s : SqlScan}
    (before : List SqlToken) (after : List Param) (h : start tokens params c = some s) :
    start (before ++ tokens) (params ++ after) c = some (s.within before after) := by
  unfold start at h ⊢
  split at h
  · cases h; rfl
  · by_cases hq : c = '?'
    · rw [if_pos hq] at h ⊢
      cases params with
      | nil => cases h
      | cons p rest => cases h; simp [within]
    · rw [if_neg hq] at h ⊢
      obtain ⟨sign, hs, rfl⟩ := Option.map_eq_some_iff.mp h
      simp [hs, within]

/-- What is read does not depend on the tokens before and the parameters after. -/
theorem step_within {s t : SqlScan} {c : Char} (before : List SqlToken) (after : List Param)
    (h : s.step c = some t) : (s.within before after).step c = some (t.within before after) := by
  unfold step at h ⊢
  have hp : (s.within before after).place = s.place := rfl
  rw [hp]
  split at h
  · cases h; simp_all [within]
  · cases h; simp_all [within]
  · obtain ⟨tokens, ht, hs⟩ := Option.bind_eq_some_iff.mp h
    rw [settled?_within, ht]
    exact start_within before after hs

theorem foldlM_step_within {text : List Char} {s t : SqlScan} (before : List SqlToken)
    (after : List Param) (h : text.foldlM step s = some t) :
    text.foldlM step (s.within before after) = some (t.within before after) := by
  induction text generalizing s with
  | nil => cases h; rfl
  | cons c rest ih =>
    obtain ⟨u, hu, ht⟩ := Option.bind_eq_some_iff.mp h
    rw [List.foldlM_cons, step_within before after hu]
    exact ih ht

end SqlScan

theorem sqlTokens?_eq_some_iff {params : List Param} {text : List Char} {tokens : List SqlToken} :
    sqlTokens? params text = some tokens ↔
      ∃ s, text.foldlM SqlScan.step ⟨[], .between, params⟩ = some s ∧ s.params = [] ∧
        s.settled? = some tokens := by
  unfold sqlTokens?
  constructor
  · intro h
    obtain ⟨s, hs, h⟩ := Option.bind_eq_some_iff.mp h
    split at h
    · exact ⟨s, hs, List.isEmpty_iff.mp ‹_›, h⟩
    · cases h
  · rintro ⟨s, hs, hp, ht⟩
    simp [hs, hp, ht]

/-- Characters that never go on with a word, a closed name or a sign. -/
def isApart (c : Char) : Bool := c == ' ' || c == ')' || c == ','

/-- Characters after which a token begins, outside of names. -/
def opensApart (c : Char) : Bool := c == ' ' || c == '('

/-- Two texts cannot run together: the second begins with a character that stands for itself, or
the first ends with one. -/
def StandApart (a b : List Char) : Prop :=
  b.head?.all isApart ∨ a.getLast?.all opensApart

instance (a b : List Char) : Decidable (StandApart a b) := by
  unfold StandApart; infer_instance

namespace SqlScan

theorem step_of_isApart {s : SqlScan} {tokens : List SqlToken} {c : Char} (hc : isApart c)
    (ht : s.settled? = some tokens) : s.step c = start tokens s.params c := by
  simp only [isApart, Bool.or_eq_true, beq_iff_eq] at hc
  have hnone : extend? s.place c = none ∧ completed? s.place c = none := by
    rcases hc with (rfl | rfl) | rfl <;> cases hp : s.place <;>
      simp_all [extend?, completed?, settled?, isSqlLetter]
  simp [step, hnone, ht]

theorem place_of_opensApart {s t : SqlScan} {tokens : List SqlToken} {c : Char}
    (hc : opensApart c) (h : s.step c = some t) (ht : t.settled? = some tokens) :
    t.place = .between := by
  simp only [opensApart, Bool.or_eq_true, beq_iff_eq] at hc
  unfold step at h
  cases he : extend? s.place c with
  | some place =>
    -- The character can only go on with a name, which is then still open.
    rw [he] at h
    cases h
    rcases hc with rfl | rfl <;> cases hp : s.place <;> rw [hp] at he <;> cases he <;> cases ht
  | none =>
    rw [he] at h
    cases hd : completed? s.place c with
    | some sign => rw [hd] at h; cases h; rfl
    | none =>
      rw [hd] at h
      obtain ⟨before, -, h⟩ := Option.bind_eq_some_iff.mp h
      rcases hc with rfl | rfl <;> cases h <;> rfl

/-- A text that ends with a character that opens leaves the scan between tokens. -/
theorem place_of_getLast? {text : List Char} {s t : SqlScan} {tokens : List SqlToken}
    (h : text.foldlM step s = some t) (ht : t.settled? = some tokens)
    (hlast : text.getLast?.all opensApart) (hs : s.place = .between) : t.place = .between := by
  cases hl : text.getLast? with
  | none =>
    rw [List.getLast?_eq_none_iff] at hl
    subst hl
    cases h
    exact hs
  | some c =>
    obtain ⟨front, rfl⟩ := List.getLast?_eq_some_iff.mp hl
    rw [List.foldlM_append] at h
    obtain ⟨u, -, h⟩ := Option.bind_eq_some_iff.mp h
    obtain ⟨t', hu, h⟩ := Option.bind_eq_some_iff.mp h
    cases h
    rw [hl] at hlast
    exact place_of_opensApart hlast hu ht

/-- A scan that stands at the end of its last token goes on like one that stands after it. -/
theorem foldlM_step_of_isApart {s : SqlScan} {tokens : List SqlToken} {c : Char}
    (rest : List Char) (hc : isApart c) (ht : s.settled? = some tokens) :
    (c :: rest).foldlM step s = (c :: rest).foldlM step ⟨tokens, .between, s.params⟩ := by
  rw [List.foldlM_cons, List.foldlM_cons, step_of_isApart hc ht, step_of_isApart hc rfl]

end SqlScan

/-- The tokens of two texts one after the other. -/
theorem sqlTokens?_append {a b : List Char} {P Q : List Param} {ts us : List SqlToken}
    (ha : sqlTokens? P a = some ts) (hb : sqlTokens? Q b = some us) (hab : StandApart a b) :
    sqlTokens? (P ++ Q) (a ++ b) = some (ts ++ us) := by
  obtain ⟨s, hs, hsp, hst⟩ := sqlTokens?_eq_some_iff.mp ha
  obtain ⟨t, ht, htp, htt⟩ := sqlTokens?_eq_some_iff.mp hb
  have hmid : a.foldlM SqlScan.step ⟨[], .between, P ++ Q⟩ = some (s.within [] Q) :=
    SqlScan.foldlM_step_within [] Q hs
  have hend : b.foldlM SqlScan.step ⟨ts, .between, Q⟩ = some (t.within ts []) := by
    simpa [SqlScan.within] using SqlScan.foldlM_step_within ts [] ht
  have hsettled : (s.within [] Q).settled? = some ts := by
    simp [SqlScan.settled?_within, hst]
  have hparams : (s.within [] Q).params = Q := by simp [SqlScan.within, hsp]
  have hgo : b.foldlM SqlScan.step (s.within [] Q) = b.foldlM SqlScan.step ⟨ts, .between, Q⟩ ∨
      b = [] := by
    rcases hab with hfirst | hlast
    · cases b with
      | nil => exact .inr rfl
      | cons c rest =>
        rw [SqlScan.foldlM_step_of_isApart rest (by simpa using hfirst) hsettled, hparams]
        exact .inl rfl
    · have hplace := SqlScan.place_of_getLast? hs hst hlast rfl
      have htokens : s.tokens = ts := by simpa [SqlScan.settled?, hplace] using hst
      simp [SqlScan.within, hsp, hplace, htokens]
  rw [sqlTokens?_eq_some_iff]
  rcases hgo with hgo | rfl
  · refine ⟨t.within ts [], ?_, by simp [SqlScan.within, htp], ?_⟩
    · rw [List.foldlM_append, hmid]
      exact hgo.trans hend
    · rw [SqlScan.settled?_within, htt]; rfl
  · cases ht
    cases htp
    cases htt
    exact ⟨s.within [] [], by simpa using hmid, by simp [SqlScan.within, hsp], by simpa using hsettled⟩

/-- The tokens of a text between two others. -/
theorem sqlTokens?_enclosed {a b c : List Char} {P : List Param} {ts us vs : List SqlToken}
    (ha : sqlTokens? [] a = some ts) (hb : sqlTokens? P b = some us)
    (hc : sqlTokens? [] c = some vs) (hlast : a.getLast?.all opensApart)
    (hfirst : c.head?.all isApart) :
    sqlTokens? P (a ++ (b ++ c)) = some (ts ++ (us ++ vs)) := by
  simpa using sqlTokens?_append ha (sqlTokens?_append hb hc (.inl hfirst)) (.inr hlast)

/-- The tokens of two texts with another between them. -/
theorem sqlTokens?_joined {a b c : List Char} {P Q : List Param} {ts us vs : List SqlToken}
    (ha : sqlTokens? P a = some ts) (hb : sqlTokens? [] b = some us)
    (hc : sqlTokens? Q c = some vs) (hfirst : b.head?.any isApart)
    (hlast : b.getLast?.all opensApart) :
    sqlTokens? (P ++ Q) (a ++ (b ++ c)) = some (ts ++ (us ++ vs)) := by
  have hapart : StandApart a (b ++ c) := by
    cases b with
    | nil => cases hfirst
    | cons x xs => exact .inl (by simpa using hfirst)
  simpa using sqlTokens?_append ha (sqlTokens?_append hb hc (.inr hlast)) hapart

/-! ## Names and lists -/

theorem foldlM_step_doubleQuotes (cs read : List Char) (tokens : List SqlToken)
    (params : List Param) :
    (doubleQuotes cs).foldlM SqlScan.step ⟨tokens, .name read, params⟩ =
      some ⟨tokens, .name (cs.reverse ++ read), params⟩ := by
  induction cs generalizing read with
  | nil => rfl
  | cons c cs ih =>
    by_cases hc : c = '"'
    · subst hc
      have h : ('"' :: '"' :: doubleQuotes cs).foldlM SqlScan.step ⟨tokens, .name read, params⟩ =
          (doubleQuotes cs).foldlM SqlScan.step ⟨tokens, .name ('"' :: read), params⟩ := rfl
      rw [show doubleQuotes ('"' :: cs) = '"' :: '"' :: doubleQuotes cs from rfl, h, ih]
      simp
    · have hstep : SqlScan.step ⟨tokens, .name read, params⟩ c =
          some ⟨tokens, .name (c :: read), params⟩ := by
        simp [SqlScan.step, SqlScan.extend?, hc]
      rw [show doubleQuotes (c :: cs) = c :: doubleQuotes cs by simp [doubleQuotes, hc],
        List.foldlM_cons, hstep]
      exact (ih (c :: read)).trans (by simp)

/-- A quoted identifier is read as the name it was made of. -/
theorem sqlTokens?_quoteIdentifier (name : String) :
    sqlTokens? [] (quoteIdentifier name).toList = some [.name name] := by
  have htext : (quoteIdentifier name).toList = '"' :: (doubleQuotes name.toList ++ ['"']) := by
    simp [quoteIdentifier]
  rw [sqlTokens?_eq_some_iff, htext]
  refine ⟨⟨[], .quote name.toList.reverse, []⟩, ?_, rfl, by simp [SqlScan.settled?]⟩
  rw [List.foldlM_cons]
  show ((doubleQuotes name.toList ++ ['"']).foldlM SqlScan.step ⟨[], .name [], []⟩) = _
  rw [List.foldlM_append, foldlM_step_doubleQuotes]
  simp [SqlScan.step, SqlScan.extend?]

theorem sqlTokens?_placeholder (p : Param) : sqlTokens? [p] ['?'] = some [.param p] := by
  rfl

/-- The tokens of texts with a separator between them. -/
theorem sqlTokens?_intercalate {α : Type} {separator : List Char} {between : List SqlToken}
    (hs : sqlTokens? [] separator = some between) (hfirst : separator.head?.any isApart)
    (hlast : separator.getLast?.all opensApart) (text : α → List Char) (params : α → List Param)
    (tokens : α → List SqlToken) (xs : List α)
    (h : ∀ x ∈ xs, sqlTokens? (params x) (text x) = some (tokens x)) :
    sqlTokens? (xs.flatMap params) (separator.intercalate (xs.map text)) =
      some (between.intercalate (xs.map tokens)) := by
  induction xs with
  | nil => rfl
  | cons x rest ih =>
    have hx := h x (by simp)
    have hrest := ih fun y hy => h y (by simp [hy])
    cases rest with
    | nil => simpa using hx
    | cons y rest => simpa using sqlTokens?_joined hx hs hrest hfirst hlast

/-- Tokens with commas between them. -/
def withCommas (items : List (List SqlToken)) : List SqlToken :=
  List.intercalate [.sign .comma] items

theorem withCommas_cons_cons (item next : List SqlToken) (items : List (List SqlToken)) :
    withCommas (item :: next :: items) = item ++ .sign .comma :: withCommas (next :: items) := by
  rw [withCommas, List.intercalate_cons_cons, List.append_assoc]
  rfl

theorem mem_withCommas {items : List (List SqlToken)} {t : SqlToken} (h : t ∈ withCommas items) :
    t = .sign .comma ∨ ∃ item ∈ items, t ∈ item := by
  induction items with
  | nil => cases h
  | cons item rest ih =>
    cases rest with
    | nil => exact .inr ⟨item, List.mem_singleton_self item, by simpa [withCommas] using h⟩
    | cons next rest =>
      rw [withCommas_cons_cons] at h
      rcases List.mem_append.mp h with h | h
      · exact .inr ⟨item, List.mem_cons_self, h⟩
      · rcases List.mem_cons.mp h with rfl | h
        · exact .inl rfl
        · rcases ih h with rfl | ⟨other, hother, h⟩
          · exact .inl rfl
          · exact .inr ⟨other, List.mem_cons_of_mem _ hother, h⟩

end TableQuery
