import Mathlib.Data.List.Forall2
import TableQuery.Proofs.Filter.Entry
import TableQuery.Proofs.Filter.Rendering

/-!
# Filters of one shape

Two filters have the same shape if they differ in values only: keys, groups and operators agree,
and so do the places of null and the lengths of lists. What is made of them has the same shape
again, and the text of a predicate depends on no more than that.

* `SameShape`: filters that differ in values only.
* `ofJson?_alike`, `lowerAll_alike`: their conditions, and the predicates of these.
* `Comparison.Alike.text_eq`, `Predicate.Alike.text_eq`: one text, and as many parameters.
-/

namespace TableQuery

/-- Operands of one shape: both are null or neither is, and lists have one length. -/
def SameOperand (a b : Json) : Prop := a.isNull = b.isNull ∧ a.listLength? = b.listLength?

/-- Operators of one shape: they agree, and their operands have one shape. -/
def SameOperators : List (String × Json) → List (String × Json) → Prop
  | [], [] => True
  | (k, a) :: es, (l, b) :: fs => k = l ∧ SameOperand a b ∧ SameOperators es fs
  | _, _ => False

mutual

/-- Entries of one shape: their keys agree, and their values have one shape. -/
def SameEntries : List (String × Json) → List (String × Json) → Prop
  | [], [] => True
  | (k, a) :: es, (l, b) :: fs => k = l ∧ SameValue a b ∧ SameEntries es fs
  | _, _ => False

/-- Values of one shape: groups with members of one shape, the same operators, or scalars that
are both null or both not. -/
def SameValue : Json → Json → Prop
  | .array xs, .array ys => SameMembers xs ys
  | .object es, .object fs => SameOperators es fs
  | .array _, _ | .object _, _ | _, .array _ | _, .object _ => False
  | a, b => a.isNull = b.isNull

/-- Members of groups of one shape. -/
def SameMembers : List Json → List Json → Prop
  | [], [] => True
  | .object es :: xs, .object fs :: ys => SameEntries es fs ∧ SameMembers xs ys
  | _, _ => False

end

/-- Filters of one shape. -/
def SameShape : Json → Json → Prop
  | .null, .null => True
  | .object es, .object fs => SameEntries es fs
  | _, _ => False

/-! ## Conditions -/

/-- Conditions that differ in the values of their operands only. -/
def Condition.Alike (c d : Condition) : Prop :=
  c.field = d.field ∧ c.operator = d.operator ∧ SameOperand c.value d.value

namespace Filter

mutual

/-- Filters that differ in the values of operands only. -/
def Alike : Filter → Filter → Prop
  | .condition c, .condition d => c.Alike d
  | .group kind fs, .group kind' gs => kind = kind' ∧ AllAlike fs gs
  | _, _ => False

/-- Lists of such filters. -/
def AllAlike : List Filter → List Filter → Prop
  | [], [] => True
  | f :: fs, g :: gs => Alike f g ∧ AllAlike fs gs
  | _, _ => False

end

theorem AllAlike.append {fs gs fs' gs' : List Filter} (h : AllAlike fs gs)
    (h' : AllAlike fs' gs') : AllAlike (fs ++ fs') (gs ++ gs') := by
  induction fs generalizing gs with
  | nil =>
    cases gs with
    | nil => exact h'
    | cons g gs => exact h.elim
  | cons f fs ih =>
    cases gs with
    | nil => exact h.elim
    | cons g gs => exact ⟨h.1, ih h.2⟩

theorem asMember_alike {fs gs : List Filter} (h : AllAlike fs gs) :
    AllAlike (asMember fs) (asMember gs) := by
  cases fs with
  | nil =>
    cases gs with
    | nil => exact trivial
    | cons g gs => exact h.elim
  | cons f fs =>
    cases gs with
    | nil => exact h.elim
    | cons g gs =>
      cases fs <;> cases gs <;> first | exact h.2.elim | exact h | exact ⟨⟨rfl, h⟩, trivial⟩

theorem ofOperator?_alike {field key : String} {a b : Json} {f g : Filter} (h : SameOperand a b)
    (hf : ofOperator? field key a = .ok f) (hg : ofOperator? field key b = .ok g) :
    Alike f g := by
  unfold ofOperator? at hf hg
  cases hkey : Operator.ofKey? key with
  | none =>
    rw [hkey] at hf
    cases hf
  | some operator =>
    rw [hkey] at hf hg
    simp only at hf hg
    split at hf
    · cases hf
    · split at hg
      · cases hg
      · cases hf
        cases hg
        exact ⟨rfl, rfl, h⟩

theorem mapM_ofOperator?_alike {field : String} {es fs : List (String × Json)}
    {as bs : List Filter} (h : SameOperators es fs)
    (ha : es.mapM (fun e => ofOperator? field e.1 e.2) = .ok as)
    (hb : fs.mapM (fun e => ofOperator? field e.1 e.2) = .ok bs) : AllAlike as bs := by
  induction es generalizing fs as bs with
  | nil =>
    cases fs with
    | nil => cases ha; cases hb; exact trivial
    | cons e fs => exact h.elim
  | cons e es ih =>
    cases fs with
    | nil => exact h.elim
    | cons e' fs =>
      obtain ⟨hkey, hoperand, hrest⟩ := h
      rw [List.mapM_cons] at ha hb
      obtain ⟨f, hf, ha⟩ := bind_eq_ok.mp ha
      obtain ⟨as', has, ha⟩ := bind_eq_ok.mp ha
      obtain ⟨g, hg, hb⟩ := bind_eq_ok.mp hb
      obtain ⟨bs', hbs, hb⟩ := bind_eq_ok.mp hb
      cases ha
      cases hb
      rw [← hkey] at hg
      exact ⟨ofOperator?_alike hoperand hf hg, ih hrest has hbs⟩

theorem ofField?_alike {field : String} {a b : Json} {fs gs : List Filter} (h : SameValue a b)
    (hf : ofField? field a = .ok fs) (hg : ofField? field b = .ok gs) : AllAlike fs gs := by
  cases a with
  | array xs => cases hf
  | object es =>
    cases b with
    | object fs' =>
      simp only [ofField?] at hf hg
      simp only [SameValue] at h
      split at hf
      · split at hg
        · exact mapM_ofOperator?_alike h hf hg
        · cases hg
      · cases hf
    | _ => simp [SameValue] at h
  | _ =>
    cases b <;> first
      | (simp [SameValue] at h; done)
      | (cases hf; cases hg; exact ⟨⟨rfl, rfl, h, rfl⟩, trivial⟩)

mutual

/-- Entries of one shape put conditions that are alike. -/
theorem ofEntries?_alike : (es : List (String × Json)) → {es' : List (String × Json)} →
    {fs gs : List Filter} → SameEntries es es' → ofEntries? es = .ok fs →
      ofEntries? es' = .ok gs → AllAlike fs gs
  | [], [], _, _, _, hf, hg => by
    rw [ofEntries?] at hf hg
    cases hf
    cases hg
    exact trivial
  | (key, a) :: es, (key', b) :: es', fs, gs, h, hf, hg => by
    simp only [SameEntries] at h
    obtain ⟨rfl, hvalue, hrest⟩ := h
    rw [ofEntries?_cons] at hf hg
    obtain ⟨here, hhere, hf⟩ := bind_eq_ok.mp hf
    obtain ⟨more, hmore, hf⟩ := bind_eq_ok.mp hf
    obtain ⟨here', hhere', hg⟩ := bind_eq_ok.mp hg
    obtain ⟨more', hmore', hg⟩ := bind_eq_ok.mp hg
    cases hf
    cases hg
    refine AllAlike.append ?_ (ofEntries?_alike es hrest hmore hmore')
    unfold ofEntry? at hhere hhere'
    cases hkey : Connective.ofKey? key with
    | none =>
      rw [hkey] at hhere hhere'
      simp only at hhere hhere'
      split at hhere
      · cases hhere
      · rename_i hname
        rw [if_neg hname] at hhere'
        exact ofField?_alike hvalue hhere hhere'
    | some kind =>
      rw [hkey] at hhere hhere'
      cases a with
      | array xs =>
        cases b with
        | array ys =>
          obtain ⟨members, hmembers, hhere⟩ := bind_eq_ok.mp hhere
          obtain ⟨members', hmembers', hhere'⟩ := bind_eq_ok.mp hhere'
          cases hhere
          cases hhere'
          simp only [SameValue] at hvalue
          exact ⟨⟨rfl, ofMembers?_alike kind xs hvalue hmembers hmembers'⟩, trivial⟩
        | _ => cases hhere'
      | _ => cases hhere

/-- Members of one shape put conditions that are alike. -/
theorem ofMembers?_alike (kind : Connective) : (xs : List Json) → {ys : List Json} →
    {fs gs : List Filter} → SameMembers xs ys → ofMembers? kind xs = .ok fs →
      ofMembers? kind ys = .ok gs → AllAlike fs gs
  | [], [], _, _, _, hf, hg => by
    rw [ofMembers?] at hf hg
    cases hf
    cases hg
    exact trivial
  | .object es :: xs, .object es' :: ys, fs, gs, h, hf, hg => by
    simp only [SameMembers] at h
    obtain ⟨hentries, hrest⟩ := h
    rw [ofMembers?_object] at hf hg
    obtain ⟨parsed, hparsed, hf⟩ := bind_eq_ok.mp hf
    obtain ⟨more, hmore, hf⟩ := bind_eq_ok.mp hf
    obtain ⟨parsed', hparsed', hg⟩ := bind_eq_ok.mp hg
    obtain ⟨more', hmore', hg⟩ := bind_eq_ok.mp hg
    cases hf
    cases hg
    have hhere := asMember_alike (ofEntries?_alike es hentries hparsed hparsed')
    exact hhere.append (ofMembers?_alike kind xs hrest hmore hmore')

end

/-- Filters of one shape put conditions that are alike. -/
theorem ofJson?_alike {a b : Json} {fs gs : List Filter} (h : SameShape a b)
    (hf : ofJson? a = .ok fs) (hg : ofJson? b = .ok gs) : AllAlike fs gs := by
  cases a with
  | null =>
    cases b with
    | null => cases hf; cases hg; exact trivial
    | _ => exact h.elim
  | object es =>
    cases b with
    | object es' => exact ofEntries?_alike es h hf hg
    | _ => exact h.elim
  | _ => exact h.elim

theorem any_isGroup_eq {fs gs : List Filter} (h : AllAlike fs gs) :
    fs.any isGroup = gs.any isGroup := by
  induction fs generalizing gs with
  | nil =>
    cases gs with
    | nil => rfl
    | cons g gs => exact h.elim
  | cons f fs ih =>
    cases gs with
    | nil => exact h.elim
    | cons g gs =>
      have hgroup : f.isGroup = g.isGroup := by
        cases f <;> cases g <;> first | rfl | exact h.1.elim
      rw [List.any_cons, List.any_cons, hgroup, ih h.2]

end Filter

/-! ## Comparisons -/

/-- Operands of parameters that differ in values only. -/
def Operand.Alike : Operand → Operand → Prop
  | .scalar p, .scalar q => p.isNull = q.isNull
  | .list ps, .list qs => ps.length = qs.length
  | _, _ => False

/-- Comparisons that differ in the values of their operands only. -/
structure Comparison.Alike (c d : Comparison) : Prop where
  column : c.column = d.column
  type : c.type = d.type
  operator : c.operator = d.operator
  castToText : c.castToText = d.castToText
  operand : c.operand.Alike d.operand

/-- Steps that all succeed have their results one by one. -/
theorem forall₂_of_mapM {ε α β : Type} {f : α → Except ε β} {xs : List α} {ys : List β}
    (h : xs.mapM f = .ok ys) : List.Forall₂ (fun x y => f x = .ok y) xs ys := by
  induction xs generalizing ys with
  | nil => cases h; exact .nil
  | cons x xs ih =>
    rw [List.mapM_cons] at h
    obtain ⟨y, hy, h⟩ := bind_eq_ok.mp h
    obtain ⟨rest, hrest, h⟩ := bind_eq_ok.mp h
    cases h
    exact .cons hy (ih hrest)

theorem mapM_length {ε α β : Type} {f : α → Except ε β} {xs : List α} {ys : List β}
    (h : xs.mapM f = .ok ys) : ys.length = xs.length :=
  (forall₂_of_mapM h).length_eq.symm

theorem compareColumn_alike {n : Nat} {column : Column} {operator : Operator} {a b : Json}
    {c d : Comparison} (h : SameOperand a b) (hc : compareColumn n column operator a = .ok c)
    (hd : compareColumn n column operator b = .ok d) : c.Alike d := by
  rcases compareColumn_cases hc with
    ⟨rfl, -, -, rfl⟩ | ⟨hlist, items, ps, rfl, hps, rfl⟩ | ⟨hsign, p, hp, -, rfl⟩
  · rcases compareColumn_cases hd with ⟨-, -, -, rfl⟩ | ⟨hlist, -⟩ | ⟨hsign, -⟩
    · exact ⟨rfl, rfl, rfl, rfl, rfl⟩
    · cases hlist
    · cases hsign
  · rcases compareColumn_cases hd with ⟨rfl, -⟩ | ⟨-, items', ps', rfl, hps', rfl⟩ | ⟨hsign, -⟩
    · cases hlist
    · have hlength : items.length = items'.length := Option.some.inj h.2
      refine ⟨rfl, rfl, rfl, rfl, ?_⟩
      show ps.length = ps'.length
      rw [mapM_length hps, mapM_length hps', List.length_take, List.length_take, hlength]
    · cases operator <;> contradiction
  · rcases compareColumn_cases hd with ⟨rfl, -⟩ | ⟨hlist, -⟩ | ⟨-, p', hp', -, rfl⟩
    · cases hsign
    · cases operator <;> contradiction
    · refine ⟨rfl, rfl, rfl, rfl, ?_⟩
      show p.isNull = p'.isNull
      rw [Param.isNull_of_coerce hp, Param.isNull_of_coerce hp', h.1]

/-- The placeholders of as many parameters. -/
theorem placeholders_eq {ps qs : List Param} (h : ps.length = qs.length) :
    placeholders ps = placeholders qs := by
  unfold placeholders
  rw [List.map_const', List.map_const', h]

namespace Comparison

theorem Alike.subject_eq {c d : Comparison} (h : c.Alike d) : c.subject = d.subject := by
  unfold subject
  rw [h.castToText, h.column, h.type]

/-- Comparisons that are alike have one text and as many parameters. -/
theorem Alike.text_eq {c d : Comparison} (h : c.Alike d) :
    c.text = d.text ∧ c.params.length = d.params.length := by
  have hsubject := h.subject_eq
  have hoperator := h.operator
  have hoperand := h.operand
  cases hp : c.operand with
  | scalar p =>
    cases hq : d.operand with
    | list qs =>
      rw [hp, hq] at hoperand
      exact hoperand.elim
    | scalar q =>
      rw [hp, hq] at hoperand
      have hnull : p.isNull = q.isNull := hoperand
      cases hp' : p.isNull with
      | false =>
        obtain ⟨htext, hparams⟩ := text_of_scalar hp hp'
        obtain ⟨htext', hparams'⟩ := text_of_scalar hq (hnull ▸ hp')
        rw [htext, htext', hparams, hparams', hsubject, hoperator]
        exact ⟨rfl, rfl⟩
      | true =>
        have hpq : p = q := by
          rw [hp'] at hnull
          cases p <;> cases q <;> first | rfl | contradiction
        unfold text params
        rw [hp, hq, hsubject, hoperator, hpq]
        exact ⟨rfl, rfl⟩
  | list ps =>
    cases hq : d.operand with
    | scalar q =>
      rw [hp, hq] at hoperand
      exact hoperand.elim
    | list qs =>
      rw [hp, hq] at hoperand
      have hlength : ps.length = qs.length := hoperand
      have hholders := placeholders_eq hlength
      unfold text params
      rw [hp, hq, hsubject, hoperator]
      cases ps with
      | nil =>
        cases qs with
        | nil => exact ⟨rfl, rfl⟩
        | cons => cases hlength
      | cons =>
        cases qs with
        | nil => cases hlength
        | cons => cases d.operator <;> exact ⟨by simp only [hholders], hlength⟩

theorem Alike.operand_eq_nil_iff {c d : Comparison} (h : c.Alike d) :
    c.operand = .list [] ↔ d.operand = .list [] := by
  have hoperand := h.operand
  cases hp : c.operand <;> cases hq : d.operand <;> rw [hp, hq] at hoperand
  · simp
  · exact hoperand.elim
  · exact hoperand.elim
  · have hlength : List.length _ = List.length _ := hoperand
    simp [← List.length_eq_zero_iff, hlength]

/-- The same in the builder's way. -/
theorem Alike.draft_eq {c d : Comparison} (h : c.Alike d) (hc : c.IsProper) (hd : d.IsProper)
    (hcast : c.castToText = false) :
    c.draft.sql = d.draft.sql ∧ c.draftParams.length = d.draftParams.length := by
  by_cases hnil : c.operand = .list []
  · have hnil' := h.operand_eq_nil_iff.mp hnil
    unfold draft draftParams
    rw [hnil, hnil', h.operator]
    cases d.operator <;> exact ⟨rfl, rfl⟩
  · have hnil' := mt h.operand_eq_nil_iff.mpr hnil
    obtain ⟨hdraft, hparams⟩ := Comparison.draft_eq hc hcast hnil
    obtain ⟨hdraft', hparams'⟩ := Comparison.draft_eq hd (h.castToText ▸ hcast) hnil'
    rw [hdraft, hdraft', hparams, hparams']
    exact h.text_eq

theorem Alike.amongOthers_eq {c d : Comparison} (h : c.Alike d) (hc : c.IsProper)
    (hd : d.IsProper) (hcast : c.castToText = false) : c.amongOthers = d.amongOthers := by
  have hcustom : c.isCustom = d.isCustom := by
    have hoperand := h.operand
    unfold isCustom
    rw [h.operator]
    cases hp : c.operand <;> cases hq : d.operand <;> rw [hp, hq] at hoperand
    · cases d.operator <;> rfl
    · exact hoperand.elim
    · exact hoperand.elim
  unfold amongOthers
  rw [hcustom, (h.draft_eq hc hd hcast).1]

end Comparison

/-! ## Predicates -/

namespace Predicate

mutual

/-- Predicates that differ in the values of operands only. -/
def Alike : Predicate → Predicate → Prop
  | .compare c, .compare d => c.Alike d
  | .group kind ps, .group kind' qs => kind = kind' ∧ AllAlike ps qs
  | _, _ => False

/-- Lists of such predicates. -/
def AllAlike : List Predicate → List Predicate → Prop
  | [], [] => True
  | p :: ps, q :: qs => Alike p q ∧ AllAlike ps qs
  | _, _ => False

end

theorem AllAlike.append {ps qs ps' qs' : List Predicate} (h : AllAlike ps qs)
    (h' : AllAlike ps' qs') : AllAlike (ps ++ ps') (qs ++ qs') := by
  induction ps generalizing qs with
  | nil =>
    cases qs with
    | nil => exact h'
    | cons q qs => exact h.elim
  | cons p ps ih =>
    cases qs with
    | nil => exact h.elim
    | cons q qs => exact ⟨h.1, ih h.2⟩

mutual

/-- Predicates that are alike have one text and as many parameters. -/
theorem Alike.text_eq : {p q : Predicate} → Alike p q →
    p.text = q.text ∧ p.params.length = q.params.length
  | .compare c, .compare d, h => Comparison.Alike.text_eq h
  | .group kind ps, .group kind' qs, h => by
    obtain ⟨rfl, h⟩ := h
    obtain ⟨htexts, hparams⟩ := AllAlike.texts_eq h
    exact ⟨by rw [text, text, htexts], hparams⟩

theorem AllAlike.texts_eq : {ps qs : List Predicate} → AllAlike ps qs →
    texts ps = texts qs ∧ (paramsOfAll ps).length = (paramsOfAll qs).length
  | [], [], _ => ⟨rfl, rfl⟩
  | p :: ps, q :: qs, h => by
    obtain ⟨htext, hparams⟩ := Alike.text_eq h.1
    obtain ⟨htexts, hrest⟩ := AllAlike.texts_eq h.2
    refine ⟨by rw [texts, texts, htext, htexts], ?_⟩
    rw [paramsOfAll, paramsOfAll, List.length_append, List.length_append, hparams, hrest]

end

mutual

theorem Alike.casts_eq : {p q : Predicate} → Alike p q → p.casts = q.casts
  | .compare _, .compare _, h => h.castToText
  | .group _ _, .group _ _, h => AllAlike.anyCasts_eq h.2

theorem AllAlike.anyCasts_eq : {ps qs : List Predicate} → AllAlike ps qs →
    anyCasts ps = anyCasts qs
  | [], [], _ => rfl
  | p :: ps, q :: qs, h => by
    rw [anyCasts, anyCasts, Alike.casts_eq h.1, AllAlike.anyCasts_eq h.2]

end

end Predicate

theorem collapse_alike {kind : Connective} {ps qs : List Predicate}
    (h : Predicate.AllAlike ps qs) :
    Predicate.AllAlike (collapse kind ps).toList (collapse kind qs).toList := by
  cases ps with
  | nil =>
    cases qs with
    | nil => exact trivial
    | cons q qs => exact h.elim
  | cons p ps =>
    cases qs with
    | nil => exact h.elim
    | cons q qs =>
      cases ps <;> cases qs <;> first | exact h.2.elim | exact h | exact ⟨⟨rfl, h⟩, trivial⟩

mutual

theorem lower_alike {n : Nat} {table : Table} : (f : Filter) → {g : Filter} →
    {p q : Option Predicate} → Filter.Alike f g → lower n table f = .ok p →
      lower n table g = .ok q → Predicate.AllAlike p.toList q.toList
  | .condition c, .condition d, p, q, h, hp, hq => by
    obtain ⟨hfield, hoperator, hvalue⟩ := h
    unfold lower at hp hq
    rw [← hfield] at hq
    split at hp <;> rename_i hcolumn <;> rw [hcolumn] at hq
    · cases hp
      cases hq
      exact trivial
    · obtain ⟨cmp, hcmp, hp⟩ := bind_eq_ok.mp hp
      obtain ⟨cmp', hcmp', hq⟩ := bind_eq_ok.mp hq
      cases hp
      cases hq
      rw [← hoperator] at hcmp'
      exact ⟨compareColumn_alike hvalue hcmp hcmp', trivial⟩
  | .group kind fs, .group kind' gs, p, q, h, hp, hq => by
    obtain ⟨rfl, h⟩ := h
    unfold lower at hp hq
    obtain ⟨ps, hps, hp⟩ := bind_eq_ok.mp hp
    obtain ⟨qs, hqs, hq⟩ := bind_eq_ok.mp hq
    cases hp
    cases hq
    exact collapse_alike (lowerAll_alike fs h hps hqs)

/-- Filters that are alike have predicates that are alike. -/
theorem lowerAll_alike {n : Nat} {table : Table} : (fs : List Filter) → {gs : List Filter} →
    {ps qs : List Predicate} → Filter.AllAlike fs gs → lowerAll n table fs = .ok ps →
      lowerAll n table gs = .ok qs → Predicate.AllAlike ps qs
  | [], [], ps, qs, _, hp, hq => by
    cases hp
    cases hq
    exact trivial
  | f :: fs, g :: gs, ps, qs, h, hp, hq => by
    obtain ⟨p, hfp, hp⟩ := bind_eq_ok.mp hp
    obtain ⟨more, hmore, hp⟩ := bind_eq_ok.mp hp
    obtain ⟨q, hgq, hq⟩ := bind_eq_ok.mp hq
    obtain ⟨more', hmore', hq⟩ := bind_eq_ok.mp hq
    cases hp
    cases hq
    exact (lower_alike f h.1 hfp hgq).append (lowerAll_alike fs h.2 hmore hmore')

end

end TableQuery
