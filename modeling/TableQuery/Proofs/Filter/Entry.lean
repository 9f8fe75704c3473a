import TableQuery.Filter.Condition
import TableQuery.Proofs.Result

/-!
# Filters entry by entry

* `ofEntries?_cons`: the conditions of an object are those of its first entry and of the others.
* `ofMembers?_object`: the same for the members of a group.
* `ofEntry?_eq_ok`, `ofField?_eq_ok`: what an entry is that is not refused.
-/

namespace TableQuery

namespace Filter

/-- The conditions and groups of one entry. -/
def ofEntry? (key : String) (value : Json) : Except RequestFault (List Filter) :=
  match Connective.ofKey? key with
  | some kind =>
    match value with
    | .array items => do
      let members ← ofMembers? kind items
      pure [.group kind members]
    | _ => .error (.groupNotArray kind)
  | none => if isOperatorKey key then .error (.unknownConnective key) else ofField? key value

theorem ofEntries?_cons (key : String) (value : Json) (rest : List (String × Json)) :
    ofEntries? ((key, value) :: rest) =
      ofEntry? key value >>= fun here => ofEntries? rest >>= fun more => pure (here ++ more) := by
  rw [ofEntries?]
  unfold ofEntry?
  cases Connective.ofKey? key with
  | some kind =>
    cases value with
    | array items => cases hmembers : ofMembers? kind items <;> simp only [hmembers] <;> rfl
    | _ => rfl
  | none =>
    simp only
    split <;> rfl

theorem ofMembers?_object (kind : Connective) (entries : List (String × Json)) (rest : List Json) :
    ofMembers? kind (.object entries :: rest) =
      ofEntries? entries >>= fun parsed =>
        ofMembers? kind rest >>= fun more => pure (asMember parsed ++ more) := by
  rw [ofMembers?]

/-- A member that is no object is refused. -/
theorem ofMembers?_other (kind : Connective) {v : Json} (h : v.kind ≠ .object) (rest : List Json) :
    ofMembers? kind (v :: rest) = .error (.groupMember kind v.kind) := by
  rw [ofMembers?]
  rintro entries rfl
  exact h rfl

/-- An entry is a group of members, or it puts conditions on a field. -/
theorem ofEntry?_eq_ok {key : String} {value : Json} {fs : List Filter}
    (h : ofEntry? key value = .ok fs) :
    (∃ kind items members, Connective.ofKey? key = some kind ∧ value = .array items ∧
      ofMembers? kind items = .ok members ∧ fs = [.group kind members]) ∨
    (Connective.ofKey? key = none ∧ isOperatorKey key = false ∧ ofField? key value = .ok fs) := by
  unfold ofEntry? at h
  cases hkey : Connective.ofKey? key with
  | some kind =>
    rw [hkey] at h
    cases value with
    | array items =>
      obtain ⟨members, hmembers, h⟩ := bind_eq_ok.mp h
      cases h
      exact .inl ⟨kind, items, members, rfl, rfl, hmembers, rfl⟩
    | _ => cases h
  | none =>
    rw [hkey] at h
    simp only at h
    split at h
    · cases h
    · rename_i hname
      exact .inr ⟨rfl, by simpa using hname, h⟩

/-- The first member of a group is an object, and the others are read alike. -/
theorem ofMembers?_cons_eq_ok {kind : Connective} {v : Json} {rest : List Json}
    {fs : List Filter} (h : ofMembers? kind (v :: rest) = .ok fs) :
    ∃ entries parsed more, v = .object entries ∧ ofEntries? entries = .ok parsed ∧
      ofMembers? kind rest = .ok more ∧ fs = asMember parsed ++ more := by
  cases v with
  | object entries =>
    rw [ofMembers?_object] at h
    obtain ⟨parsed, hparsed, h⟩ := bind_eq_ok.mp h
    obtain ⟨more, hmore, h⟩ := bind_eq_ok.mp h
    exact ⟨entries, parsed, more, rfl, hparsed, hmore, (pure_eq_ok.mp h).symm⟩
  | _ => rw [ofMembers?_other kind (by simp [Json.kind])] at h; cases h

theorem mapM_ofOperator?_eq_ok {field : String} {entries : List (String × Json)}
    {fs : List Filter} (h : entries.mapM (fun e => ofOperator? field e.1 e.2) = .ok fs) :
    fs.length = entries.length ∧
      ∀ f ∈ fs, ∃ operator value, f = .condition ⟨field, operator, value⟩ := by
  induction entries generalizing fs with
  | nil => cases h; exact ⟨rfl, by simp⟩
  | cons e rest ih =>
    rw [List.mapM_cons] at h
    obtain ⟨f, hf, h⟩ := bind_eq_ok.mp h
    obtain ⟨more, hmore, h⟩ := bind_eq_ok.mp h
    cases h
    obtain ⟨hlength, hall⟩ := ih hmore
    refine ⟨congrArg (· + 1) hlength, fun g hg => ?_⟩
    rcases List.mem_cons.mp hg with rfl | hg
    · unfold ofOperator? at hf
      split at hf
      · cases hf
      · rename_i operator _
        split at hf
        · cases hf
        · cases hf
          exact ⟨operator, e.2, rfl⟩
    · exact hall g hg

/-- A field has one condition at least, and all of them are on it. -/
theorem ofField?_eq_ok {field : String} {value : Json} {fs : List Filter}
    (h : ofField? field value = .ok fs) :
    fs ≠ [] ∧ ∀ f ∈ fs, ∃ operator operand, f = .condition ⟨field, operator, operand⟩ := by
  cases value with
  | object entries =>
    simp only [ofField?] at h
    split at h
    · rename_i hany
      obtain ⟨hlength, hall⟩ := mapM_ofOperator?_eq_ok h
      refine ⟨?_, hall⟩
      rintro rfl
      rw [List.eq_nil_of_length_eq_zero hlength.symm] at hany
      cases hany
    · cases h
  | array items => cases h
  | null | bool | number | string =>
    cases h
    exact ⟨by simp, fun f hf => ⟨.eq, _, List.mem_singleton.mp hf⟩⟩

end Filter

end TableQuery
