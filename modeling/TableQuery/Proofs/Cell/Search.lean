import TableQuery.Proofs.Cell.RoundTrip
import TableQuery.Proofs.Filter.Exact
import TableQuery.Proofs.Filter.Rendering
import TableQuery.Proofs.Numeric.Fewest

/-!
# Numbers searched by their text

`$like` looks for a pattern in the text of a number, and the number is returned to the caller.

* `SearchedBy`: the text that the database looks at.
* `searchedText_eq_iff`: when the text of a decimal number is the text that is returned.
* `searched_by_returned`: which numbers are searched by the text that is returned.
-/

namespace TableQuery

/-! ## Texts that are searched -/

/-- In a row the number of a column is searched by a text: the expression for the column's text says
so, and `$like` looks for its pattern there. -/
structure SearchedBy (like : String → String → Bool) (shown : Binary64 → String)
    (row : (SqlDialect.exact like shown).Row) (name text : String) : Prop where
  exists_reads : ∃ e, Reads IsValue (textExpression (quoteIdentifier name) .number).toList [] e ∧
    e.eval (.exact like shown) row = some (.text text)
  truth_eq : ∀ pattern,
    (Comparison.mk name .number .like (.scalar (.text pattern)) true).truth
      (.exact like shown) row = .ofBool (like text pattern)

/-- A number is searched by the text that the database has for it. -/
theorem searchedBy_of_textForm {like : String → String → Bool} {shown : Binary64 → String}
    {row : (SqlDialect.exact like shown).Row} {name text : String}
    (h : (SqlDialect.exact like shown).textForm .number (row name) = some (.text text)) :
    SearchedBy like shown row name text where
  exists_reads :=
    ⟨textValue name .number, reads_textExpression name .number, (eval_textValue ..).trans h⟩
  truth_eq pattern := by
    rw [Comparison.truth_scalar _ _ rfl]
    show (SqlDialect.exact like shown).compare _
      ((SqlDialect.exact like shown).textForm .number (row name)) _ = _
    rw [h]
    rfl

/-! ## Texts that are returned -/

/-- An integer has the same text as a number and as a string. -/
theorem Cell.plainText_int (threshold : Binary64) (i : ℤ) :
    ((Cell.int i).toJson threshold).plainText = toString i := by
  show (if threshold.lt (.ofNat i.natAbs) then Json.string (toString i) else .int i).plainText = _
  split <;> rfl

/-- A whole number that is rounded to a double within the thresholds is not changed. -/
theorem Finite64.IsRounded.value_eq_of_whole {x : Finite64} {m : ℤ} (h : x.IsRounded m)
    (hx : |x.value| ≤ 9007199254740991) : x.value = m := by
  by_cases hm : m.natAbs < 2 ^ 53
  · rcases Binary64.ofNat_cases m.natAbs with ⟨-, hlarge⟩ | ⟨y, hy, -, -, -⟩
    · omega
    · have habs : |y.value| = |(m : ℚ)| := by
        rw [value_of_ofNat hy hm, Nat.abs_cast, Nat.cast_natAbs, Int.cast_abs]
      exact h.value_eq_of_abs
        ((le_antisymm (h.abs_value_le habs.ge) (h.le_abs_value habs.le)).trans habs)
  · have hlarge : |(power 53 (by norm_num)).value| ≤ |(m : ℚ)| := by
      have hcast : ((2 ^ 53 : ℕ) : ℚ) ≤ m.natAbs := by exact_mod_cast not_lt.mp hm
      rw [value_power, abs_of_pos (by norm_num), ← Int.cast_abs, ← Nat.cast_natAbs]
      exact_mod_cast hcast
    have hbeyond := (h.le_abs_value hlarge).trans hx
    rw [value_power] at hbeyond
    norm_num at hbeyond

/-- Digits without a point are the text of a decimal number only if it has no places. -/
theorem toString_eq_decimalText_iff (scale : ℕ) (m : ℤ) :
    toString m = DatabaseValue.decimalText scale (10 ^ scale * m) ↔ scale = 0 := by
  rw [← PlainDecimal.text_ofScaled, ← String.toList_inj, PlainDecimal.text, String.toList_ofList]
  constructor
  · intro h
    by_contra hscale
    have hpoint : '.' ∈ (PlainDecimal.ofScaled scale (10 ^ scale * m)).chars := by
      have hlength := PlainDecimal.length_fraction_ofScaled scale (10 ^ scale * m)
      have hempty : (PlainDecimal.ofScaled scale (10 ^ scale * m)).fraction.isEmpty = false := by
        rw [List.isEmpty_eq_false_iff, ← List.length_pos_iff]
        omega
      rw [PlainDecimal.chars, PlainDecimal.unsigned, hempty]
      simp
    have htext : (toString m).toList = _ := JsonNumber.integer_text m
    rw [← h, htext] at hpoint
    rcases List.mem_append.mp hpoint with hsign | hdigit
    · split at hsign
      · simp at hsign
      · simp at hsign
    · have := AreDigits.toDigits _ _ hdigit
      cases this
  · rintro rfl
    rw [PlainDecimal.chars_ofScaled_zero, pow_zero, one_mul]

/-- A number of few digits with a fraction goes out with its own text, provided that it has no zeros
at the end and is not below a hundred-thousandth. -/
theorem Finite64.IsRounded.jsonNumber_text_eq_iff {x : Finite64} {n : ℤ} {scale : ℕ}
    (h : x.IsRounded (n / 10 ^ scale)) (hn : n.natAbs < 10 ^ 15) (hscale : scale ≤ 250)
    (hfraction : ¬(10 ^ scale : ℤ) ∣ n) :
    x.jsonNumber.text = DatabaseValue.decimalText scale n ↔
      ¬(10 : ℤ) ∣ n ∧ 1 / 10 ^ 5 ≤ |(n / 10 ^ scale : ℚ)| := by
  have hpower : (0 : ℚ) < 10 ^ scale := by positivity
  have habs := abs_div_ten_pow n scale
  have hfloat : x.jsonNumber = .float x := by
    unfold jsonNumber
    refine if_neg fun hwhole => hfraction ?_
    have hvalue := value_eq_truncate hwhole
    have hgrid := hvalue ▸ abs_eq_div_ten_pow x.truncate scale
    have hexact := (h.value_eq_of_few hn hscale habs hgrid).symm.trans hvalue
    rw [div_eq_iff hpower.ne'] at hexact
    exact ⟨x.truncate, by rw [mul_comm]; exact_mod_cast hexact⟩
  have hsmall : (1 / 10 ^ 5 : ℚ) ≤ |(n / 10 ^ scale : ℚ)| ↔ 10 ^ scale ≤ n.natAbs * 10 ^ 5 := by
    rw [habs, div_le_div_iff₀ (by norm_num) hpower, one_mul]
    exact_mod_cast Iff.rfl
  rw [hfloat, hsmall, ← PlainDecimal.text_ofScaled]
  exact h.writeFinite_eq_iff hn hscale hfraction

section

variable (t : Finite64) (ht₀ : 0 ≤ t.value) (ht : t.value ≤ 9007199254740991) (scale : ℕ)

include ht₀ ht

/-- A whole number is searched by the text that is returned if it is within the threshold, has no
places or is beyond the bound of whole numbers. -/
theorem searchedText_whole_eq_iff (m : ℤ) :
    searchedText scale (10 ^ scale * m) =
        ((Cell.decimal (DatabaseValue.decimalText scale (10 ^ scale * m))).toJson
          (.finite t)).plainText ↔
      |(m : ℚ)| ≤ t.value ∨ scale = 0 ∨ 10 ^ 18 ≤ |(m : ℚ)| := by
  have hcases := Cell.toJson_plainDecimal_cases (.ofScaled scale (10 ^ scale * m)) ht₀ ht
  rw [PlainDecimal.value_ofScaled, PlainDecimal.text_ofScaled, whole_div_ten_pow] at hcases
  have hquotient : 10 ^ scale * m / 10 ^ scale = m := Int.mul_ediv_cancel_left _ (by positivity)
  rw [searchedText, whole_div_ten_pow, hquotient]
  rcases hcases with ⟨x, hx, hxt, hjson⟩ | ⟨hbeyond, -, hjson⟩
  · have hexact := hx.value_eq_of_whole (hxt.trans ht)
    rw [hexact] at hxt
    rw [hjson, Finite64.jsonNumber_eq_integer_iff.mpr hexact, if_pos]
    · exact iff_of_true rfl (.inl hxt)
    · exact ⟨dvd_mul_right _ _, hxt.trans_lt (ht.trans_lt (by norm_num))⟩
  · rw [hjson]
    by_cases hsmall : |(m : ℚ)| < 10 ^ 18
    · rw [if_pos ⟨dvd_mul_right _ _, hsmall⟩]
      refine (toString_eq_decimalText_iff scale m).trans ⟨fun h => .inr (.inl h), ?_⟩
      rintro (hle | hscale | hlarge)
      · exact absurd hle (not_le.mpr hbeyond)
      · exact hscale
      · exact absurd hsmall (not_lt.mpr hlarge)
    · rw [if_neg fun h => hsmall h.2]
      exact iff_of_true rfl (.inr (.inr (not_lt.mp hsmall)))

/-- A number with a fraction is searched by the text that is returned if it is returned as it is. -/
theorem searchedText_fraction_eq_iff {n : ℤ} (hfraction : ¬(10 ^ scale : ℤ) ∣ n) :
    searchedText scale n =
        ((Cell.decimal (DatabaseValue.decimalText scale n)).toJson (.finite t)).plainText ↔
      ∀ x : Finite64, x.IsRounded (n / 10 ^ scale) →
        t.value < |x.value| ∨ x.jsonNumber.text = DatabaseValue.decimalText scale n := by
  have hcases := Cell.toJson_plainDecimal_cases (.ofScaled scale n) ht₀ ht
  rw [PlainDecimal.value_ofScaled, PlainDecimal.text_ofScaled] at hcases
  have hvalue : (n / 10 ^ scale : ℚ) ≠ 0 := by
    have hn : (n : ℚ) ≠ 0 := Int.cast_ne_zero.mpr fun h => hfraction (h ▸ dvd_zero _)
    exact div_ne_zero hn (by positivity)
  rw [searchedText, if_neg fun h => hfraction h.1]
  rcases hcases with ⟨x, hx, hxt, hjson⟩ | ⟨-, hbeyond, hjson⟩
  · rw [hjson]
    show _ = x.jsonNumber.text ↔ _
    constructor
    · intro htext y hy
      rw [hy.eq hx hvalue]
      exact .inr htext.symm
    · intro h
      exact ((h x hx).resolve_left (not_lt.mpr hxt)).symm
  · rw [hjson]
    exact iff_of_true rfl fun x hx => .inl (hbeyond x hx)

/-- When a decimal number is searched by the text that is returned. -/
theorem searchedText_eq_iff (n : ℤ) :
    searchedText scale n =
        ((Cell.decimal (DatabaseValue.decimalText scale n)).toJson (.finite t)).plainText ↔
      if (10 ^ scale : ℤ) ∣ n then
        |(n / 10 ^ scale : ℚ)| ≤ t.value ∨ scale = 0 ∨ 10 ^ 18 ≤ |(n / 10 ^ scale : ℚ)|
      else ∀ x : Finite64, x.IsRounded (n / 10 ^ scale) →
        t.value < |x.value| ∨ x.jsonNumber.text = DatabaseValue.decimalText scale n := by
  split
  · rename_i hdvd
    obtain ⟨m, rfl⟩ := hdvd
    rw [whole_div_ten_pow]
    exact searchedText_whole_eq_iff t ht₀ ht scale m
  · rename_i hfraction
    exact searchedText_fraction_eq_iff t ht₀ ht scale hfraction

end

/-- With settings that make sense, an integer of 64 bits is searched by the text that is returned. A
whole decimal number is so if it is within the threshold, has no places, or has more digits than are
cut off. One with a fraction is so if it is beyond the threshold or the text of its double is its
own, which for few digits means that the last of them is not zero and that it is not too small. -/
theorem searched_by_returned {c : Config} (hc : c.check = .ok ()) (like : String → String → Bool)
    (shown : Binary64 → String) (row : (SqlDialect.exact like shown).Row) (name : String) :
    ∃ t : Finite64, c.query.numericStringThreshold = .finite t ∧
      0 ≤ t.value ∧ t.value ≤ 9007199254740991 ∧
      (∀ i, minInt64 ≤ i ∧ i ≤ maxInt64 → row name = some (.integer i) →
        SearchedBy like shown row name
          ((Cell.int i).toJson c.query.numericStringThreshold).plainText) ∧
      ∀ scale n, row name = some (.decimal scale n) →
        ∃ text, SearchedBy like shown row name text ∧
          (text = ((Cell.decimal (DatabaseValue.decimalText scale n)).toJson
              c.query.numericStringThreshold).plainText ↔
            if (10 ^ scale : ℤ) ∣ n then
              |(n / 10 ^ scale : ℚ)| ≤ t.value ∨ scale = 0 ∨ 10 ^ 18 ≤ |(n / 10 ^ scale : ℚ)|
            else ∀ x : Finite64, x.IsRounded (n / 10 ^ scale) →
              t.value < |x.value| ∨ x.jsonNumber.text = DatabaseValue.decimalText scale n) ∧
          (¬(10 ^ scale : ℤ) ∣ n → n.natAbs < 10 ^ 15 → scale ≤ 250 →
            ∀ x : Finite64, x.IsRounded (n / 10 ^ scale) →
              (x.jsonNumber.text = DatabaseValue.decimalText scale n ↔
                ¬(10 : ℤ) ∣ n ∧ 1 / 10 ^ 5 ≤ |(n / 10 ^ scale : ℚ)|)) := by
  obtain ⟨t, hthreshold, ht₀, ht⟩ := isWithin_maxSafeInteger_iff.mp (isWithin_of_check hc)
  rw [hthreshold]
  refine ⟨t, rfl, ht₀, ht, fun i hi hrow => ?_, fun scale n hrow => ?_⟩
  · rw [Cell.plainText_int]
    exact searchedBy_of_textForm (hrow ▸ SqlDialect.textForm_integer like shown hi)
  · exact ⟨searchedText scale n,
      searchedBy_of_textForm (hrow ▸ SqlDialect.textForm_decimal like shown scale n),
      searchedText_eq_iff t ht₀ ht scale n,
      fun hfraction hn hscale x hx => hx.jsonNumber_text_eq_iff hn hscale hfraction⟩

/-! ## A row of items -/

/-- The pattern is the text. -/
def isPattern (text pattern : String) : Bool := text == pattern

/-- A large count, a refund, and a price with a zero at its end. -/
def itemRow : (SqlDialect.exact isPattern fun _ => "").Row := fun name =>
  if name = "count" then some (.integer (2 ^ 62))
  else if name = "refund" then some (.decimal 2 (-123405))
  else some (.decimal 2 150)

/-- The count and the refund are searched by what is returned. -/
theorem searched_by_returned_item :
    (Config.default.check = .ok () ∧ minInt64 ≤ 2 ^ 62 ∧ 2 ^ 62 ≤ maxInt64 ∧
        itemRow "count" = some (.integer (2 ^ 62)) ∧
        itemRow "refund" = some (.decimal 2 (-123405))) ∧
      SearchedBy isPattern (fun _ => "") itemRow "count"
        ((Cell.int (2 ^ 62)).toJson Config.default.query.numericStringThreshold).plainText ∧
      SearchedBy isPattern (fun _ => "") itemRow "refund"
        ((Cell.decimal "-1234.05").toJson
          Config.default.query.numericStringThreshold).plainText := by
  have hcheck : Config.default.check = .ok () := by decide +kernel
  have hword : minInt64 ≤ 2 ^ 62 ∧ 2 ^ 62 ≤ maxInt64 := by decide
  have hcount : itemRow "count" = some (.integer (2 ^ 62)) := rfl
  have hrefund : itemRow "refund" = some (.decimal 2 (-123405)) := rfl
  have htext : DatabaseValue.decimalText 2 (-123405) = "-1234.05" := by decide +kernel
  obtain ⟨-, -, -, -, hinteger, -⟩ :=
    searched_by_returned hcheck isPattern (fun _ => "") itemRow "count"
  obtain ⟨t, -, -, -, -, hdecimal⟩ :=
    searched_by_returned hcheck isPattern (fun _ => "") itemRow "refund"
  obtain ⟨text, hsearched, hiff, hfew⟩ := hdecimal 2 (-123405) hrefund
  have hfraction : ¬(10 ^ 2 : ℤ) ∣ -123405 := by decide
  have hreturned := hiff.mpr (by
    rw [if_neg hfraction]
    intro x hx
    have hdigits := hfew hfraction (by decide) (by decide) x hx
    exact .inr (hdigits.mpr ⟨by decide, by norm_num⟩))
  rw [htext] at hreturned
  exact ⟨⟨hcheck, hword.1, hword.2, hcount, hrefund⟩, hinteger _ hword hcount,
    hreturned ▸ hsearched⟩

/-- The price is searched by its zero, which is not returned. -/
theorem searched_by_zero_of_price :
    Config.default.check = .ok () ∧ itemRow "price" = some (.decimal 2 150) ∧
      SearchedBy isPattern (fun _ => "") itemRow "price" "1.50" ∧
      ((Cell.decimal (DatabaseValue.decimalText 2 150)).toJson
        Config.default.query.numericStringThreshold).plainText = "1.5" ∧
      ¬SearchedBy isPattern (fun _ => "") itemRow "price" "1.5" := by
  have hsearched : SearchedBy isPattern (fun _ => "") itemRow "price" "1.50" := by
    have htext : searchedText 2 150 = "1.50" := by decide +kernel
    rw [← htext]
    exact searchedBy_of_textForm (SqlDialect.textForm_decimal isPattern (fun _ => "") 2 150)
  refine ⟨by decide +kernel, rfl, hsearched, by decide +kernel, fun hreturned => ?_⟩
  have htruth := (hsearched.truth_eq "1.5").symm.trans (hreturned.truth_eq "1.5")
  revert htruth
  decide

end TableQuery
