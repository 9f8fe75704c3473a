import TableQuery.Proofs.Database.Value
import TableQuery.Sql.Param

/-!
# Integers sent back

An integer that was read goes back into the database as a filter value or a written value.

* `Cell.coerce_toJson_whole`: an integer of 64 bits comes back as it is, and a wider one as the
  double that it is rounded to.
-/

namespace TableQuery

/-! ## Digits of an integer -/

/-- The text of an integer is a plain decimal without places. -/
theorem PlainDecimal.chars_ofScaled_zero (i : ℤ) :
    (ofScaled 0 i).chars = (toString i).toList := by
  have hpadded : padded 0 i.natAbs = Nat.toDigits 10 i.natAbs := by
    have hlength : 0 < (Nat.toDigits 10 i.natAbs).length := Nat.length_toDigits_pos
    unfold padded
    rw [Nat.sub_eq_zero_of_le (by omega)]
    rfl
  have htext : (toString i).toList = _ := JsonNumber.integer_text i
  rw [htext]
  unfold chars unsigned ofScaled
  simp [hpadded]

theorem isBlank_of_isNumeralChar {c : Char} (h : isNumeralChar c = true) : isBlank c = false := by
  simp only [isNumeralChar, Bool.or_eq_true, beq_iff_eq] at h
  obtain (((hdigit | rfl) | rfl) | rfl) | rfl := h
  · have hle : 48 ≤ c.toNat ∧ c.toNat ≤ 57 := by
      unfold Char.isDigit at hdigit
      simp only [Bool.and_eq_true, decide_eq_true_eq] at hdigit
      exact ⟨UInt32.le_iff_toNat_le.mp hdigit.1, UInt32.le_iff_toNat_le.mp hdigit.2⟩
    simp only [isBlank, Bool.or_eq_false_iff, Bool.and_eq_false_iff, decide_eq_false_iff_not,
      beq_eq_false_iff_ne]
    omega
  all_goals rfl

/-- No blanks are around the digits of an integer. -/
theorem trimChars_toString (i : ℤ) : trimChars (toString i).toList = (toString i).toList :=
  trimChars_eq_self fun c hc => isBlank_of_isNumeralChar (JsonNumber.text_chars (.integer i) c hc)

/-- An integer is read back within bounds. -/
theorem readInteger?_toString (least most i : ℤ) : readInteger? least most (toString i).toList =
    if least ≤ i ∧ i ≤ most then some i else none := by
  have hsplit := (PlainDecimal.ofScaled 0 i).splitSign_chars
  have hread : readDigits? (PlainDecimal.ofScaled 0 i).unsigned = some i.natAbs := by
    have hfraction : (PlainDecimal.ofScaled 0 i).fraction = [] :=
      List.length_eq_zero_iff.mp (PlainDecimal.length_fraction_ofScaled 0 i)
    have hcoefficient := PlainDecimal.coefficient_ofScaled 0 i
    unfold PlainDecimal.coefficient at hcoefficient
    rw [hfraction, List.append_nil] at hcoefficient
    unfold PlainDecimal.unsigned
    rw [hfraction, List.isEmpty_nil, if_pos rfl, List.append_nil,
      (PlainDecimal.areDigits_whole _).readDigits? (PlainDecimal.whole_ne_nil _), hcoefficient]
  have hsign : (PlainDecimal.ofScaled 0 i).negative = decide (i < 0) := rfl
  have hvalue : (if decide (i < 0) = true then -(i.natAbs : ℤ) else i.natAbs) = i := by
    by_cases h : i < 0
    · rw [if_pos (decide_eq_true h)]
      omega
    · rw [if_neg (by simpa using h)]
      omega
  rw [PlainDecimal.chars_ofScaled_zero] at hsplit
  unfold readInteger?
  simp only [hsplit, hread, hsign, Option.bind_eq_bind, Option.bind_some, hvalue]

theorem readBinary64?_toString (i : ℤ) : readBinary64? (toString i).toList =
    some (PlainDecimal.ofScaled 0 i).decimal.toBinary64 := by
  rw [← PlainDecimal.chars_ofScaled_zero]
  exact (PlainDecimal.ofScaled 0 i).readBinary64?_chars

/-! ## Parameters -/

namespace Param

/-- The exact value of a number. -/
def amount? : Param → Option ℚ
  | .int i => some i
  | .float (.finite x) => some x.value
  | _ => none

/-- The digits of an integer of 64 bits are that integer for a column of numbers. -/
theorem ofNumeral?_toString {i : ℤ} (h : minInt64 ≤ i ∧ i ≤ maxInt64) :
    ofNumeral? (toString i) = some (.int i) := by
  unfold ofNumeral?
  simp only [trimChars_toString, readInteger?_toString, if_pos h]

/-- The digits of a wider integer are the double that it is rounded to. -/
theorem ofNumeral?_toString_wide {i : ℤ} (hwide : ¬(minInt64 ≤ i ∧ i ≤ maxInt64))
    (hi : |i| ≤ 2 ^ 127) :
    ∃ x : Finite64, ofNumeral? (toString i) = some (.float (.finite x)) ∧ x.IsRounded i := by
  have hvalue : (PlainDecimal.ofScaled 0 i).decimal.value = i := by
    rw [PlainDecimal.decimal_value, PlainDecimal.value_ofScaled, pow_zero, div_one]
  rcases (PlainDecimal.ofScaled 0 i).decimal.toBinary64_cases with
    ⟨-, hlarge⟩ | ⟨x, hx, -, hrounded⟩
  · have hpower : (2 : ℚ) ^ 127 < 2 ^ 1023 := pow_lt_pow_right₀ one_lt_two (by norm_num)
    have hcast : |(i : ℚ)| ≤ 2 ^ 127 := by exact_mod_cast hi
    rw [hvalue] at hlarge
    exact absurd (hlarge.trans hcast) (not_le.mpr hpower)
  · rw [hvalue] at hrounded
    refine ⟨x, ?_, hrounded⟩
    unfold ofNumeral?
    simp only [trimChars_toString, readInteger?_toString, if_neg hwide, readBinary64?_toString, hx,
      Binary64.isFinite, if_true]

/-- A column of numbers takes the text of a number. -/
theorem coerce_numeral {s : String} {p : Param} (h : ofNumeral? s = some p) (field : String) :
    coerce (.string s) .number field = .ok p := by
  have hscalar : ofScalar? .number (.string s) = some p := h
  simp only [coerce, hscalar]

/-- A column of numbers takes an integer of 64 bits. -/
theorem coerce_int {i : ℤ} (h : minInt64 ≤ i ∧ i ≤ maxInt64) (field : String) :
    coerce (.int i) .number field = .ok (.int i) := by
  have hscalar : ofScalar? .number (.int i) = some (.int i) := by
    simp only [Json.int, ofScalar?, ofNumber, JsonNumber.int64?, if_pos h]
  simp only [coerce, Json.int] at hscalar ⊢
  rw [hscalar]

end Param

/-- With settings that make sense, a column of numbers takes every integer back that was read. The
parameter has its value if it has 64 bits or a double has that value, and only then: within 64 bits
the parameter is the integer, and a wider one becomes the double that it is rounded to. -/
theorem Cell.coerce_toJson_whole {c : Config} (hc : c.check = .ok ()) {i : ℤ} {cell : Cell}
    (hcell : cell.IsWhole i) (hi : -2 ^ 127 ≤ i ∧ i < 2 ^ 127) (field : String) :
    ∃ p, Param.coerce (cell.toJson c.query.numericStringThreshold) .number field = .ok p ∧
      (p.amount? = some (i : ℚ) ↔
        (minInt64 ≤ i ∧ i ≤ maxInt64) ∨ ∃ y : Finite64, y.value = i) ∧
      (minInt64 ≤ i ∧ i ≤ maxInt64 → p = .int i) ∧
      (¬(minInt64 ≤ i ∧ i ≤ maxInt64) →
        ∃ x : Finite64, p = .float (.finite x) ∧ x.IsRounded i) := by
  obtain ⟨t, hthreshold, ht₀, ht⟩ := isWithin_maxSafeInteger_iff.mp (isWithin_of_check hc)
  rw [hthreshold, hcell.toJson_eq ht]
  have hnumber : ((|i| : ℤ) : ℚ) ≤ t.value → minInt64 ≤ i ∧ i ≤ maxInt64 := by
    intro hle
    have hsafe : |i| ≤ 9007199254740991 := by exact_mod_cast hle.trans ht
    exact int64_of_abs_lt (hsafe.trans_lt (by norm_num))
  by_cases hword : minInt64 ≤ i ∧ i ≤ maxInt64
  · refine ⟨.int i, ?_, ⟨fun _ => .inl hword, fun _ => rfl⟩, fun _ => rfl,
      fun hwide => absurd hword hwide⟩
    split
    · exact Param.coerce_int hword field
    · exact Param.coerce_numeral (Param.ofNumeral?_toString hword) field
  · have hmagnitude : |i| ≤ 2 ^ 127 := abs_le.mpr ⟨hi.1, hi.2.le⟩
    obtain ⟨x, hx, hrounded⟩ := Param.ofNumeral?_toString_wide hword hmagnitude
    rw [if_neg (mt hnumber hword)]
    refine ⟨.float (.finite x), Param.coerce_numeral hx field, ⟨fun hamount => ?_, ?_⟩,
      fun h => absurd h hword, fun _ => ⟨x, rfl, hrounded⟩⟩
    · exact .inr ⟨x, Option.some.inj hamount⟩
    · rintro (h | ⟨y, hy⟩)
      · exact absurd h hword
      · exact congrArg some (hrounded.value_eq_self hy)

namespace Cell

/-- The least integer of 64 bits, and a wider one that is a double. -/
theorem coerce_toJson_whole_power :
    (Config.default.check = .ok () ∧ (Cell.int (-2 ^ 63)).IsWhole (-2 ^ 63) ∧
        (Cell.bigInt (2 ^ 126)).IsWhole (2 ^ 126)) ∧
      Param.coerce ((Cell.int (-2 ^ 63)).toJson Config.default.query.numericStringThreshold)
        .number "n" = .ok (.int (-2 ^ 63)) ∧
      ∃ p, Param.coerce
          ((Cell.bigInt (2 ^ 126)).toJson Config.default.query.numericStringThreshold)
          .number "n" = .ok p ∧
        p.amount? = some (2 ^ 126) := by
  have hcheck : Config.default.check = .ok () := by decide +kernel
  obtain ⟨p, hp, -, hword, -⟩ :=
    coerce_toJson_whole hcheck (.inl rfl : (Cell.int (-2 ^ 63)).IsWhole _) (by norm_num) "n"
  obtain ⟨q, hq, hamount, -⟩ :=
    coerce_toJson_whole hcheck (.inr rfl : (Cell.bigInt (2 ^ 126)).IsWhole _) (by norm_num) "n"
  refine ⟨⟨hcheck, .inl rfl, .inr rfl⟩, ?_, q, hq, ?_⟩
  · rw [hp, hword (by decide)]
  · have hexact := hamount.mpr (.inr ⟨Finite64.power 126 (by norm_num), ?_⟩)
    · exact_mod_cast hexact
    · rw [Finite64.value_power]
      norm_cast

/-- The second integer beyond 64 bits is rounded to the first one. -/
theorem coerce_toJson_whole_rounds :
    Config.default.check = .ok () ∧ (Cell.bigInt (2 ^ 63 + 1)).IsWhole (2 ^ 63 + 1) ∧
      ∃ p, Param.coerce
          ((Cell.bigInt (2 ^ 63 + 1)).toJson Config.default.query.numericStringThreshold)
          .number "n" = .ok p ∧
        p.amount? = some (2 ^ 63) ∧ p.amount? ≠ some ((2 ^ 63 + 1 : ℤ) : ℚ) := by
  have hcheck : Config.default.check = .ok () := by decide +kernel
  obtain ⟨t, hthreshold, -, ht⟩ := isWithin_maxSafeInteger_iff.mp (isWithin_of_check hcheck)
  have hwhole : (Cell.bigInt (2 ^ 63 + 1)).IsWhole (2 ^ 63 + 1) := .inr rfl
  have hread : Param.ofNumeral? (toString (2 ^ 63 + 1 : ℤ)) =
      some (.float (.finite (Finite64.power 63 (by norm_num)))) := by
    decide +kernel
  have hamount : (Param.float (.finite (Finite64.power 63 (by norm_num)))).amount? =
      some (2 ^ 63) :=
    congrArg some (Finite64.value_power (by norm_num))
  refine ⟨hcheck, hwhole, _, ?_, hamount, ?_⟩
  · rw [hthreshold, hwhole.toJson_eq ht, if_neg]
    · exact Param.coerce_numeral hread "n"
    · rw [defaultThreshold_value hthreshold]
      norm_num
  · rw [hamount, Ne, Option.some.injEq]
    norm_num

end Cell

end TableQuery
