import TableQuery.Database.Value
import TableQuery.Proofs.Cell.Decimal

/-!
# Numbers of the database for the caller

* `DatabaseValue.toJson_integer`: what becomes of an integer of any width.
* `PlainDecimal.text_ofScaled`: the text of a decimal number.
-/

namespace TableQuery

/-! ## Integers -/

namespace DatabaseValue

/-- Integers of all widths but one stay integers. -/
theorem isWhole_toCell {kind : IntegerKind} (h : kind ≠ .unsignedHugeInt) (i : ℤ) :
    (toCell (.integer kind i)).IsWhole i := by
  cases kind with
  | hugeInt | unsignedBigInt => exact .inr rfl
  | unsignedHugeInt => exact absurd rfl h
  | tinyInt | smallInt | int | bigInt | unsignedTinyInt | unsignedSmallInt | unsignedInt =>
    exact .inl rfl

/-- With settings that make sense, an integer is a number for the caller if its magnitude is within
the threshold, and its digits with its sign if it is not. Only an unsigned integer of 128 bits is a
text that names its width, whatever the threshold. -/
theorem toJson_integer {c : Config} (hc : c.check = .ok ()) (kind : IntegerKind) (i : ℤ) :
    ∃ (t : Finite64) (digits : String), c.query.numericStringThreshold = .finite t ∧
      0 ≤ t.value ∧ t.value ≤ 9007199254740991 ∧
      digits.toList = (if i < 0 then ['-'] else []) ++ Nat.toDigits 10 i.natAbs ∧
      (toCell (.integer kind i)).toJson c.query.numericStringThreshold =
        if kind = .unsignedHugeInt then .string ("UHugeInt(" ++ digits ++ ")")
        else if ((|i| : ℤ) : ℚ) ≤ t.value then .int i else .string digits := by
  obtain ⟨t, hthreshold, ht₀, ht⟩ := isWithin_maxSafeInteger_iff.mp (isWithin_of_check hc)
  refine ⟨t, toString i, hthreshold, ht₀, ht, JsonNumber.integer_text i, ?_⟩
  by_cases hkind : kind = .unsignedHugeInt
  · rw [if_pos hkind, hkind]
    rfl
  · rw [if_neg hkind, hthreshold, (isWhole_toCell hkind i).toJson_eq ht]

/-- The ends of three widths, and the end of the width that is left out. -/
theorem toJson_integer_ends :
    Config.default.check = .ok () ∧
      (toCell (.integer .tinyInt (-128))).toJson Config.default.query.numericStringThreshold =
        .int (-128) ∧
      (toCell (.integer .hugeInt (-2 ^ 127))).toJson Config.default.query.numericStringThreshold =
        .string "-170141183460469231731687303715884105728" ∧
      (toCell (.integer .unsignedBigInt (2 ^ 64 - 1))).toJson
        Config.default.query.numericStringThreshold = .string "18446744073709551615" ∧
      (toCell (.integer .unsignedHugeInt (2 ^ 128 - 1))).toJson
        Config.default.query.numericStringThreshold =
        .string "UHugeInt(340282366920938463463374607431768211455)" := by
  have hcheck : Config.default.check = .ok () := by decide +kernel
  obtain ⟨t₁, _, h₁, -, -, -, htiny⟩ := toJson_integer hcheck .tinyInt (-128)
  obtain ⟨t₂, huge, h₂, -, -, hdigits, hhuge⟩ := toJson_integer hcheck .hugeInt (-2 ^ 127)
  obtain ⟨t₃, long, h₃, -, -, hlong, hword⟩ := toJson_integer hcheck .unsignedBigInt (2 ^ 64 - 1)
  obtain ⟨_, wide, -, -, -, hwide, hwidest⟩ := toJson_integer hcheck .unsignedHugeInt (2 ^ 128 - 1)
  rw [if_neg (by decide), Cell.defaultThreshold_value h₁, if_pos (by norm_num)] at htiny
  rw [if_neg (by decide), Cell.defaultThreshold_value h₂, if_neg (by norm_num)] at hhuge
  rw [if_neg (by decide), Cell.defaultThreshold_value h₃, if_neg (by norm_num)] at hword
  rw [if_pos rfl] at hwidest
  have hhuge' : huge = "-170141183460469231731687303715884105728" :=
    String.ext (hdigits.trans (by decide +kernel))
  have hlong' : long = "18446744073709551615" := String.ext (hlong.trans (by decide +kernel))
  have hwide' : wide = "340282366920938463463374607431768211455" :=
    String.ext (hwide.trans (by decide +kernel))
  subst hhuge' hlong' hwide'
  exact ⟨hcheck, htiny, hhuge, hword, hwidest⟩

/-- Five as an unsigned integer of 128 bits is neither the number nor its digits. -/
theorem toJson_integer_named :
    IntegerKind.unsignedHugeInt.least ≤ 5 ∧ 5 ≤ IntegerKind.unsignedHugeInt.most ∧
      Config.default.check = .ok () ∧
      (toCell (.integer .unsignedHugeInt 5)).toJson Config.default.query.numericStringThreshold =
        .string "UHugeInt(5)" ∧
      Json.string "UHugeInt(5)" ≠ .int 5 ∧ Json.string "UHugeInt(5)" ≠ .string "5" := by
  refine ⟨by decide, by decide, by decide +kernel, rfl, nofun, ?_⟩
  intro h
  rw [Json.string.injEq] at h
  exact absurd h (by decide)

end DatabaseValue

/-! ## Decimal numbers -/

namespace PlainDecimal

/-- The text of a decimal number of the database. -/
theorem text_ofScaled (scale : ℕ) (value : ℤ) :
    (ofScaled scale value).text = DatabaseValue.decimalText scale value := by
  rw [text_eq]
  unfold DatabaseValue.decimalText
  simp only [ofScaled, padded, decide_eq_true_iff]
  rfl

end PlainDecimal

end TableQuery
