import TableQuery.Cell
import TableQuery.Config.Settings
import TableQuery.Proofs.Numeric.Closest
import TableQuery.Proofs.Numeric.Text

/-!
# Whole cells

An integer of the store is held against a threshold after it has been rounded to a double. The
rounding makes no difference for the thresholds that settings may have: up to these every integer
is a double, and no larger one is rounded down to them.

* `isWithin_maxSafeInteger_iff`: the thresholds that settings may have.
* `Cell.toJson_whole`: an integer goes out as a number if it is within the threshold, and as its
  digits if it is not.
-/

namespace TableQuery

/-! ## Thresholds -/

/-- The bound of thresholds is a whole number. -/
theorem maxSafeInteger_eq : ∃ x : Finite64, maxSafeInteger = .finite x ∧
    x.quanta = (9007199254740991 * quantaPerUnit : ℕ) := by
  rcases Binary64.ofNat_cases 9007199254740991 with ⟨-, hlarge⟩ | ⟨x, hx, hsign, hsmall, -⟩
  · norm_num at hlarge
  · refine ⟨x, hx, ?_⟩
    unfold Finite64.quanta
    rw [hsign, hsmall (by norm_num)]
    rfl

/-- Thresholds are finite, from zero up to the largest of the whole numbers that are all doubles. -/
theorem isWithin_maxSafeInteger_iff {x : Binary64} :
    isWithin maxSafeInteger x = true ↔
      ∃ t : Finite64, x = .finite t ∧ 0 ≤ t.value ∧ t.value ≤ 9007199254740991 := by
  obtain ⟨bound, hbound, hquanta⟩ := maxSafeInteger_eq
  have hzero : Finite64.zero.quanta = 0 := rfl
  cases x with
  | nan => simp [isWithin, Binary64.zero, Binary64.le]
  | infinite s => cases s <;> simp [isWithin, Binary64.zero, hbound, Binary64.le]
  | finite t =>
    have hle := Finite64.value_le_natCast_iff (x := t) (n := 9007199254740991)
    rw [← hquanta] at hle
    simp only [isWithin, Binary64.zero, hbound, Binary64.le, hzero, Bool.and_eq_true,
      decide_eq_true_iff, ← hle, Finite64.value_nonneg_iff]
    constructor
    · rintro h
      exact ⟨t, rfl, h⟩
    · rintro ⟨_, ⟨⟩, h⟩
      exact h

theorem isWithin_of_check {c : Config} (h : c.check = .ok ()) :
    isWithin maxSafeInteger c.query.numericStringThreshold = true := by
  unfold Config.check at h
  by_contra hno
  rw [Bool.not_eq_true] at hno
  simp only [hno] at h
  split at h
  · cases h
  · split at h
    · cases h
    · cases h

/-! ## Integers -/

/-- A threshold is below an integer if it is below the double nearest to it. -/
theorem threshold_lt_iff {t : Finite64} (ht : t.value ≤ 9007199254740991) (i : ℤ) :
    (Binary64.finite t).lt (.ofNat i.natAbs) = true ↔ t.value < |i| := by
  have hbound : t.value < (2 ^ 53 : ℕ) := by
    refine ht.trans_lt ?_
    norm_num
  rw [Finite64.value_lt_natCast_iff] at hbound
  rw [Binary64.lt_ofNat_iff hbound, ← Finite64.value_lt_natCast_iff, Nat.cast_natAbs]

namespace Cell

/-- The cell holds an integer, of a column of 64 bits or of a wider one. -/
def IsWhole (cell : Cell) (i : ℤ) : Prop := cell = .int i ∨ cell = .bigInt i

/-- An integer goes out as a number if it is within the threshold, and as text if it is not. -/
theorem IsWhole.toJson_eq {cell : Cell} {i : ℤ} (h : cell.IsWhole i) {t : Finite64}
    (ht : t.value ≤ 9007199254740991) :
    cell.toJson (.finite t) =
      if ((|i| : ℤ) : ℚ) ≤ t.value then .int i else .string (toString i) := by
  have hlt := threshold_lt_iff ht i
  by_cases hi : ((|i| : ℤ) : ℚ) ≤ t.value
  · have hno : ¬(Binary64.finite t).lt (.ofNat i.natAbs) = true := mt hlt.mp (not_lt.mpr hi)
    rw [if_pos hi]
    rcases h with rfl | rfl
    · exact if_neg hno
    · -- Below the threshold an integer of a wider column has 64 bits too.
      have hsafe : |i| ≤ 9007199254740991 := by exact_mod_cast hi.trans ht
      rw [toJson, if_neg hno, if_pos (int64_of_abs_lt (hsafe.trans_lt (by norm_num)))]
  · have hyes := hlt.mpr (not_le.mp hi)
    rw [if_neg hi]
    rcases h with rfl | rfl <;> exact if_pos hyes

/-- With settings that make sense, an integer is a number for the caller if its magnitude is within
the threshold, and its digits with its sign if it is not. Numbers are small enough for a double to
hold all of them. -/
theorem toJson_whole {c : Config} (hc : c.check = .ok ()) {i : ℤ} {cell : Cell}
    (hcell : cell.IsWhole i) :
    ∃ (t : Finite64) (text : String), c.query.numericStringThreshold = .finite t ∧
      0 ≤ t.value ∧ t.value ≤ 9007199254740991 ∧
      text.toList = (if i < 0 then ['-'] else []) ++ Nat.toDigits 10 i.natAbs ∧
      cell.toJson c.query.numericStringThreshold =
        (if ((|i| : ℤ) : ℚ) ≤ t.value then .int i else .string text) ∧
      ∀ n, cell.toJson c.query.numericStringThreshold = .number n →
        n = .integer i ∧ |i| ≤ 9007199254740991 := by
  obtain ⟨t, hthreshold, ht₀, ht⟩ := isWithin_maxSafeInteger_iff.mp (isWithin_of_check hc)
  have hjson := hcell.toJson_eq ht
  refine ⟨t, toString i, hthreshold, ht₀, ht, JsonNumber.integer_text i, hthreshold ▸ hjson, ?_⟩
  intro n hn
  rw [hthreshold, hjson] at hn
  split at hn
  · rename_i hi
    cases hn
    exact ⟨rfl, by exact_mod_cast hi.trans ht⟩
  · cases hn

/-- The largest double with a fraction, half a unit from the integers beside it. -/
def fractionalThreshold : Binary64 := Decimal.toBinary64 ⟨false, 45035996273704955, -1⟩

/-- The default settings with another threshold. -/
def thresholdConfig (x : Binary64) : Config :=
  { Config.default with query := { ReadConfig.default with numericStringThreshold := x } }

theorem thresholdConfig_threshold (x : Binary64) :
    (thresholdConfig x).query.numericStringThreshold = x := rfl

theorem fractionalThreshold_value {t : Finite64} (h : fractionalThreshold = .finite t) :
    t.value = 9007199254740991 / 2 := by
  have heq : fractionalThreshold = .finite ⟨false, 9007199254740991, 1073, by decide⟩ := by
    decide +kernel
  obtain rfl := Binary64.finite.inj (heq.symm.trans h)
  have hquanta : ∀ x : Finite64, x = ⟨false, 9007199254740991, 1073, by decide⟩ →
      2 * x.quanta = 9007199254740991 * (quantaPerUnit : ℤ) := by
    rintro _ rfl
    decide +kernel
  have hpos := cast_quantaPerUnit_pos
  rw [Finite64.value, div_eq_div_iff hpos.ne' two_ne_zero, mul_comm _ (2 : ℚ)]
  exact_mod_cast hquanta _ rfl

/-- The integers around the threshold, and the least integer of 128 bits. -/
theorem toJson_whole_fractional :
    ((thresholdConfig fractionalThreshold).check = .ok () ∧
        (Cell.int 4503599627370495).IsWhole 4503599627370495 ∧
        (Cell.int (-4503599627370496)).IsWhole (-4503599627370496) ∧
        (Cell.bigInt (-2 ^ 127)).IsWhole (-2 ^ 127)) ∧
      (Cell.int 4503599627370495).toJson fractionalThreshold = .int 4503599627370495 ∧
      (Cell.int (-4503599627370496)).toJson fractionalThreshold = .string "-4503599627370496" ∧
      (Cell.bigInt (-2 ^ 127)).toJson fractionalThreshold =
        .string "-170141183460469231731687303715884105728" := by
  have hcheck : (thresholdConfig fractionalThreshold).check = .ok () := by decide +kernel
  obtain ⟨t₁, _, h₁, -, -, -, hin, -⟩ :=
    toJson_whole hcheck (.inl rfl : (Cell.int 4503599627370495).IsWhole _)
  obtain ⟨t₂, text, h₂, -, -, htext, hout, -⟩ :=
    toJson_whole hcheck (.inl rfl : (Cell.int (-4503599627370496)).IsWhole _)
  obtain ⟨t₃, wide, h₃, -, -, hwide, hleast, -⟩ :=
    toJson_whole hcheck (.inr rfl : (Cell.bigInt (-2 ^ 127)).IsWhole _)
  rw [thresholdConfig_threshold] at h₁ h₂ h₃ hin hout hleast
  rw [fractionalThreshold_value h₁, if_pos (by norm_num)] at hin
  rw [fractionalThreshold_value h₂, if_neg (by norm_num)] at hout
  rw [fractionalThreshold_value h₃, if_neg (by norm_num)] at hleast
  have htext' : text = "-4503599627370496" := String.ext (htext.trans (by decide +kernel))
  have hwide' : wide = "-170141183460469231731687303715884105728" :=
    String.ext (hwide.trans (by decide +kernel))
  exact ⟨⟨hcheck, .inl rfl, .inl rfl, .inr rfl⟩, hin, htext' ▸ hout, hwide' ▸ hleast⟩

end Cell

end TableQuery
