import TableQuery.Proofs.Cell
import TableQuery.Proofs.Numeric.Numeral

/-!
# Decimal cells

A decimal text is read as a double before it is held against the threshold, and a number that goes
out is that double. So what the text says beyond the double is lost, and a text a little above the
threshold may be taken for the threshold itself.

* `Cell.toJson_plainDecimal_cases`: what becomes of a text.
* `Cell.toJson_decimal`: which texts keep all their digits.
-/

namespace TableQuery

/-! ## Numbers of doubles -/

/-- The exact value of a number. -/
def JsonNumber.value : JsonNumber → ℚ
  | .integer i => i
  | .float x => x.value

namespace Finite64

/-- A double as a number: an integer if it is whole. -/
def jsonNumber (x : Finite64) : JsonNumber :=
  if x.isWhole then .integer x.truncate else .float x

theorem value_eq_truncate {x : Finite64} (h : x.isWhole = true) : x.value = x.truncate := by
  have hdvd : (quantaPerUnit : ℤ) ∣ x.quanta := by
    rw [isWhole, beq_iff_eq] at h
    have hmagnitude : (quantaPerUnit : ℤ) ∣ x.magnitude :=
      Int.natCast_dvd_natCast.mpr (Nat.dvd_of_mod_eq_zero h)
    unfold quanta
    split
    · exact hmagnitude.neg_right
    · exact hmagnitude
  exact value_eq_intCast_iff.mpr (Int.tdiv_mul_cancel hdvd).symm

@[simp] theorem jsonNumber_value (x : Finite64) : x.jsonNumber.value = x.value := by
  unfold jsonNumber
  split
  · rename_i h
    exact (value_eq_truncate h).symm
  · rfl

/-- A double goes out as an integer if that is its value, and only then. -/
theorem jsonNumber_eq_integer_iff {x : Finite64} {n : ℤ} :
    x.jsonNumber = .integer n ↔ x.value = n := by
  constructor
  · intro h
    rw [← jsonNumber_value, h]
    rfl
  · intro h
    have hquanta := value_eq_intCast_iff.mp h
    have hwhole : x.isWhole = true := by
      have hmagnitude : x.magnitude = n.natAbs * quantaPerUnit := by
        rw [← Int.natAbs_natCast quantaPerUnit, ← Int.natAbs_mul, ← hquanta]
        unfold quanta
        split
        · rw [Int.natAbs_neg, Int.natAbs_natCast]
        · rw [Int.natAbs_natCast]
      rw [isWhole, beq_iff_eq, hmagnitude, Nat.mul_mod_left]
    rw [jsonNumber, if_pos hwhole]
    rw [value_eq_truncate hwhole, Int.cast_inj] at h
    rw [h]

/-- Whole numbers up to a bound are doubles. -/
theorem value_of_ofNat {n : ℕ} {x : Finite64} (h : Binary64.ofNat n = .finite x)
    (hn : n < 2 ^ 53) : x.value = n := by
  rcases Binary64.ofNat_cases n with ⟨-, hlarge⟩ | ⟨y, hy, hsign, hsmall, -⟩
  · omega
  · obtain rfl := Binary64.finite.inj (h.symm.trans hy)
    rw [value_eq_natCast_iff]
    unfold quanta
    rw [hsign, hsmall hn]
    rfl

/-- Within a threshold every whole double lies below the bound of whole doubles. -/
theorem isPlainWhole_eq {x : Finite64} (hx : |x.value| ≤ 9007199254740991) :
    isPlainWhole x = x.isWhole := by
  have hlt : (Binary64.finite x.abs).lt wholeLimit = true := by
    have hbound : x.abs.value ≤ 9007199254740991 := (value_abs x).trans_le hx
    have hiff := threshold_lt_iff hbound (10 ^ 18 : ℕ)
    rw [Int.natAbs_natCast] at hiff
    rw [wholeLimit, hiff]
    exact hbound.trans_lt (by norm_num)
  rw [isPlainWhole, hlt, Bool.and_true]

end Finite64

/-- A double within the threshold goes out as a number. -/
theorem floatJson_of_le {x t : Finite64} (h : |x.value| ≤ t.value)
    (ht : t.value ≤ 9007199254740991) :
    floatJson (.finite x) (.finite t) = .number x.jsonNumber := by
  have hlt : ¬(Binary64.finite t).lt (.finite x.abs) = true := by
    rw [Finite64.lt_iff, Finite64.value_abs]
    exact not_lt.mpr h
  simp only [floatJson, Finite64.jsonNumber, hlt, Finite64.isPlainWhole_eq (h.trans ht)]
  cases x.isWhole <;> rfl

/-! ## Texts -/

namespace PlainDecimal

variable (s : PlainDecimal)

theorem toJson_text (threshold : Binary64) : (Cell.decimal s.text).toJson threshold =
    if s.decimal.toBinary64.abs.le threshold then floatJson s.decimal.toBinary64 threshold
    else .string s.text := by
  have hread : readBinary64? s.text.toList = some s.decimal.toBinary64 := by
    rw [text, String.toList_ofList]
    exact s.readBinary64?_chars
  simp only [Cell.toJson, hread]

end PlainDecimal

namespace Cell

variable {t : Finite64}

/-- A decimal text goes out as the number of the double that it is rounded to, or as it is. Only
texts of numbers beyond the threshold go out as they are. -/
theorem toJson_plainDecimal_cases (s : PlainDecimal) (ht₀ : 0 ≤ t.value)
    (ht : t.value ≤ 9007199254740991) :
    (∃ x : Finite64, x.IsRounded s.value ∧ |x.value| ≤ t.value ∧
        (decimal s.text).toJson (.finite t) = .number x.jsonNumber) ∨
      t.value < |s.value| ∧ (∀ x : Finite64, x.IsRounded s.value → t.value < |x.value|) ∧
        (decimal s.text).toJson (.finite t) = .string s.text := by
  rw [s.toJson_text]
  rcases s.decimal.toBinary64_cases with ⟨hinfinite, hlarge⟩ | ⟨x, hx, -, hrounded⟩
  · have hbound : t.value < 2 ^ 53 := ht.trans_lt (by norm_num)
    have hbeyond : |(Finite64.power 53 (by norm_num)).value| ≤ |s.value| := by
      have hpower : (2 : ℚ) ^ 53 ≤ 2 ^ 1023 := pow_le_pow_right₀ one_le_two (by norm_num)
      rw [Finite64.value_power, abs_of_pos (by norm_num), ← s.decimal_value]
      exact hpower.trans hlarge
    have hless {x : ℚ} (hx : |(Finite64.power 53 (by norm_num)).value| ≤ |x|) : t.value < |x| := by
      rw [Finite64.value_power, abs_of_pos (by norm_num)] at hx
      exact hbound.trans_le hx
    rw [hinfinite, if_neg (by simp [Binary64.abs, Binary64.le])]
    exact .inr ⟨hless hbeyond, fun x hx => hless (hx.le_abs_value hbeyond), rfl⟩
  · rw [s.decimal_value] at hrounded
    have hiff : (Binary64.finite x).abs.le (.finite t) = true ↔ |x.value| ≤ t.value := by
      rw [Binary64.abs, Finite64.le_iff, Finite64.value_abs]
    rw [hx]
    by_cases hle : |x.value| ≤ t.value
    · rw [if_pos (hiff.mpr hle)]
      exact .inl ⟨x, hrounded, hle, floatJson_of_le hle ht⟩
    · rw [if_neg (mt hiff.mp hle)]
      refine .inr ⟨not_le.mp fun hs => hle ?_, fun y hy => ?_, rfl⟩
      · rw [← abs_of_nonneg ht₀] at hs ⊢
        exact hrounded.abs_value_le hs
      · rw [hy.abs_value_eq hrounded]
        exact not_le.mp hle

/-- With settings that make sense, a decimal text within the threshold goes out as the number of the
double that it is rounded to. One beyond the threshold goes out as it is, unless that double is the
threshold itself. A text of few digits loses none of them: beyond a threshold of as many places it
goes out as it is, and an integer that goes out for it is its value. -/
theorem toJson_decimal {c : Config} (hc : c.check = .ok ()) (s : PlainDecimal) :
    ∃ t : Finite64, c.query.numericStringThreshold = .finite t ∧
      0 ≤ t.value ∧ t.value ≤ 9007199254740991 ∧
      (|s.value| ≤ t.value → ∃ x : Finite64, x.IsRounded s.value ∧
        (decimal s.text).toJson c.query.numericStringThreshold = .number x.jsonNumber) ∧
      (t.value < |s.value| →
        (decimal s.text).toJson c.query.numericStringThreshold = .string s.text ∨
          ∃ x : Finite64, x.IsRounded s.value ∧ |x.value| = t.value ∧
            (decimal s.text).toJson c.query.numericStringThreshold = .number x.jsonNumber) ∧
      (∀ n, (decimal s.text).toJson c.query.numericStringThreshold = .int n →
        ∃ x : Finite64, x.IsRounded s.value ∧ x.value = n) ∧
      (s.coefficient < 10 ^ 15 → s.fraction.length ≤ 250 →
        ((∃ m : ℕ, t.value = m / 10 ^ s.fraction.length) → t.value < |s.value| →
          (decimal s.text).toJson c.query.numericStringThreshold = .string s.text) ∧
        ∀ n, (decimal s.text).toJson c.query.numericStringThreshold = .int n → s.value = n) := by
  obtain ⟨t, hthreshold, ht₀, ht⟩ := isWithin_maxSafeInteger_iff.mp (isWithin_of_check hc)
  have hcases := toJson_plainDecimal_cases s ht₀ ht
  have hle : |s.value| ≤ t.value → ∃ x : Finite64, x.IsRounded s.value ∧
      (decimal s.text).toJson (.finite t) = .number x.jsonNumber := by
    intro hs
    rcases hcases with ⟨x, hx, -, hjson⟩ | ⟨hlt, -, -⟩
    · exact ⟨x, hx, hjson⟩
    · exact absurd hs (not_le.mpr hlt)
  have hlt : t.value < |s.value| → (decimal s.text).toJson (.finite t) = .string s.text ∨
      ∃ x : Finite64, x.IsRounded s.value ∧ |x.value| = t.value ∧
        (decimal s.text).toJson (.finite t) = .number x.jsonNumber := by
    intro hs
    rcases hcases with ⟨x, hx, hxt, hjson⟩ | ⟨-, -, hjson⟩
    · refine .inr ⟨x, hx, le_antisymm hxt ?_, hjson⟩
      rw [← abs_of_nonneg ht₀] at hs ⊢
      exact hx.le_abs_value hs.le
    · exact .inl hjson
  have hint : ∀ n, (decimal s.text).toJson (.finite t) = .int n →
      ∃ x : Finite64, x.IsRounded s.value ∧ x.value = n := by
    intro n hn
    rcases hcases with ⟨x, hx, -, hjson⟩ | ⟨-, -, hjson⟩
    · refine ⟨x, hx, ?_⟩
      rw [hjson, Json.int, Json.number.injEq] at hn
      exact Finite64.jsonNumber_eq_integer_iff.mp hn
    · rw [hjson] at hn
      cases hn
  refine ⟨t, hthreshold, ht₀, ht, ?_⟩
  rw [hthreshold]
  refine ⟨hle, hlt, hint, fun hfew hplaces => ⟨?_, ?_⟩⟩
  · rintro ⟨m, hm⟩ hs
    refine (hlt hs).resolve_right ?_
    rintro ⟨x, hx, hxt, -⟩
    have hexact := hx.value_eq_of_few hfew hplaces s.abs_value (hxt.trans hm)
    exact hs.ne (hexact ▸ hxt.symm)
  · intro n hn
    obtain ⟨x, hx, hxn⟩ := hint n hn
    have hgrid := hxn ▸ abs_eq_div_ten_pow n s.fraction.length
    exact (hx.value_eq_of_few hfew hplaces s.abs_value hgrid).symm.trans hxn

/-! ## Beside the threshold -/

/-- A text of the least amount of money beyond the default threshold. -/
def centBeyond : PlainDecimal where
  negative := true
  whole := "100000".toList
  fraction := "01".toList
  areDigits_whole := by decide +kernel
  areDigits_fraction := by decide +kernel
  whole_ne_nil := by decide +kernel

/-- The default threshold with places of its own. -/
def wholeAt : PlainDecimal where
  negative := false
  whole := "100000".toList
  fraction := "00".toList
  areDigits_whole := by decide +kernel
  areDigits_fraction := by decide +kernel
  whole_ne_nil := by decide +kernel

/-- A number beyond the default threshold by less than a double can tell. -/
def traceBeyond : PlainDecimal where
  negative := false
  whole := "100000".toList
  fraction := "00000000000000000001".toList
  areDigits_whole := by decide +kernel
  areDigits_fraction := by decide +kernel
  whole_ne_nil := by decide +kernel

theorem defaultThreshold_value {t : Finite64}
    (h : Config.default.query.numericStringThreshold = .finite t) : t.value = 100000 := by
  rw [show Config.default.query.numericStringThreshold = .ofNat 100000 by decide +kernel] at h
  rw [Finite64.value_of_ofNat h (by norm_num), Nat.cast_ofNat]

/-- A cent beyond the threshold the text stays as it is, and at the threshold it is a number. -/
theorem toJson_decimal_money :
    (Config.default.check = .ok () ∧ centBeyond.coefficient < 10 ^ 15 ∧
        centBeyond.fraction.length ≤ 250) ∧
      (decimal "-100000.01").toJson Config.default.query.numericStringThreshold =
        .string "-100000.01" ∧
      (decimal "100000.00").toJson Config.default.query.numericStringThreshold = .int 100000 := by
  have hcheck : Config.default.check = .ok () := by decide +kernel
  have hfew : centBeyond.coefficient < 10 ^ 15 := by decide +kernel
  have hplaces : centBeyond.fraction.length ≤ 250 := by decide +kernel
  have hlength : centBeyond.fraction.length = 2 := by decide +kernel
  have hcent : |centBeyond.value| = 10000001 / 10 ^ 2 := by
    rw [PlainDecimal.abs_value, hlength,
      show centBeyond.coefficient = 10000001 by decide +kernel, Nat.cast_ofNat]
  have hwhole : wholeAt.value = 100000 := by
    rw [PlainDecimal.value, show wholeAt.coefficient = 10000000 by decide +kernel,
      show wholeAt.fraction.length = 2 by decide +kernel, show wholeAt.negative = false from rfl]
    norm_num
  obtain ⟨t₁, h₁, -, -, -, -, -, hbeyond⟩ := toJson_decimal hcheck centBeyond
  obtain ⟨t₂, h₂, -, -, hat, -, -, -⟩ := toJson_decimal hcheck wholeAt
  have ht₁ := defaultThreshold_value h₁
  have ht₂ := defaultThreshold_value h₂
  have htext := (hbeyond hfew hplaces).1 ⟨10000000, by rw [ht₁, hlength]; norm_num⟩
    (by rw [ht₁, hcent]; norm_num)
  obtain ⟨x, hx, hjson⟩ := hat (by rw [ht₂, hwhole]; norm_num)
  have hinteger : x.jsonNumber = .integer 100000 := by
    rw [Finite64.jsonNumber_eq_integer_iff, hx.value_eq_self (ht₂.trans hwhole.symm), hwhole]
    rfl
  refine ⟨⟨hcheck, hfew, hplaces⟩, htext, ?_⟩
  rw [hinteger] at hjson
  exact hjson

/-- A text beyond the threshold goes out as a number without its last digit. -/
theorem toJson_decimal_loses_digit :
    ∃ t : Finite64, Config.default.check = .ok () ∧
      Config.default.query.numericStringThreshold = .finite t ∧ t.value < |traceBeyond.value| ∧
      traceBeyond.text = "100000.00000000000000000001" ∧
      (decimal traceBeyond.text).toJson (.finite t) = .int 100000 ∧ traceBeyond.value ≠ 100000 := by
  have hcheck : Config.default.check = .ok () := by decide +kernel
  have hvalue : traceBeyond.value = 10000000000000000000000001 / 10 ^ 20 := by
    rw [PlainDecimal.value,
      show traceBeyond.coefficient = 10000000000000000000000001 by decide +kernel,
      show traceBeyond.fraction.length = 20 by decide +kernel,
      show traceBeyond.negative = false from rfl]
    norm_num
  obtain ⟨t, hthreshold, -, -⟩ := isWithin_maxSafeInteger_iff.mp (isWithin_of_check hcheck)
  have ht := defaultThreshold_value hthreshold
  have hrounded : traceBeyond.decimal.toBinary64 = .finite t :=
    Eq.trans (by decide +kernel) hthreshold
  have habs : |t.value| = t.value := abs_of_nonneg (by rw [ht]; norm_num)
  have hle : (Binary64.finite t).abs.le (.finite t) = true := by
    rw [Binary64.abs, Finite64.le_iff, Finite64.value_abs, habs]
  refine ⟨t, hcheck, hthreshold, ?_, by decide +kernel, ?_, ?_⟩
  · rw [ht, hvalue, abs_of_pos (by norm_num)]
    norm_num
  · rw [traceBeyond.toJson_text, hrounded, if_pos hle,
      floatJson_of_le habs.le (by rw [ht]; norm_num),
      Finite64.jsonNumber_eq_integer_iff.mpr (by rw [ht]; rfl)]
    rfl
  · rw [hvalue]
    norm_num

end Cell

end TableQuery
