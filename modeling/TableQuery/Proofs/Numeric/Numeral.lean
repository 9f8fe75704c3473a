import TableQuery.Proofs.Numeric.Closest
import TableQuery.Proofs.Numeric.Text
import TableQuery.Text.Blank

/-!
# Decimal texts read as doubles

A plain decimal text is read as the double that the number it writes is rounded to.

* `PlainDecimal`: decimal texts without an exponent.
* `PlainDecimal.readBinary64?_chars`: how such a text is read.
* `Decimal.toBinary64_cases`: a number is rounded to a double, or it lies beyond all of them.
-/

namespace TableQuery

/-! ## Digits -/

theorem digitsValue_eq (cs : List Char) : digitsValue cs = Nat.ofDigitChars 10 cs 0 := by
  unfold digitsValue Nat.ofDigitChars digitValue
  simp only [Nat.mul_comm]

namespace AreDigits

variable {cs : List Char}

theorem readDigits? (h : AreDigits cs) (hne : cs ≠ []) :
    readDigits? cs = some (Nat.ofDigitChars 10 cs 0) := by
  unfold TableQuery.readDigits?
  rw [if_pos, digitsValue_eq]
  have hall : cs.all Char.isDigit = true := List.all_eq_true.mpr h
  simp [hne, hall]

theorem takeWhile_append (h : AreDigits cs) (rest : List Char)
    (hrest : rest.head?.all fun c => !c.isDigit) :
    (cs ++ rest).takeWhile Char.isDigit = cs := by
  rw [List.takeWhile_append_of_pos h]
  cases rest with
  | nil => simp
  | cons c rest => simp_all

theorem dropWhile_append (h : AreDigits cs) (rest : List Char)
    (hrest : rest.head?.all fun c => !c.isDigit) :
    (cs ++ rest).dropWhile Char.isDigit = rest := by
  rw [List.dropWhile_append_of_pos h]
  cases rest with
  | nil => simp
  | cons c rest => simp_all

end AreDigits

theorem toLower_of_isDigit {c : Char} (h : c.isDigit = true) : c.toLower = c := by
  unfold Char.isDigit at h
  simp only [Bool.and_eq_true, decide_eq_true_eq] at h
  unfold Char.toLower
  rw [dif_neg]
  rintro ⟨hupper, -⟩
  exact absurd (UInt32.le_trans hupper h.2) (by decide)

instance (cs : List Char) : Decidable (AreDigits cs) :=
  decidable_of_iff (cs.all Char.isDigit = true) List.all_eq_true

/-- Text without blanks stays as it is when blanks are taken off its ends. -/
theorem trimChars_eq_self {cs : List Char} (h : ∀ c ∈ cs, isBlank c = false) :
    trimChars cs = cs := by
  have hdrop {ds : List Char} (hd : ∀ c ∈ ds, isBlank c = false) : ds.dropWhile isBlank = ds := by
    cases ds with
    | nil => rfl
    | cons c rest => simp [hd c List.mem_cons_self]
  unfold trimChars
  rw [hdrop h, hdrop fun c hc => h c (List.mem_reverse.mp hc), List.reverse_reverse]

/-! ## Plain decimals -/

/-- A decimal text without an exponent: perhaps a minus sign, digits, and perhaps a point with
digits after it. -/
structure PlainDecimal where
  negative : Bool
  whole : List Char
  fraction : List Char
  areDigits_whole : AreDigits whole
  areDigits_fraction : AreDigits fraction
  whole_ne_nil : whole ≠ []

namespace PlainDecimal

variable (x : PlainDecimal)

/-- The text without its sign. -/
def unsigned : List Char := x.whole ++ if x.fraction.isEmpty then [] else '.' :: x.fraction

/-- The text. -/
def chars : List Char := (if x.negative then ['-'] else []) ++ x.unsigned

/-- The number that all the digits write. -/
def coefficient : ℕ := Nat.ofDigitChars 10 (x.whole ++ x.fraction) 0

/-- The number that the text writes. -/
def value : ℚ := (if x.negative then -1 else 1) * (x.coefficient / 10 ^ x.fraction.length)

theorem exists_unsigned_eq : ∃ c rest, x.unsigned = c :: rest ∧ c.isDigit = true := by
  unfold unsigned
  cases hwhole : x.whole with
  | nil => exact absurd hwhole x.whole_ne_nil
  | cons c cs => exact ⟨c, _, rfl, x.areDigits_whole c (by simp [hwhole])⟩

theorem splitSign_chars : splitSign x.chars = (x.negative, x.unsigned) := by
  unfold chars
  cases hx : x.negative
  · obtain ⟨c, rest, hcs, hc⟩ := x.exists_unsigned_eq
    rw [hcs]
    show splitSign (c :: rest) = _
    unfold splitSign
    split
    · simp_all
    · simp_all
    · rfl
  · rfl

theorem readMagnitude?_unsigned : readMagnitude? x.negative x.unsigned =
    some ⟨x.negative, x.coefficient, -(x.fraction.length : ℤ)⟩ := by
  have hwhole : x.whole.isEmpty = false := by simp [x.whole_ne_nil]
  unfold readMagnitude? unsigned coefficient
  cases hf : x.fraction with
  | nil =>
    have htake := x.areDigits_whole.takeWhile_append [] rfl
    have hdrop := x.areDigits_whole.dropWhile_append [] rfl
    simp only [List.isEmpty_nil, if_true, htake, hdrop, hwhole, Bool.false_and, Bool.false_eq_true,
      if_false, readExponent?, digitsValue_eq]
    simp
  | cons c cs =>
    have hdigits : AreDigits (c :: cs) := hf ▸ x.areDigits_fraction
    have htake := x.areDigits_whole.takeWhile_append ('.' :: c :: cs) rfl
    have hdrop := x.areDigits_whole.dropWhile_append ('.' :: c :: cs) rfl
    have hfraction := hdigits.takeWhile_append [] rfl
    have htail := hdigits.dropWhile_append [] rfl
    rw [List.append_nil] at hfraction htail
    simp only [List.isEmpty_cons, Bool.false_eq_true, if_false, htake, hdrop, hfraction, htail,
      hwhole, Bool.false_and, readExponent?, digitsValue_eq]
    simp

/-- A plain decimal text is read as the double of its digits. -/
theorem readBinary64?_chars : readBinary64? x.chars =
    some (Decimal.toBinary64 ⟨x.negative, x.coefficient, -(x.fraction.length : ℤ)⟩) := by
  have hname {c : Char} {rest : List Char} (hc : c.isDigit = false) :
      x.unsigned.map Char.toLower ≠ c :: rest := by
    obtain ⟨d, ds, hds, hd⟩ := x.exists_unsigned_eq
    rw [hds, List.map_cons, toLower_of_isDigit hd]
    rintro ⟨⟩
    rw [hd] at hc
    cases hc
  unfold readBinary64?
  rw [splitSign_chars]
  simp only
  rw [if_neg (by rintro (h | h) <;> exact hname rfl h), if_neg (hname rfl),
    readMagnitude?_unsigned]
  rfl

end PlainDecimal

/-! ## Doubles of decimals -/

/-- Quanta are counted in a power of two, whose exponent is kept as a letter. -/
theorem exists_quantaPerUnit_eq : ∃ m, m = 1074 ∧ quantaPerUnit = 2 ^ m :=
  ⟨1074, rfl, quantaPerUnit_eq⟩

namespace Decimal

/-- The number. -/
def value (x : Decimal) : ℚ := (if x.negative then -1 else 1) * (x.coefficient * 10 ^ x.exponent)

theorem abs_value (x : Decimal) : |x.value| = x.coefficient * 10 ^ x.exponent := by
  have hpos : (0 : ℚ) ≤ x.coefficient * 10 ^ x.exponent := by positivity
  unfold value
  split
  · rw [neg_one_mul, abs_neg, abs_of_nonneg hpos]
  · rw [one_mul, abs_of_nonneg hpos]

theorem negative_of_neg {x : Decimal} (h : x.value < 0) : x.negative = true := by
  have hpos : (0 : ℚ) ≤ x.coefficient * 10 ^ x.exponent := by positivity
  by_contra hsign
  rw [value, if_neg hsign, one_mul] at h
  linarith

theorem negative_of_pos {x : Decimal} (h : 0 < x.value) : x.negative = false := by
  have hpos : (0 : ℚ) ≤ x.coefficient * 10 ^ x.exponent := by positivity
  by_contra hsign
  rw [Bool.not_eq_false] at hsign
  rw [value, if_pos hsign] at h
  linarith

/-- What is at most half a quantum is rounded to zero. -/
theorem isRounded_zero {x : Decimal} (h : |x.value| ≤ Finite64.quantum / 2) :
    (⟨x.negative, 0, 0, Finite64.zero.canonical⟩ : Finite64).IsRounded x.value := by
  have hq := cast_quantaPerUnit_pos
  have hhalf : Finite64.quantum / 2 = ((2 : ℕ) : ℚ) / (4 * quantaPerUnit : ℕ) := by
    unfold Finite64.quantum
    push_cast
    field_simp
    norm_num
  refine ⟨⟨?_, ?_⟩, negative_of_neg, negative_of_pos⟩
  · show ((0 : ℕ) : ℚ) / _ ≤ _
    rw [Nat.cast_zero, zero_div]
    exact abs_nonneg _
  · exact h.trans hhalf.le

/-- A number of so many places is at most half a quantum. -/
theorem div_ten_pow_le {n k : ℕ} (h : n.log2 + 400 < k) :
    (n : ℚ) / 10 ^ k ≤ Finite64.quantum / 2 := by
  have hq := cast_quantaPerUnit_pos
  obtain ⟨m, hm, hquanta⟩ := exists_quantaPerUnit_eq
  have hnat : n * (2 * quantaPerUnit) ≤ 10 ^ k := by
    calc n * (2 * quantaPerUnit) ≤ 2 ^ (n.log2 + 1) * (2 * quantaPerUnit) :=
          Nat.mul_le_mul_right _ Nat.lt_log2_self.le
      _ = 2 ^ (n.log2 + 1 + (m + 1)) := by rw [hquanta, ← Nat.pow_succ', ← Nat.pow_add]
      _ ≤ 2 ^ (3 * k) := Nat.pow_le_pow_right (by norm_num) (by omega)
      _ = (2 ^ 3) ^ k := Nat.pow_mul ..
      _ ≤ 10 ^ k := Nat.pow_le_pow_left (by norm_num) k
  have hcast : (n : ℚ) * (quantaPerUnit * 2) ≤ 10 ^ k := by
    rw [Nat.mul_comm 2] at hnat
    exact_mod_cast hnat
  unfold Finite64.quantum
  generalize (quantaPerUnit : ℚ) = q at hq hcast ⊢
  rwa [div_div, div_le_div_iff₀ (pow_pos (by norm_num) k) (mul_pos hq two_pos), one_mul]

/-- The double of a quotient of quanta. -/
theorem ofRatio_cases {x : Decimal} {n d : ℕ} (hd : 0 < d)
    (hv : |x.value| = (n : ℚ) / (d * quantaPerUnit : ℕ)) :
    Binary64.ofRatio x.negative n d = .infinite x.negative ∧ (2 : ℚ) ^ 1023 ≤ |x.value| ∨
      ∃ y, Binary64.ofRatio x.negative n d = .finite y ∧ y.negative = x.negative ∧
        y.IsRounded x.value := by
  rcases Binary64.ofRatio_cases x.negative n d with ⟨hinfinite, hlog⟩ | ⟨y, hfinite, hsign, -⟩
  · refine .inl ⟨hinfinite, ?_⟩
    have hne : n / d ≠ 0 := by
      intro hzero
      rw [hzero, Nat.log2_zero] at hlog
      omega
    have hlarge : 2 ^ (n / d).log2 * d ≤ n :=
      (Nat.le_div_iff_mul_le hd).mp (Nat.log2_self_le hne)
    obtain ⟨m, hm, hquanta⟩ := exists_quantaPerUnit_eq
    have hproduct {j : ℕ} (hj : j + m ≤ (n / d).log2) :
        (2 : ℚ) ^ j * (d * quantaPerUnit : ℕ) ≤ n := by
      have hnat : 2 ^ j * (d * quantaPerUnit) ≤ n := by
        calc 2 ^ j * (d * quantaPerUnit) = 2 ^ (j + m) * d := by
              rw [hquanta, Nat.pow_add, Nat.mul_comm d, Nat.mul_assoc]
          _ ≤ 2 ^ (n / d).log2 * d := Nat.mul_le_mul_right d (Nat.pow_le_pow_right two_pos hj)
          _ ≤ n := hlarge
      exact_mod_cast hnat
    have hpos : (0 : ℚ) < (d * quantaPerUnit : ℕ) := by
      exact_mod_cast Nat.mul_pos hd quantaPerUnit_pos
    rw [hv, le_div_iff₀ hpos]
    exact hproduct (by omega)
  · have hholds := Binary64.holds_of_ofRatio hd hfinite
    rw [← hv] at hholds
    exact .inr ⟨y, hfinite, hsign, hholds, fun h => hsign.trans (negative_of_neg h),
      fun h => hsign.trans (negative_of_pos h)⟩

/-- A decimal number with so many zeros lies beyond the doubles. -/
theorem two_pow_le_abs_value {x : Decimal} (hne : x.coefficient ≠ 0) (hlarge : 341 ≤ x.exponent) :
    (2 : ℚ) ^ 1023 ≤ |x.value| := by
  have hcoefficient : (1 : ℚ) ≤ x.coefficient := by
    exact_mod_cast Nat.one_le_iff_ne_zero.mpr hne
  have hpower : (2 : ℚ) ^ 1023 ≤ 10 ^ x.exponent := by
    calc (2 : ℚ) ^ 1023 = (2 ^ 3) ^ 341 := by rw [← pow_mul]
      _ ≤ 10 ^ 341 := pow_le_pow_left₀ (by norm_num) (by norm_num) 341
      _ = 10 ^ (341 : ℤ) := (zpow_natCast 10 341).symm
      _ ≤ 10 ^ x.exponent := zpow_le_zpow_right₀ (by norm_num) hlarge
  rw [abs_value]
  exact hpower.trans (le_mul_of_one_le_left (by positivity) hcoefficient)

/-- A decimal number beyond the doubles is infinite, and any other is rounded. -/
theorem toBinary64_cases (x : Decimal) :
    x.toBinary64 = .infinite x.negative ∧ (2 : ℚ) ^ 1023 ≤ |x.value| ∨
      ∃ y, x.toBinary64 = .finite y ∧ y.negative = x.negative ∧ y.IsRounded x.value := by
  have hq := cast_quantaPerUnit_pos.ne'
  have habs := x.abs_value
  unfold toBinary64
  split
  · rename_i hzero
    refine .inr ⟨_, rfl, rfl, isRounded_zero ?_⟩
    rw [habs, hzero, Nat.cast_zero, zero_mul]
    exact (half_pos Finite64.quantum_pos).le
  · rename_i hne
    split
    · exact .inl ⟨rfl, two_pow_le_abs_value hne (by omega)⟩
    · split
      · -- So many places that the number is below every double.
        rename_i hsmall
        refine .inr ⟨_, rfl, rfl, isRounded_zero ?_⟩
        obtain ⟨k, hk⟩ : ∃ k : ℕ, x.exponent = -(k : ℤ) := ⟨x.exponent.natAbs, by omega⟩
        rw [habs, hk, zpow_neg, zpow_natCast, ← div_eq_mul_inv]
        exact div_ten_pow_le (by omega)
      · split
        · rename_i hwhole
          refine ofRatio_cases Nat.one_pos ?_
          rw [habs, ← Int.toNat_of_nonneg hwhole, zpow_natCast, Nat.one_mul]
          push_cast
          rw [Int.toNat_natCast, mul_div_assoc, div_self hq, mul_one]
        · rename_i hfraction
          have hexponent : x.exponent = -((-x.exponent).toNat : ℤ) := by omega
          refine ofRatio_cases (by positivity) ?_
          rw [habs, hexponent, zpow_neg, zpow_natCast, neg_neg, Int.toNat_natCast]
          push_cast
          field_simp

end Decimal

/-! ## Numbers of places -/

theorem abs_div_ten_pow (n : ℤ) (k : ℕ) : |(n / 10 ^ k : ℚ)| = n.natAbs / 10 ^ k := by
  have hpower : (0 : ℚ) < 10 ^ k := by positivity
  rw [abs_div, abs_of_pos hpower, Nat.cast_natAbs, Int.cast_abs]

/-- An integer has all places. -/
theorem abs_eq_div_ten_pow (n : ℤ) (k : ℕ) : |(n : ℚ)| = (n.natAbs * 10 ^ k : ℕ) / 10 ^ k := by
  rw [Nat.cast_mul, Nat.cast_pow, Nat.cast_ofNat, mul_div_cancel_right₀ _ (by positivity),
    Nat.cast_natAbs, Int.cast_abs]

theorem whole_div_ten_pow (m : ℤ) (k : ℕ) : ((10 ^ k * m : ℤ) / 10 ^ k : ℚ) = m := by
  rw [Int.cast_mul, Int.cast_pow, Int.cast_ofNat, mul_div_cancel_left₀ _ (by positivity)]

namespace PlainDecimal

variable (s : PlainDecimal)

/-- The text. -/
def text : String := String.ofList s.chars

/-- The number as a decimal record. -/
def decimal : Decimal := ⟨s.negative, s.coefficient, -(s.fraction.length : ℤ)⟩

theorem decimal_value : s.decimal.value = s.value := by
  unfold Decimal.value value decimal
  rw [zpow_neg, zpow_natCast, div_eq_mul_inv]

theorem abs_value : |s.value| = s.coefficient / 10 ^ s.fraction.length := by
  rw [← decimal_value, Decimal.abs_value, decimal, zpow_neg, zpow_natCast, div_eq_mul_inv]

theorem text_eq : s.text = (if s.negative then "-" else "") ++
    String.ofList s.whole ++
      (if s.fraction.isEmpty then "" else "." ++ String.ofList s.fraction) := by
  refine String.ext ?_
  unfold text chars unsigned
  cases s.negative <;> cases s.fraction <;> simp

/-- Digits with zeros before them, so that at least one more than the places are there. -/
def padded (scale n : ℕ) : List Char :=
  List.replicate (scale + 1 - (Nat.toDigits 10 n).length) '0' ++ Nat.toDigits 10 n

theorem areDigits_padded (scale n : ℕ) : AreDigits (padded scale n) :=
  (AreDigits.zeros _).append (AreDigits.toDigits n)

theorem lt_length_padded (scale n : ℕ) : scale < (padded scale n).length := by
  unfold padded
  rw [List.length_append, List.length_replicate]
  omega

theorem ofDigitChars_padded (scale n : ℕ) : Nat.ofDigitChars 10 (padded scale n) 0 = n := by
  unfold padded
  rw [Nat.ofDigitChars_append, Nat.ofDigitChars_replicate_zero, Nat.mul_zero,
    Nat.ofDigitChars_ten_toDigits]

/-- A decimal number of so many places. -/
def ofScaled (scale : ℕ) (value : ℤ) : PlainDecimal where
  negative := decide (value < 0)
  whole := (padded scale value.natAbs).take ((padded scale value.natAbs).length - scale)
  fraction := (padded scale value.natAbs).drop ((padded scale value.natAbs).length - scale)
  areDigits_whole := fun c hc => areDigits_padded scale _ c (List.mem_of_mem_take hc)
  areDigits_fraction := fun c hc => areDigits_padded scale _ c (List.mem_of_mem_drop hc)
  whole_ne_nil := by
    have hlength := lt_length_padded scale value.natAbs
    rw [Ne, List.take_eq_nil_iff, not_or]
    exact ⟨by omega, List.ne_nil_of_length_pos (by omega)⟩

variable (scale : ℕ) (value : ℤ)

theorem coefficient_ofScaled : (ofScaled scale value).coefficient = value.natAbs := by
  unfold coefficient ofScaled
  rw [List.take_append_drop, ofDigitChars_padded]

theorem length_fraction_ofScaled : (ofScaled scale value).fraction.length = scale := by
  have hlength := lt_length_padded scale value.natAbs
  unfold ofScaled
  rw [List.length_drop]
  omega

theorem value_ofScaled : (ofScaled scale value).value = value / 10 ^ scale := by
  have hsign :
      (if (ofScaled scale value).negative then -1 else 1) * (value.natAbs : ℚ) = value := by
    have hnegative : (ofScaled scale value).negative = decide (value < 0) := rfl
    rw [hnegative, Nat.cast_natAbs, Int.cast_abs]
    by_cases h : value < 0
    · have hcast : (value : ℚ) < 0 := by exact_mod_cast h
      rw [decide_eq_true h, if_pos rfl, abs_of_neg hcast, neg_one_mul, neg_neg]
    · have hcast : (0 : ℚ) ≤ value := by exact_mod_cast not_lt.mp h
      rw [decide_eq_false h, if_neg Bool.false_ne_true, abs_of_nonneg hcast, one_mul]
  unfold PlainDecimal.value
  rw [coefficient_ofScaled, length_fraction_ofScaled, ← mul_div_assoc, hsign]

end PlainDecimal

/-! ## Few digits -/

namespace Finite64

/-- A power of two. -/
def power (k : ℕ) (hk : k ≤ 1000) : Finite64 :=
  ⟨false, 2 ^ 52, 1022 + k, by norm_num, by omega, .inr le_rfl⟩

theorem value_power {k : ℕ} (hk : k ≤ 1000) : (power k hk).value = 2 ^ k := by
  have hquanta : (power k hk).quanta = ((2 ^ k * quantaPerUnit : ℕ) : ℤ) := by
    obtain ⟨m, hm, hunit⟩ := exists_quantaPerUnit_eq
    have hmagnitude : (power k hk).quanta = ((2 ^ 52 * 2 ^ (1022 + k) : ℕ) : ℤ) := rfl
    have hsum : 52 + (1022 + k) = k + m := by omega
    rw [hmagnitude, hunit, ← Nat.pow_add, ← Nat.pow_add, hsum]
  rw [value_eq_natCast_iff.mpr hquanta, Nat.cast_pow, Nat.cast_two]

/-- A quantum is far below the places that are looked at. -/
theorem quantum_mul_le {k : ℕ} (hk : k ≤ 250) : quantum * (400 * 10 ^ k) ≤ 1 := by
  obtain ⟨j, hj, hquanta⟩ := exists_quantaPerUnit_eq
  have hnat : 400 * 10 ^ k ≤ quantaPerUnit := by
    rw [hquanta]
    calc 400 * 10 ^ k ≤ 2 ^ 9 * (2 ^ 4) ^ k :=
          Nat.mul_le_mul (by norm_num) (Nat.pow_le_pow_left (by norm_num) k)
      _ = 2 ^ (9 + 4 * k) := by rw [Nat.pow_add, Nat.pow_mul]
      _ ≤ 2 ^ j := Nat.pow_le_pow_right two_pos (by omega)
  have hcast : (400 * 10 ^ k : ℚ) ≤ quantaPerUnit := by exact_mod_cast hnat
  unfold quantum
  rw [one_div_mul_eq_div, div_le_one cast_quantaPerUnit_pos]
  exact hcast

/-- Rounding brings no number of few digits to another number of the same places. -/
theorem IsRounded.value_eq_of_few {x : Finite64} {v : ℚ} (h : x.IsRounded v) {c m k : ℕ}
    (hc : c < 10 ^ 15) (hk : k ≤ 250) (hv : |v| = c / 10 ^ k) (hx : |x.value| = m / 10 ^ k) :
    x.value = v := by
  have hpower : (0 : ℚ) < 10 ^ k := by positivity
  have hquantum := quantum_mul_le hk
  have herror := (abs_abs_sub_abs_le x.value v).trans h.error_le
  rw [hx, hv, ← sub_div, abs_div, abs_of_pos hpower, div_le_iff₀ hpower, add_mul,
    div_mul_eq_mul_div, div_mul_cancel₀ _ hpower.ne'] at herror
  have hdigits : (c : ℚ) / 2 ^ 52 < 1 / 4 := by
    have hcast : (c : ℚ) < 10 ^ 15 := by exact_mod_cast hc
    rw [div_lt_iff₀ (by norm_num)]
    linarith
  have hclose : |(m : ℤ) - (c : ℤ)| < 1 := by
    have hrat : |(m : ℚ) - c| < 1 := by linarith
    exact_mod_cast hrat
  have hcoefficient : m = c := by
    rw [Int.abs_lt_one_iff] at hclose
    omega
  exact h.value_eq_of_abs (by rw [hv, hx, hcoefficient])

end Finite64

end TableQuery
