import TableQuery.Proofs.Numeric.Nearest

/-!
# Numbers rounded to doubles

The double that a quotient is rounded to has the quotient in its interval, and no other double is
closer to it.

* `Binary64.holds_of_ofRatio`: the quotient lies in the interval.
* `Finite64.IsRounded`: a double is what a number is rounded to.
* `Finite64.IsRounded.closest`: no double is closer to the number.
* `Finite64.IsRounded.error_le`: how far rounding goes.
-/

namespace TableQuery

/-! ## Quotients in intervals -/

/-- A rounded quotient is at most half a unit away, and exactly half only if it is even. -/
theorem roundQuotient_half {n d : ℕ} (hd : 0 < d) :
    2 * (roundQuotient n d * d) ≤ 2 * n + d ∧ 2 * n ≤ 2 * (roundQuotient n d * d) + d ∧
      (roundQuotient n d % 2 = 1 →
        2 * (roundQuotient n d * d) < 2 * n + d ∧ 2 * n < 2 * (roundQuotient n d * d) + d) := by
  have hn := Nat.div_add_mod' n d
  have hr := Nat.mod_lt n hd
  unfold roundQuotient
  simp only
  generalize n / d = q at hn ⊢
  generalize n % d = r at hn hr ⊢
  have hsucc : (q + 1) * d = q * d + d := by rw [Nat.add_mul, Nat.one_mul]
  split
  · omega
  · split
    · omega
    · split <;> omega

/-- Places are lost only where there are 53 bits before them. -/
theorem two_pow_le_of_lostPlaces {n d : ℕ} (h : 0 < lostPlaces n d) :
    2 ^ 52 * 2 ^ lostPlaces n d * d ≤ n := by
  have hlog : 52 + lostPlaces n d = (n / d).log2 := by
    unfold lostPlaces at h ⊢
    omega
  have hne : n / d ≠ 0 := by
    intro hzero
    rw [hzero, Nat.log2_zero] at hlog
    omega
  rw [← Nat.pow_add, hlog]
  exact (Nat.mul_le_mul_right d (Nat.log2_self_le hne)).trans (Nat.div_mul_le_self n d)

namespace RoundingInterval

variable (x : RoundingInterval) {n d : ℕ}

theorem quotient_eq (hd : 0 < d) :
    (n : ℚ) / (d * quantaPerUnit : ℕ) = ((4 * n : ℕ) : ℚ) / d / (4 * quantaPerUnit : ℕ) := by
  have hq := cast_quantaPerUnit_pos.ne'
  have hd' : (d : ℚ) ≠ 0 := by exact_mod_cast hd.ne'
  push_cast
  field_simp

/-- The interval holds a quotient of quanta. -/
theorem holds_quotient_iff (hd : 0 < d) : x.Holds ((n : ℚ) / (d * quantaPerUnit : ℕ)) ↔
    if x.closed then
      (4 * x.magnitude - x.below) * d ≤ 4 * n ∧ 4 * n ≤ (4 * x.magnitude + x.above) * d
    else (4 * x.magnitude - x.below) * d < 4 * n ∧ 4 * n < (4 * x.magnitude + x.above) * d := by
  have hd' : (0 : ℚ) < d := by exact_mod_cast hd
  unfold Holds low high
  rw [quotient_eq hd]
  simp only [div_le_div_iff_of_pos_right quarters_pos, div_lt_div_iff_of_pos_right quarters_pos,
    le_div_iff₀ hd', div_le_iff₀ hd', lt_div_iff₀ hd', div_lt_iff₀ hd']
  norm_cast

/-- How far down the interval reaches, in units. -/
def reachBelow : ℚ := (x.below : ℚ) / (4 * quantaPerUnit : ℕ)

/-- How far up the interval reaches, in units. -/
def reachAbove : ℚ := (x.above : ℚ) / (4 * quantaPerUnit : ℕ)

theorem reachBelow_nonneg : 0 ≤ x.reachBelow := div_nonneg (Nat.cast_nonneg _) quarters_pos.le

theorem reachAbove_nonneg : 0 ≤ x.reachAbove := div_nonneg (Nat.cast_nonneg _) quarters_pos.le

/-- The magnitude in quarters of a quantum. -/
theorem center_eq_quarters : x.center = ((4 * x.magnitude : ℕ) : ℚ) / (4 * quantaPerUnit : ℕ) := by
  unfold center
  rw [Nat.cast_mul, Nat.cast_mul, mul_div_mul_left _ _ (by norm_num)]

variable {x} {v : ℚ}

theorem Holds.low_le (h : x.Holds v) : x.low ≤ v := by
  unfold Holds at h
  split at h
  · exact h.1
  · exact h.1.le

theorem Holds.le_high (h : x.Holds v) : v ≤ x.high := by
  unfold Holds at h
  split at h
  · exact h.2
  · exact h.2.le

theorem Holds.center_sub_le (h : x.Holds v) : x.center - x.reachBelow ≤ v := by
  have hnat : 4 * x.magnitude ≤ 4 * x.magnitude - x.below + x.below := le_tsub_add
  have hcast : ((4 * x.magnitude : ℕ) : ℚ) ≤ (4 * x.magnitude - x.below : ℕ) + x.below := by
    exact_mod_cast hnat
  refine le_trans ?_ h.low_le
  rw [center_eq_quarters, reachBelow, low, ← sub_div]
  exact div_le_div_of_nonneg_right (by linarith) quarters_pos.le

theorem Holds.le_center_add (h : x.Holds v) : v ≤ x.center + x.reachAbove := by
  refine h.le_high.trans_eq ?_
  rw [center_eq_quarters, reachAbove, high, ← add_div, Nat.cast_add]

end RoundingInterval

namespace Binary64

/-- The fields of the double nearest to a quotient. -/
theorem fields_of_ofRatio {s : Bool} {n d : ℕ} {x : Finite64} (h : ofRatio s n d = .finite x) :
    x.negative = s ∧
      (x.significand = roundQuotient n (d * 2 ^ lostPlaces n d) ∧ x.exponent = lostPlaces n d ∨
        roundQuotient n (d * 2 ^ lostPlaces n d) = 2 ^ 53 ∧ x.significand = 2 ^ 52 ∧
          x.exponent = lostPlaces n d + 1) := by
  rw [ofRatio_eq] at h
  unfold pack at h
  split at h
  · rename_i hcarry
    split at h
    · cases h
      exact ⟨rfl, .inr ⟨hcarry, rfl, rfl⟩⟩
    · cases h
  · split at h
    · cases h
      exact ⟨rfl, .inl ⟨rfl, rfl⟩⟩
    · cases h

/-- A quotient lies among the reals that round to the double nearest to it. -/
theorem holds_of_ofRatio {s : Bool} {n d : ℕ} (hd : 0 < d) {x : Finite64}
    (h : ofRatio s n d = .finite x) :
    x.interval.Holds ((n : ℚ) / (d * quantaPerUnit : ℕ)) := by
  have hpos : 0 < d * 2 ^ lostPlaces n d := Nat.mul_pos hd (Nat.two_pow_pos _)
  obtain ⟨hupper, hlower, hodd⟩ := roundQuotient_half (n := n) hpos
  have hfull := two_pow_le_of_lostPlaces (n := n) (d := d)
  rw [RoundingInterval.holds_quotient_iff _ hd]
  simp only [Finite64.interval, Finite64.magnitude, Nat.sub_mul, Nat.add_mul, beq_iff_eq]
  rcases (fields_of_ofRatio h).2 with ⟨hsignificand, hexponent⟩ | ⟨hcarry, hsignificand, hexponent⟩
  · -- The bounds of the rounding are the ends of the interval, multiplied out. The interval is shorter
    -- below a power of two, but a quotient that loses places has 53 bits and is not below it.
    rw [hsignificand, hexponent]
    generalize roundQuotient n (d * 2 ^ lostPlaces n d) = m at *
    generalize lostPlaces n d = e at *
    have hstep : m * (d * 2 ^ e) = m * 2 ^ e * d := by ring
    have hwidth : d * 2 ^ e = 2 ^ e * d := Nat.mul_comm ..
    rw [hstep, hwidth] at hupper hlower hodd
    have hm : m = 0 ∨ 2 ^ e * d ≤ m * 2 ^ e * d := by
      rcases Nat.eq_zero_or_pos m with h | h
      · exact .inl h
      · right
        rw [Nat.mul_assoc]
        exact Nat.le_mul_of_pos_left _ h
    by_cases hpower : m = 2 ^ 52 ∧ 0 < e
    · obtain ⟨rfl, he⟩ := hpower
      have := hfull he
      rw [if_pos (by norm_num), if_pos ⟨rfl, he⟩]
      constructor
      · rw [Nat.mul_assoc 4]
        omega
      · rw [Nat.mul_assoc 4, Nat.mul_assoc 2]
        omega
    · rw [if_neg hpower, Nat.mul_assoc 4, Nat.mul_assoc 2]
      split <;> omega
  · -- The carry to the next power of two.
    rw [hsignificand, hexponent]
    rw [hcarry] at hupper hlower
    generalize lostPlaces n d = e at *
    have hstep : 2 ^ 53 * (d * 2 ^ e) = 2 ^ 52 * 2 ^ (e + 1) * d := by ring
    have hwidth : 2 * (d * 2 ^ e) = 2 ^ (e + 1) * d := by ring
    rw [hstep] at hupper hlower
    rw [if_pos (by norm_num), if_pos ⟨rfl, by omega⟩, Nat.mul_assoc 4, Nat.mul_assoc 2]
    omega

end Binary64

namespace Finite64

variable {x y : Finite64}

theorem exponent_le_of_magnitude_lt (h : x.magnitude < y.magnitude) : x.exponent ≤ y.exponent := by
  by_contra hlt
  exact absurd h (magnitude_lt_of_exponent_lt (not_le.mp hlt)).asymm

/-- The next double is twice as far away as the upper end. -/
theorem above_gap (h : x.magnitude < y.magnitude) :
    4 * x.magnitude + 2 * x.interval.above ≤ 4 * y.magnitude := by
  obtain ⟨k, hk⟩ := Nat.exists_eq_add_of_le (exponent_le_of_magnitude_lt h)
  have hy : y.magnitude = y.significand * 2 ^ k * 2 ^ x.exponent := by
    rw [magnitude, hk, Nat.pow_add]
    ring
  rw [hy, magnitude] at h
  have hnext := Nat.mul_le_mul_right (2 ^ x.exponent) (Nat.lt_of_mul_lt_mul_right h)
  rw [Nat.succ_eq_add_one, Nat.add_mul, Nat.one_mul] at hnext
  rw [hy]
  simp only [magnitude, interval]
  omega

/-- The double before is at least twice as far away as the lower end. -/
theorem below_gap (h : y.magnitude < x.magnitude) :
    4 * y.magnitude + 2 * x.interval.below ≤ 4 * x.magnitude := by
  obtain ⟨hy, -, -⟩ := y.canonical
  obtain ⟨-, -, hx⟩ := x.canonical
  have hpos := Nat.two_pow_pos x.exponent
  rcases (exponent_le_of_magnitude_lt h).lt_or_eq with hlt | heq
  · -- The double before has a smaller exponent: its quantum is at most half as wide.
    have hupper : y.significand * 2 ^ y.exponent ≤ (2 ^ 53 - 1) * 2 ^ y.exponent :=
      Nat.mul_le_mul_right _ (by omega)
    have hpow := two_pow_double hlt
    have hlower : 2 ^ 52 * 2 ^ x.exponent ≤ x.significand * 2 ^ x.exponent :=
      Nat.mul_le_mul_right _ (by omega)
    by_cases hpower : x.significand = 2 ^ 52
    · simp only [magnitude, interval]
      rw [if_pos ⟨hpower, by omega⟩]
      omega
    · have hmore : (2 ^ 52 + 1) * 2 ^ x.exponent ≤ x.significand * 2 ^ x.exponent :=
        Nat.mul_le_mul_right _ (by omega)
      simp only [magnitude, interval]
      rw [if_neg (by tauto)]
      omega
  · rw [magnitude, magnitude, heq] at h
    have hnext := Nat.mul_le_mul_right (2 ^ x.exponent) (Nat.lt_of_mul_lt_mul_right h)
    rw [Nat.succ_eq_add_one, Nat.add_mul, Nat.one_mul] at hnext
    simp only [magnitude, interval, heq]
    split <;> omega

theorem center_add_le_center (h : x.magnitude < y.magnitude) :
    x.interval.center + 2 * x.interval.reachAbove ≤ y.interval.center := by
  have hgap : ((4 * x.magnitude + 2 * x.interval.above : ℕ) : ℚ) ≤ (4 * y.magnitude : ℕ) := by
    exact_mod_cast above_gap h
  have hdiv := div_le_div_of_nonneg_right hgap quarters_pos.le
  rw [Nat.cast_add, add_div, Nat.cast_mul 2, Nat.cast_two, mul_div_assoc] at hdiv
  rwa [RoundingInterval.center_eq_quarters, RoundingInterval.center_eq_quarters]

theorem center_le_center_sub (h : y.magnitude < x.magnitude) :
    y.interval.center + 2 * x.interval.reachBelow ≤ x.interval.center := by
  have hgap : ((4 * y.magnitude + 2 * x.interval.below : ℕ) : ℚ) ≤ (4 * x.magnitude : ℕ) := by
    exact_mod_cast below_gap h
  have hdiv := div_le_div_of_nonneg_right hgap quarters_pos.le
  rw [Nat.cast_add, add_div, Nat.cast_mul 2, Nat.cast_two, mul_div_assoc] at hdiv
  rwa [RoundingInterval.center_eq_quarters, RoundingInterval.center_eq_quarters]

/-- No double is closer to a number than the one it rounds to. -/
theorem center_closest {v : ℚ} (h : x.interval.Holds v) (y : Finite64) :
    |x.interval.center - v| ≤ |y.interval.center - v| := by
  have hlow := h.center_sub_le
  have hhigh := h.le_center_add
  rcases Nat.lt_trichotomy y.magnitude x.magnitude with hlt | heq | hgt
  · have hgap := center_le_center_sub hlt
    have hreach := x.interval.reachBelow_nonneg
    have hdistance := neg_le_abs (y.interval.center - v)
    exact (abs_le.mpr ⟨by linarith, by linarith⟩).trans hdistance
  · exact (congrArg (fun m : ℕ => |(m : ℚ) / quantaPerUnit - v|) heq.symm).le
  · have hgap := center_add_le_center hgt
    have hreach := x.interval.reachAbove_nonneg
    have hdistance := le_abs_self (y.interval.center - v)
    exact (abs_le.mpr ⟨by linarith, by linarith⟩).trans hdistance

/-! ## Numbers rounded to doubles -/

/-- A quantum in units. -/
def quantum : ℚ := 1 / quantaPerUnit

theorem quantum_pos : 0 < quantum := by
  have hq := cast_quantaPerUnit_pos
  unfold quantum
  exact one_div_pos.mpr hq

theorem reachAbove_eq : x.interval.reachAbove = x.place / 2 := by
  have hq := cast_quantaPerUnit_pos
  unfold RoundingInterval.reachAbove place
  show ((2 * 2 ^ x.exponent : ℕ) : ℚ) / _ = _
  push_cast
  field_simp
  norm_num

theorem reachBelow_le : x.interval.reachBelow ≤ x.place / 2 := by
  rw [← reachAbove_eq]
  refine div_le_div_of_nonneg_right (Nat.cast_le.mpr ?_) quarters_pos.le
  simp only [interval]
  split <;> omega

/-- Numbers that round to one double are at most a place apart. -/
theorem abs_sub_le_place {v w : ℚ} (hv : x.interval.Holds v) (hw : x.interval.Holds w) :
    |v - w| ≤ x.place := by
  have habove := reachAbove_eq (x := x)
  have hbelow := reachBelow_le (x := x)
  have hvlow := hv.center_sub_le
  have hvhigh := hv.le_center_add
  have hwlow := hw.center_sub_le
  have hwhigh := hw.le_center_add
  exact abs_le.mpr ⟨by linarith, by linarith⟩

/-- A place is a bit in 52 of the magnitude, or it is the least one. -/
theorem place_le : x.place ≤ x.interval.center / 2 ^ 52 + quantum := by
  have hplace := place_pos (x := x)
  rw [center_eq]
  rcases x.canonical.2.2 with hzero | hfull
  · have hquantum : x.place = quantum := by
      unfold place quantum
      rw [hzero, Nat.pow_zero, Nat.cast_one]
    have hnonneg : 0 ≤ x.significand * x.place / 2 ^ 52 :=
      div_nonneg (mul_nonneg (Nat.cast_nonneg _) hplace.le) (by norm_num)
    linarith
  · have hbits : (2 ^ 52 : ℚ) ≤ x.significand := by exact_mod_cast hfull
    have hquantum := quantum_pos
    have hmul := mul_le_mul_of_nonneg_right hbits hplace.le
    have hdiv : x.place ≤ x.significand * x.place / 2 ^ 52 := by
      rw [le_div_iff₀ (by norm_num)]
      linarith
    linarith

/-- The exact value of a double. -/
def value (x : Finite64) : ℚ := x.quanta / quantaPerUnit

theorem value_lt_natCast_iff {n : ℕ} :
    x.value < n ↔ x.quanta < (n * quantaPerUnit : ℕ) := by
  have hpos := cast_quantaPerUnit_pos
  rw [value, div_lt_iff₀ hpos, ← Nat.cast_mul]
  exact_mod_cast Iff.rfl

theorem value_le_natCast_iff {n : ℕ} :
    x.value ≤ n ↔ x.quanta ≤ (n * quantaPerUnit : ℕ) := by
  have hpos := cast_quantaPerUnit_pos
  rw [value, div_le_iff₀ hpos, ← Nat.cast_mul]
  exact_mod_cast Iff.rfl

theorem value_eq_intCast_iff {i : ℤ} : x.value = i ↔ x.quanta = i * quantaPerUnit := by
  rw [value, div_eq_iff cast_quantaPerUnit_pos.ne']
  exact_mod_cast Iff.rfl

theorem value_eq_natCast_iff {n : ℕ} :
    x.value = n ↔ x.quanta = (n * quantaPerUnit : ℕ) := by
  rw [← Int.cast_natCast, value_eq_intCast_iff, Nat.cast_mul]

theorem value_nonneg_iff : 0 ≤ x.value ↔ 0 ≤ x.quanta := by
  have hpos := cast_quantaPerUnit_pos
  rw [value, le_div_iff₀ hpos, zero_mul, Int.cast_nonneg_iff]

theorem value_eq : x.value = if x.negative then -x.interval.center else x.interval.center := by
  unfold value quanta RoundingInterval.center
  split
  · rw [Int.cast_neg, neg_div]
    rfl
  · rfl

theorem abs_value : |x.value| = x.interval.center := by
  have hpos : 0 ≤ x.interval.center := div_nonneg (Nat.cast_nonneg _) (Nat.cast_nonneg _)
  rw [value_eq]
  split
  · rw [abs_neg, abs_of_nonneg hpos]
  · exact abs_of_nonneg hpos

theorem abs_quanta (x : Finite64) : x.abs.quanta = |x.quanta| := by
  unfold quanta
  cases x with
  | mk negative significand exponent canonical => cases negative <;> simp [abs, magnitude]

/-- The value without its sign. -/
theorem value_abs (x : Finite64) : x.abs.value = |x.value| := by
  rw [value, value, abs_quanta, abs_div, Int.cast_abs, Nat.abs_cast]

theorem le_iff {x y : Finite64} :
    (Binary64.finite x).le (.finite y) = true ↔ x.value ≤ y.value := by
  have hpos := cast_quantaPerUnit_pos
  rw [value, value, div_le_div_iff_of_pos_right hpos, Int.cast_le]
  exact decide_eq_true_iff

theorem lt_iff {x y : Finite64} :
    (Binary64.finite x).lt (.finite y) = true ↔ x.value < y.value := by
  have hpos := cast_quantaPerUnit_pos
  rw [value, value, div_lt_div_iff_of_pos_right hpos, Int.cast_lt]
  exact decide_eq_true_iff

/-- The double is what a number is rounded to: it has the number's sign, and its interval holds
the number's magnitude. -/
structure IsRounded (x : Finite64) (v : ℚ) : Prop where
  holds : x.interval.Holds |v|
  negative_of_neg : v < 0 → x.negative = true
  negative_of_pos : 0 < v → x.negative = false

namespace IsRounded

variable {v : ℚ}

theorem abs_sub (h : x.IsRounded v) : |x.value - v| = |(x.interval.center - |v|)| := by
  rcases lt_trichotomy v 0 with hneg | rfl | hpos
  · rw [value_eq, if_pos (h.negative_of_neg hneg), abs_of_neg hneg, ← abs_neg]
    congr 1
    ring
  · rw [sub_zero, abs_zero, sub_zero, ← abs_value, abs_abs]
  · rw [value_eq, h.negative_of_pos hpos, if_neg (by simp), abs_of_pos hpos]

/-- No double is closer to a number than the one it is rounded to. -/
theorem closest (h : x.IsRounded v) (y : Finite64) : |x.value - v| ≤ |y.value - v| := by
  rw [h.abs_sub]
  refine (center_closest h.holds y).trans ?_
  rw [← abs_value]
  exact abs_abs_sub_abs_le y.value v

/-- What a double can hold is not rounded. -/
theorem value_eq_self (h : x.IsRounded v) (hy : y.value = v) : x.value = v := by
  have hclosest := h.closest y
  rw [hy, sub_self, abs_zero] at hclosest
  exact sub_eq_zero.mp (abs_nonpos_iff.mp hclosest)

theorem value_eq_of_abs (h : x.IsRounded v) (hv : |x.value| = |v|) : x.value = v := by
  have hdistance := h.abs_sub
  rw [← abs_value, hv, sub_self, abs_zero] at hdistance
  exact sub_eq_zero.mp (abs_eq_zero.mp hdistance)

/-- A number is rounded to one magnitude. -/
theorem magnitude_eq (hx : x.IsRounded v) (hy : y.IsRounded v) : x.magnitude = y.magnitude := by
  rcases Nat.lt_trichotomy x.magnitude y.magnitude with hlt | heq | hgt
  · exact (interval_disjoint hlt hx.holds hy.holds).elim
  · exact heq
  · exact (interval_disjoint hgt hy.holds hx.holds).elim

theorem abs_value_eq (hx : x.IsRounded v) (hy : y.IsRounded v) : |x.value| = |y.value| := by
  rw [abs_value, abs_value]
  exact congrArg (fun m : ℕ => (m : ℚ) / quantaPerUnit) (hx.magnitude_eq hy)

/-- A number other than zero is rounded to one double. -/
theorem eq (hx : x.IsRounded v) (hy : y.IsRounded v) (hv : v ≠ 0) : x = y := by
  refine eq_of_magnitude_eq ?_ (hx.magnitude_eq hy)
  rcases lt_or_gt_of_ne hv with hneg | hpos
  · rw [hx.negative_of_neg hneg, hy.negative_of_neg hneg]
  · rw [hx.negative_of_pos hpos, hy.negative_of_pos hpos]

/-- Rounding goes over no double. -/
theorem abs_value_le (h : x.IsRounded v) (hv : |v| ≤ |y.value|) : |x.value| ≤ |y.value| := by
  have hclosest := center_closest h.holds y
  rw [abs_value] at hv ⊢
  rw [abs_value]
  by_contra hlt
  rw [not_le] at hlt
  generalize |v| = w at *
  rw [abs_of_nonneg (by linarith), abs_of_nonneg (by linarith)] at hclosest
  linarith

theorem le_abs_value (h : x.IsRounded v) (hv : |y.value| ≤ |v|) : |y.value| ≤ |x.value| := by
  have hclosest := center_closest h.holds y
  rw [abs_value] at hv ⊢
  rw [abs_value]
  by_contra hlt
  rw [not_le] at hlt
  generalize |v| = w at *
  rw [abs_of_nonpos (by linarith), abs_of_nonpos (by linarith)] at hclosest
  linarith

/-- Rounding changes less than a bit in 52, or less than a quantum. -/
theorem error_le (h : x.IsRounded v) : |x.value - v| ≤ |v| / 2 ^ 52 + quantum := by
  have hplace := place_pos (x := x)
  have hlow := h.holds.center_sub_le
  have hhigh := h.holds.le_center_add
  have habove := reachAbove_eq (x := x)
  have hbelow := reachBelow_le (x := x)
  have hsize := place_le (x := x)
  have hquantum := quantum_pos
  have hdistance : |(x.interval.center - |v|)| ≤ x.place / 2 :=
    abs_le.mpr ⟨by linarith, by linarith⟩
  rw [h.abs_sub]
  linarith

end IsRounded

end Finite64
end TableQuery
