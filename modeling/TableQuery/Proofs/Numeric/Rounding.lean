import Mathlib.Algebra.Order.Field.Power
import Mathlib.Tactic.FieldSimp
import Mathlib.Tactic.Linarith
import Mathlib.Tactic.Positivity
import Mathlib.Tactic.Ring
import TableQuery.Numeric.Shortest

/-!
# Digits that tell doubles apart

The shortest digits of a double lie among the reals that round to it, and no real rounds to two
doubles of one sign.

* `RoundingInterval.contains_iff`: an interval holds the reals between its ends.
* `Finite64.interval_disjoint`: the intervals of different magnitudes have no real in common.
* `Finite64.shortest_spec`: the shortest digits are found, and they lie in the interval.
-/

namespace TableQuery

/-- The number that digits stand for. -/
def Digits.value (d : Digits) : ℚ := d.coefficient * 10 ^ d.exponent

namespace RoundingInterval

/-- The lower end of the interval. -/
def low (x : RoundingInterval) : ℚ := ((4 * x.magnitude - x.below : ℕ) : ℚ) / (4 * quantaPerUnit : ℕ)

/-- The upper end of the interval. -/
def high (x : RoundingInterval) : ℚ := ((4 * x.magnitude + x.above : ℕ) : ℚ) / (4 * quantaPerUnit : ℕ)

/-- A number lies in the interval. -/
def Holds (x : RoundingInterval) (v : ℚ) : Prop :=
  if x.closed then x.low ≤ v ∧ v ≤ x.high else x.low < v ∧ v < x.high

end RoundingInterval

theorem quantaPerUnit_pos : 0 < quantaPerUnit := by
  unfold quantaPerUnit
  exact Nat.two_pow_pos 1074

theorem cast_quantaPerUnit_pos : (0 : ℚ) < quantaPerUnit := by exact_mod_cast quantaPerUnit_pos

theorem ten_pow_split (k : ℤ) : (10 : ℚ) ^ k * 10 ^ (-k).toNat = 10 ^ k.toNat := by
  rw [← zpow_natCast, ← zpow_natCast, ← zpow_add₀ (by norm_num)]
  congr 1
  omega

/-- Seventeen digits reach sixteen places below the first one. -/
theorem ten_pow_grid (p : ℤ) : (10 : ℚ) ^ (p - 17) * 10 ^ 16 = 10 ^ (p - 1) := by
  rw [← zpow_natCast, ← zpow_add₀ (by norm_num)]
  congr 1
  omega

theorem quarters_pos : (0 : ℚ) < (4 * quantaPerUnit : ℕ) := by
  exact_mod_cast Nat.mul_pos (by norm_num) quantaPerUnit_pos

/-- A quotient is below digits if it is so after both are multiplied out. -/
theorem div_le_digits_iff (a c : ℕ) (k : ℤ) :
    (a : ℚ) / (4 * quantaPerUnit : ℕ) ≤ c * 10 ^ k ↔
      a * 10 ^ (-k).toNat ≤ c * 10 ^ k.toNat * (4 * quantaPerUnit) := by
  have hp : (0 : ℚ) < 10 ^ (-k).toNat := by positivity
  rw [div_le_iff₀ quarters_pos, ← mul_le_mul_iff_left₀ hp, ← @Nat.cast_le ℚ]
  push_cast
  rw [← ten_pow_split k]
  constructor <;> intro h <;> linarith

theorem digits_le_div_iff (a c : ℕ) (k : ℤ) :
    c * 10 ^ k ≤ (a : ℚ) / (4 * quantaPerUnit : ℕ) ↔
      c * 10 ^ k.toNat * (4 * quantaPerUnit) ≤ a * 10 ^ (-k).toNat := by
  have hp : (0 : ℚ) < 10 ^ (-k).toNat := by positivity
  rw [le_div_iff₀ quarters_pos, ← mul_le_mul_iff_left₀ hp, ← @Nat.cast_le ℚ]
  push_cast
  rw [← ten_pow_split k]
  constructor <;> intro h <;> linarith

/-- The interval holds what the digits stand for. -/
theorem RoundingInterval.contains_iff (x : RoundingInterval) (c : ℕ) (k : ℤ) :
    x.contains c k = true ↔ x.Holds (c * 10 ^ k) := by
  have hlow := div_le_digits_iff (4 * x.magnitude - x.below) c k
  have hhigh := digits_le_div_iff (4 * x.magnitude + x.above) c k
  have hlow' := digits_le_div_iff (4 * x.magnitude - x.below) c k
  have hhigh' := div_le_digits_iff (4 * x.magnitude + x.above) c k
  unfold contains Holds low high
  split
  · simp only [Bool.and_eq_true, decide_eq_true_eq, hlow, hhigh]
  · simp only [Bool.and_eq_true, decide_eq_true_eq, ← not_le, hlow', hhigh']

/-! ## Intervals of doubles -/

namespace Finite64

variable {x y : Finite64}

/-- The next power of two is at least twice as large. -/
theorem two_pow_double {d e : ℕ} (h : d < e) : 2 * 2 ^ d ≤ 2 ^ e := by
  have := Nat.pow_le_pow_right (n := 2) (by norm_num) h
  rwa [Nat.pow_succ, Nat.mul_comm] at this

/-- A double with a larger exponent has a larger magnitude. -/
theorem magnitude_lt_of_exponent_lt (h : x.exponent < y.exponent) : x.magnitude < y.magnitude := by
  obtain ⟨hx, -, -⟩ := x.canonical
  obtain ⟨-, -, hy⟩ := y.canonical
  have hlarge : 2 ^ 52 ≤ y.significand := by omega
  have hpow := two_pow_double h
  have hpos := Nat.two_pow_pos x.exponent
  unfold magnitude
  have hupper : x.significand * 2 ^ x.exponent < 2 ^ 53 * 2 ^ x.exponent :=
    Nat.mul_lt_mul_of_pos_right hx hpos
  have hlower : 2 ^ 52 * 2 ^ y.exponent ≤ y.significand * 2 ^ y.exponent :=
    Nat.mul_le_mul_right _ hlarge
  omega

/-- A double is known by its magnitude and its sign. -/
theorem eq_of_magnitude_eq (hsign : x.negative = y.negative) (h : x.magnitude = y.magnitude) :
    x = y := by
  have hexponent : x.exponent = y.exponent := by
    rcases Nat.lt_trichotomy x.exponent y.exponent with hlt | heq | hgt
    · exact absurd h (magnitude_lt_of_exponent_lt hlt).ne
    · exact heq
    · exact absurd h (magnitude_lt_of_exponent_lt hgt).ne'
  have hsignificand : x.significand = y.significand := by
    unfold magnitude at h
    rw [hexponent] at h
    exact Nat.eq_of_mul_eq_mul_right (Nat.two_pow_pos _) h
  cases x
  cases y
  cases hsign
  cases hsignificand
  cases hexponent
  rfl

theorem closed_eq_false_iff (x : Finite64) :
    x.interval.closed = false ↔ x.significand % 2 = 1 := by
  simp only [interval, beq_eq_false_iff_ne]
  omega

/-- The quantum of a larger exponent is at least twice as wide. -/
theorem interval_ends_of_exponent_lt (h : x.exponent < y.exponent) :
    4 * x.magnitude + x.interval.above < 4 * y.magnitude - y.interval.below ∨
      4 * x.magnitude + x.interval.above = 4 * y.magnitude - y.interval.below ∧
        x.interval.closed = false := by
  obtain ⟨hx, -, -⟩ := x.canonical
  obtain ⟨-, -, hynormal⟩ := y.canonical
  have hlarge : 2 ^ 52 ≤ y.significand := by omega
  have hpow := two_pow_double h
  have hpos := Nat.two_pow_pos x.exponent
  have hupper : x.significand * 2 ^ x.exponent ≤ (2 ^ 53 - 1) * 2 ^ x.exponent :=
    Nat.mul_le_mul_right _ (by omega)
  rw [closed_eq_false_iff]
  by_cases hfirst : y.significand = 2 ^ 52
  · have hbelow : y.significand = 2 ^ 52 ∧ 0 < y.exponent := ⟨hfirst, by omega⟩
    by_cases hlast : x.significand = 2 ^ 53 - 1
    · simp only [magnitude, interval, if_pos hbelow]
      rw [hfirst, hlast]
      omega
    · have hupper' : x.significand * 2 ^ x.exponent ≤ (2 ^ 53 - 2) * 2 ^ x.exponent :=
        Nat.mul_le_mul_right _ (by omega)
      simp only [magnitude, interval, if_pos hbelow]
      rw [hfirst]
      omega
  · have hlower : (2 ^ 52 + 1) * 2 ^ y.exponent ≤ y.significand * 2 ^ y.exponent :=
      Nat.mul_le_mul_right _ (by omega)
    simp only [magnitude, interval, hfirst, false_and, if_false]
    omega

/-- With one exponent the significands differ by one or more, and of two that are next to each
other one is odd. -/
theorem interval_ends_of_exponent_eq (heq : x.exponent = y.exponent)
    (h : x.significand < y.significand) :
    4 * x.magnitude + x.interval.above < 4 * y.magnitude - y.interval.below ∨
      4 * x.magnitude + x.interval.above = 4 * y.magnitude - y.interval.below ∧
        (x.interval.closed = false ∨ y.interval.closed = false) := by
  obtain ⟨-, -, hxnormal⟩ := x.canonical
  have hbelow : ¬(y.significand = 2 ^ 52 ∧ 0 < y.exponent) := by omega
  have hpos := Nat.two_pow_pos y.exponent
  rw [closed_eq_false_iff, closed_eq_false_iff]
  simp only [magnitude, interval, if_neg hbelow, heq]
  by_cases hnext : y.significand = x.significand + 1
  · have hproduct : y.significand * 2 ^ y.exponent =
        x.significand * 2 ^ y.exponent + 2 ^ y.exponent := by
      rw [hnext, Nat.add_mul, Nat.one_mul]
    omega
  · have hlower : (x.significand + 2) * 2 ^ y.exponent ≤ y.significand * 2 ^ y.exponent :=
      Nat.mul_le_mul_right _ (by omega)
    rw [Nat.add_mul] at hlower
    omega

/-- The interval of a double ends below that of a larger one, or where it begins; then one of
the two does not have its ends. -/
theorem interval_ends (h : x.magnitude < y.magnitude) :
    4 * x.magnitude + x.interval.above < 4 * y.magnitude - y.interval.below ∨
      4 * x.magnitude + x.interval.above = 4 * y.magnitude - y.interval.below ∧
        (x.interval.closed = false ∨ y.interval.closed = false) := by
  rcases Nat.lt_trichotomy x.exponent y.exponent with hlt | heq | hgt
  · exact (interval_ends_of_exponent_lt hlt).imp_right fun ⟨hends, hopen⟩ => ⟨hends, .inl hopen⟩
  · refine interval_ends_of_exponent_eq heq ?_
    unfold magnitude at h
    rw [heq] at h
    exact Nat.lt_of_mul_lt_mul_right h
  · exact absurd h (magnitude_lt_of_exponent_lt hgt).asymm

/-- No number rounds to two magnitudes. -/
theorem interval_disjoint (h : x.magnitude < y.magnitude) {v : ℚ} (hx : x.interval.Holds v)
    (hy : y.interval.Holds v) : False := by
  have hends := interval_ends h
  have hle : x.interval.high ≤ y.interval.low := by
    refine (div_le_div_iff_of_pos_right quarters_pos).mpr ?_
    have hnat : 4 * x.magnitude + x.interval.above ≤ 4 * y.magnitude - y.interval.below := by omega
    exact_mod_cast hnat
  have hx' : v ≤ x.interval.high := by
    unfold RoundingInterval.Holds at hx
    split at hx
    · exact hx.2
    · exact hx.2.le
  have hy' : y.interval.low ≤ v := by
    unfold RoundingInterval.Holds at hy
    split at hy
    · exact hy.1
    · exact hy.1.le
  rcases hends with hlt | ⟨heq, hopen | hopen⟩
  · have hlt' : x.interval.high < y.interval.low := by
      refine (div_lt_div_iff_of_pos_right quarters_pos).mpr ?_
      exact_mod_cast hlt
    linarith
  · unfold RoundingInterval.Holds at hx
    rw [hopen, if_neg (by simp)] at hx
    linarith [hx.2]
  · unfold RoundingInterval.Holds at hy
    rw [hopen, if_neg (by simp)] at hy
    linarith [hy.1]

end Finite64

/-! ## The digits are found -/

theorem lt_ten_pow_decimalLength (n : ℕ) : n < 10 ^ decimalLength n := by
  unfold decimalLength
  split
  · rename_i h
    rw [h]
    norm_num
  · exact (Nat.length_toDigits_le_iff (by norm_num) Nat.length_toDigits_pos).mp le_rfl

theorem ten_pow_decimalLength_le {n : ℕ} (h : 0 < n) : 10 ^ (decimalLength n - 1) ≤ n := by
  unfold decimalLength
  rw [if_neg h.ne']
  have hpos := Nat.length_toDigits_pos (b := 10) (n := n)
  rcases Nat.eq_zero_or_pos ((Nat.toDigits 10 n).length - 1) with hzero | hmore
  · rw [hzero]
    exact h
  · by_contra hlt
    have hshort := (Nat.length_toDigits_le_iff (by norm_num) hmore).mpr (not_le.mp hlt)
    omega

namespace RoundingInterval

variable (x : RoundingInterval)

/-- The magnitude in units. -/
def center : ℚ := (x.magnitude : ℚ) / quantaPerUnit

/-- The magnitude has a digit other than zero right after the point's place. -/
theorem decimalPoint_le (h : 0 < x.magnitude) : (10 : ℚ) ^ (x.decimalPoint - 1) ≤ x.center := by
  have hq := cast_quantaPerUnit_pos
  unfold decimalPoint center
  rw [le_div_iff₀ hq]
  split
  · rename_i hunit
    have hwhole : 0 < x.magnitude / quantaPerUnit := Nat.div_pos hunit quantaPerUnit_pos
    have hpow := ten_pow_decimalLength_le hwhole
    have hlength : 0 < decimalLength (x.magnitude / quantaPerUnit) := by
      unfold decimalLength
      rw [if_neg hwhole.ne']
      exact Nat.length_toDigits_pos
    have hmul := (Nat.mul_le_mul_right quantaPerUnit hpow).trans (Nat.div_mul_le_self _ _)
    have hexponent : ((decimalLength (x.magnitude / quantaPerUnit) : ℕ) : ℤ) - 1 =
        ((decimalLength (x.magnitude / quantaPerUnit) - 1 : ℕ) : ℤ) := by omega
    rw [hexponent, zpow_natCast]
    exact_mod_cast hmul
  · -- The quotient that is measured is one below the units in a magnitude, rounded up.
    have hceil := Nat.lt_mul_div_succ (quantaPerUnit + x.magnitude - 1) h
    have hlength := lt_ten_pow_decimalLength ((quantaPerUnit + x.magnitude - 1) / x.magnitude - 1)
    generalize (quantaPerUnit + x.magnitude - 1) / x.magnitude = t at hceil hlength
    have hunits : quantaPerUnit ≤ x.magnitude * t := by
      rw [Nat.mul_add, Nat.mul_one] at hceil
      omega
    have ht : t ≤ 10 ^ decimalLength (t - 1) := by omega
    have hpow := hunits.trans (Nat.mul_le_mul_left x.magnitude ht)
    have hexponent : (1 : ℤ) - (decimalLength (t - 1) : ℤ) - 1 = -(decimalLength (t - 1) : ℤ) := by
      omega
    rw [hexponent, zpow_neg, zpow_natCast, inv_mul_le_iff₀ (by positivity), mul_comm]
    exact_mod_cast hpow

/-- What is found on a grid lies in the interval. -/
theorem onGrid?_spec {tie : Tie} {k : ℤ} {d : Digits} (h : x.onGrid? tie k = some d) :
    0 < d.coefficient ∧ x.Holds d.value := by
  unfold onGrid? at h
  simp only at h
  generalize x.magnitude * 10 ^ (-k).toNat / (quantaPerUnit * 10 ^ k.toNat) = c at h
  have hhere (hc : (decide (0 < c) && x.contains c k) = true) (hd : d = ⟨c, k⟩) :
      0 < d.coefficient ∧ x.Holds d.value := by
    rw [Bool.and_eq_true, decide_eq_true_eq] at hc
    rw [hd]
    exact ⟨hc.1, (x.contains_iff c k).mp hc.2⟩
  have hnext (hc : x.contains (c + 1) k = true) (hd : d = ⟨c + 1, k⟩) :
      0 < d.coefficient ∧ x.Holds d.value := by
    rw [hd]
    exact ⟨c.succ_pos, (x.contains_iff (c + 1) k).mp hc⟩
  cases hleft : decide (0 < c) && x.contains c k <;> cases hright : x.contains (c + 1) k <;>
    simp only [hleft, hright] at h
  · cases h
  · exact hnext hright (Option.some.inj h).symm
  · exact hhere hleft (Option.some.inj h).symm
  · obtain ⟨upward, h⟩ : ∃ upward : Bool, d = if upward then ⟨c + 1, k⟩ else ⟨c, k⟩ :=
      ⟨_, (Option.some.inj h).symm⟩
    cases upward
    · exact hhere hleft h
    · exact hnext hright h

/-- The magnitude lies between two neighbours on a grid, and one of them is found if it is in the
interval. -/
theorem onGrid?_isSome (tie : Tie) (k : ℤ) : ∃ c : ℕ, (c : ℚ) * 10 ^ k ≤ x.center ∧
    x.center < (c + 1 : ℕ) * 10 ^ k ∧
      (0 < c ∧ x.Holds (c * 10 ^ k) ∨ x.Holds ((c + 1 : ℕ) * 10 ^ k) →
        (x.onGrid? tie k).isSome) := by
  have hq := cast_quantaPerUnit_pos
  have hp : (0 : ℚ) < 10 ^ (-k).toNat := by positivity
  have hd : 0 < quantaPerUnit * 10 ^ k.toNat := Nat.mul_pos quantaPerUnit_pos (by positivity)
  have hlow := Nat.div_mul_le_self (x.magnitude * 10 ^ (-k).toNat) (quantaPerUnit * 10 ^ k.toNat)
  have hhigh := Nat.lt_mul_div_succ (x.magnitude * 10 ^ (-k).toNat) hd
  refine ⟨x.magnitude * 10 ^ (-k).toNat / (quantaPerUnit * 10 ^ k.toNat), ?_, ?_, ?_⟩
  · unfold center
    rw [le_div_iff₀ hq, ← mul_le_mul_iff_left₀ hp]
    have hcast := (@Nat.cast_le ℚ _ _ _ _).mpr hlow
    push_cast at hcast ⊢
    rw [← ten_pow_split k] at hcast
    linarith
  · unfold center
    rw [div_lt_iff₀ hq, ← mul_lt_mul_iff_left₀ hp]
    have hcast := (@Nat.cast_lt ℚ _ _ _ _).mpr hhigh
    push_cast at hcast ⊢
    rw [← ten_pow_split k] at hcast
    linarith
  · intro hholds
    rw [← contains_iff, ← contains_iff] at hholds
    unfold onGrid?
    simp only
    generalize x.magnitude * 10 ^ (-k).toNat / (quantaPerUnit * 10 ^ k.toNat) = c at hholds
    rcases hholds with ⟨hpos, hhere⟩ | hnext
    · rw [hhere]
      cases x.contains (c + 1) k <;> simp [hpos]
    · rw [hnext]
      cases decide (0 < c) && x.contains c k <;> rfl

end RoundingInterval

namespace Digits

/-- Zeros at the end do not count. -/
theorem trim_value (fuel : ℕ) (d : Digits) : (d.trim fuel).value = d.value := by
  induction fuel generalizing d with
  | zero => rfl
  | succ fuel ih =>
    unfold trim
    split
    · rename_i h
      rw [ih]
      unfold value
      have hcoefficient : (d.coefficient : ℚ) = (d.coefficient / 10 : ℕ) * 10 := by
        have := Nat.div_add_mod d.coefficient 10
        have hnat : d.coefficient = d.coefficient / 10 * 10 := by omega
        exact_mod_cast hnat
      rw [hcoefficient, zpow_add₀ (by norm_num), zpow_one]
      ring
    · rfl

theorem trim_pos {fuel : ℕ} {d : Digits} (h : 0 < d.coefficient) : 0 < (d.trim fuel).coefficient := by
  induction fuel generalizing d with
  | zero => exact h
  | succ fuel ih =>
    unfold trim
    split
    · exact ih (show 0 < d.coefficient / 10 by omega)
    · exact h

end Digits

namespace Finite64

variable {x : Finite64}

/-- The width of a double's last place in units. -/
def place (x : Finite64) : ℚ := (2 ^ x.exponent : ℕ) / quantaPerUnit

theorem place_pos : 0 < x.place := by
  have hq := cast_quantaPerUnit_pos
  have hp : (0 : ℚ) < (2 ^ x.exponent : ℕ) := by exact_mod_cast Nat.two_pow_pos _
  exact div_pos hp hq

theorem center_eq : x.interval.center = x.significand * x.place := by
  unfold RoundingInterval.center place
  show ((x.significand * 2 ^ x.exponent : ℕ) : ℚ) / _ = _
  push_cast
  ring

/-- A number less than half a place above the magnitude rounds to it. -/
theorem lt_high {v : ℚ} (h : v < x.interval.center + x.place / 2) : v < x.interval.high := by
  refine h.trans_eq ?_
  rw [center_eq]
  unfold RoundingInterval.high place
  show _ = ((4 * (x.significand * 2 ^ x.exponent) + 2 * 2 ^ x.exponent : ℕ) : ℚ) / _
  have hq := cast_quantaPerUnit_pos.ne'
  push_cast
  field_simp
  ring

/-- A number less than half a place below the magnitude rounds to it, unless the magnitude is a
power of two. -/
theorem low_lt {v : ℚ} (hx : x.significand ≠ 0) (hpower : ¬(x.significand = 2 ^ 52 ∧ 0 < x.exponent))
    (h : x.interval.center - x.place / 2 < v) : x.interval.low < v := by
  refine Eq.trans_lt ?_ h
  have hpos := Nat.two_pow_pos x.exponent
  have hbelow : 2 * 2 ^ x.exponent ≤ 4 * (x.significand * 2 ^ x.exponent) := by
    have := Nat.mul_le_mul_right (2 ^ x.exponent) (Nat.one_le_iff_ne_zero.mpr hx)
    omega
  rw [center_eq]
  unfold RoundingInterval.low place
  simp only [interval, magnitude, if_neg hpower]
  have hq := cast_quantaPerUnit_pos.ne'
  rw [Nat.cast_sub hbelow]
  push_cast
  field_simp
  ring

/-- The magnitude itself rounds to it. -/
theorem low_lt_center (hx : x.significand ≠ 0) : x.interval.low < x.interval.center := by
  have hpos := Nat.two_pow_pos x.exponent
  have hmagnitude := Nat.mul_le_mul_right (2 ^ x.exponent) (Nat.one_le_iff_ne_zero.mpr hx)
  have hbelow : 4 * x.interval.magnitude - x.interval.below < 4 * x.interval.magnitude := by
    simp only [interval, magnitude]
    split <;> omega
  have hq := cast_quantaPerUnit_pos
  have hcenter : x.interval.center =
      ((4 * x.interval.magnitude : ℕ) : ℚ) / (4 * quantaPerUnit : ℕ) := by
    unfold RoundingInterval.center
    rw [Nat.cast_mul, Nat.cast_mul, mul_div_mul_left _ _ (by norm_num)]
  rw [hcenter]
  refine (div_lt_div_iff_of_pos_right quarters_pos).mpr ?_
  exact_mod_cast hbelow

theorem holds_of_lt {v : ℚ} (hlow : x.interval.low < v) (hhigh : v < x.interval.high) :
    x.interval.Holds v := by
  unfold RoundingInterval.Holds
  split
  · exact ⟨hlow.le, hhigh.le⟩
  · exact ⟨hlow, hhigh⟩

/-- Seventeen digits are always enough. -/
theorem onGrid?_seventeen (tie : Tie) (hx : x.significand ≠ 0) :
    (x.interval.onGrid? tie (x.interval.decimalPoint - 17)).isSome := by
  obtain ⟨hbound, -, -⟩ := x.canonical
  have hmagnitude : 0 < x.interval.magnitude :=
    Nat.mul_pos (Nat.pos_of_ne_zero hx) (Nat.two_pow_pos _)
  have hpoint := x.interval.decimalPoint_le hmagnitude
  obtain ⟨c, hbelow, habove, hfound⟩ := x.interval.onGrid?_isSome tie (x.interval.decimalPoint - 17)
  have hstep : (0 : ℚ) < 10 ^ (x.interval.decimalPoint - 17) := by positivity
  rw [← ten_pow_grid] at hpoint
  generalize (10 : ℚ) ^ (x.interval.decimalPoint - 17) = g at *
  have hplace := place_pos (x := x)
  have hcenter := center_eq (x := x)
  have hsignificand : (x.significand : ℚ) ≤ 2 ^ 53 - 1 := by
    have hnat : x.significand + 1 ≤ 2 ^ 53 := hbound
    have hcast : ((x.significand + 1 : ℕ) : ℚ) ≤ ((2 ^ 53 : ℕ) : ℚ) := by exact_mod_cast hnat
    push_cast at hcast
    linarith
  have hlarge : x.interval.center ≤ (2 ^ 53 - 1) * x.place := by
    rw [hcenter]
    exact mul_le_mul_of_nonneg_right hsignificand hplace.le
  push_cast at habove
  have hnext (hhalf : (c + 1) * g < x.interval.center + x.place / 2) :
      x.interval.Holds ((c + 1 : ℕ) * g) := by
    push_cast
    exact holds_of_lt ((low_lt_center hx).trans habove) (lt_high hhalf)
  apply hfound
  by_cases hpower : x.significand = 2 ^ 52 ∧ 0 < x.exponent
  · -- Above a power of two the grid is finer than half a place.
    right
    have hexact : x.interval.center = 2 ^ 52 * x.place := by
      rw [hcenter, hpower.1]
      norm_num
    exact hnext (by nlinarith)
  · -- Elsewhere one of the neighbours is less than half a place away.
    by_cases hhalf : (c + 1) * g < x.interval.center + x.place / 2
    · exact .inr (hnext hhalf)
    · left
      have hlow : x.interval.center - x.place / 2 < c * g := by nlinarith
      have hpos : 0 < c := by
        by_contra hzero
        have hc : c = 0 := by omega
        rw [hc] at habove
        push_cast at habove
        nlinarith
      refine ⟨hpos, holds_of_lt (low_lt hx hpower hlow) (lt_high ?_)⟩
      linarith

/-- The shortest digits lie in the interval. -/
theorem shortest_spec (tie : Tie) (hx : x.significand ≠ 0) :
    0 < (x.interval.shortest tie).coefficient ∧
      x.interval.Holds (x.interval.shortest tie).value := by
  let grid (n : ℕ) := x.interval.onGrid? tie (x.interval.decimalPoint - (n + 1 : ℕ))
  have hsome : ((List.range 17).findSome? grid).isSome := by
    rw [List.findSome?_isSome_iff]
    exact ⟨16, by simp, onGrid?_seventeen tie hx⟩
  obtain ⟨d, hd⟩ := Option.isSome_iff_exists.mp hsome
  obtain ⟨n, -, hn⟩ := List.exists_of_findSome?_eq_some hd
  obtain ⟨hpos, hholds⟩ := x.interval.onGrid?_spec hn
  have hshortest : x.interval.shortest tie = d.trim 20 := by
    show (((List.range 17).findSome? grid).getD ⟨0, 0⟩).trim 20 = _
    rw [hd]
    rfl
  rw [hshortest, Digits.trim_value]
  exact ⟨Digits.trim_pos hpos, hholds⟩

/-- Doubles of one sign with shortest digits of one value are equal. -/
theorem eq_of_shortest_value {y : Finite64} {tie : Tie} (hsign : x.negative = y.negative)
    (hx : x.significand ≠ 0) (hy : y.significand ≠ 0)
    (h : (x.interval.shortest tie).value = (y.interval.shortest tie).value) : x = y := by
  have hxholds := (shortest_spec tie hx).2
  have hyholds := (shortest_spec tie hy).2
  rw [← h] at hyholds
  rcases Nat.lt_trichotomy x.magnitude y.magnitude with hlt | heq | hgt
  · exact (interval_disjoint hlt hxholds hyholds).elim
  · exact eq_of_magnitude_eq hsign heq
  · exact (interval_disjoint hgt hyholds hxholds).elim

end Finite64

end TableQuery
