import Mathlib.RingTheory.Multiplicity
import TableQuery.Proofs.Numeric.Numeral

/-!
# Few digits read back

A number of at most fifteen digits is written with these digits again after it has been rounded to
a double: no other number of so few places rounds to the same double.

* `RoundingInterval.lt_decimalPoint`: where the point of a magnitude is.
* `Digits.trim_mul_pow`: which zeros are taken off.
* `Finite64.IsRounded.shortest_eq`: the shortest digits are those of the number.
* `Finite64.IsRounded.writeFinite_eq_iff`: when the text of the double is the text of the number.
-/

namespace TableQuery

/-! ## Multiples of a step -/

/-- Multiples of a step that are closer than the step are the same. -/
theorem eq_of_abs_sub_lt {a b : ℕ} {step : ℚ} (h : |a * step - b * step| < step) : a = b := by
  have hstep : 0 < step := (abs_nonneg _).trans_lt h
  rw [← sub_mul, abs_mul, abs_of_pos hstep] at h
  have hone : |((a : ℤ) - (b : ℤ) : ℚ)| < 1 := by
    have hless := lt_of_mul_lt_mul_right (h.trans_eq (one_mul step).symm) hstep.le
    exact_mod_cast hless
  have hint : |(a : ℤ) - (b : ℤ)| < 1 := by exact_mod_cast hone
  rw [Int.abs_lt_one_iff] at hint
  omega

theorem ten_zpow_eq {j k : ℤ} {r : ℕ} (h : j = r + k) : (10 : ℚ) ^ j = (10 ^ r : ℕ) * 10 ^ k := by
  rw [h, zpow_add₀ (by norm_num), zpow_natCast]
  norm_cast

/-! ## The first grid -/

/-- What is found first in a range is found at no place before it. -/
theorem findSome?_range_first {α : Type} {f : ℕ → Option α} {m : ℕ} {b : α}
    (h : (List.range m).findSome? f = some b) : ∃ n < m, f n = some b ∧ ∀ i < n, f i = none := by
  induction m with
  | zero => cases h
  | succ m ih =>
    rw [List.range_succ, List.findSome?_append] at h
    cases hbefore : (List.range m).findSome? f with
    | some a =>
      rw [hbefore, Option.some_or] at h
      obtain ⟨n, hn, hfound, hnone⟩ := ih (hbefore.trans h)
      exact ⟨n, by omega, hfound, hnone⟩
    | none =>
      rw [hbefore, Option.none_or] at h
      have hnone := List.findSome?_eq_none_iff.mp hbefore
      refine ⟨m, by omega, ?_, fun i hi => hnone i (List.mem_range.mpr hi)⟩
      simpa using h

namespace RoundingInterval

variable (x : RoundingInterval)

/-- The magnitude has no digit before the point's place. -/
theorem lt_decimalPoint (h : 0 < x.magnitude) : x.center < (10 : ℚ) ^ x.decimalPoint := by
  have hq := cast_quantaPerUnit_pos
  unfold decimalPoint center
  rw [div_lt_iff₀ hq]
  split
  · have hlength := lt_ten_pow_decimalLength (x.magnitude / quantaPerUnit)
    have hmul := (Nat.div_lt_iff_lt_mul quantaPerUnit_pos).mp hlength
    rw [zpow_natCast]
    exact_mod_cast hmul
  · rename_i hunit
    -- The quotient is the number of magnitudes in a unit, rounded up and less one.
    have hfloor := Nat.div_mul_le_self (quantaPerUnit + x.magnitude - 1) x.magnitude
    have hceil : 2 ≤ (quantaPerUnit + x.magnitude - 1) / x.magnitude := by
      rw [Nat.le_div_iff_mul_le h]
      omega
    have hpow := ten_pow_decimalLength_le (n := (quantaPerUnit + x.magnitude - 1) / x.magnitude - 1)
      (by omega)
    have hlength : 0 < decimalLength ((quantaPerUnit + x.magnitude - 1) / x.magnitude - 1) := by
      unfold decimalLength
      rw [if_neg (by omega)]
      exact Nat.length_toDigits_pos
    generalize (quantaPerUnit + x.magnitude - 1) / x.magnitude = t at *
    generalize decimalLength (t - 1) = l at *
    have hunits : x.magnitude * 10 ^ (l - 1) < quantaPerUnit := by
      have hmul := Nat.mul_le_mul_left x.magnitude hpow
      have hless : x.magnitude * (t - 1) = t * x.magnitude - x.magnitude := by
        rw [Nat.mul_sub_one, Nat.mul_comm]
      omega
    have hexponent : (1 : ℤ) - l = -((l - 1 : ℕ) : ℤ) := by omega
    rw [hexponent, zpow_neg, zpow_natCast, inv_mul_eq_div, lt_div_iff₀ (by positivity)]
    exact_mod_cast hunits

/-- Digits of a grid have its exponent. -/
theorem onGrid?_exponent {tie : Tie} {k : ℤ} {d : Digits} (h : x.onGrid? tie k = some d) :
    d.exponent = k := by
  unfold onGrid? at h
  simp only at h
  generalize quantaPerUnit * 10 ^ k.toNat = step at h
  split at h
  · cases h
  · exact (congrArg Digits.exponent (Option.some.inj h)).symm
  · exact (congrArg Digits.exponent (Option.some.inj h)).symm
  · rw [← Option.some.inj h, apply_ite Digits.exponent, ite_self]

/-- The grid where digits are found first is the coarsest of all, if a number in the interval has
coarser places. -/
theorem first_of_holds {n c : ℕ} {j : ℤ} (hc : 0 < c) (hholds : x.Holds (c * 10 ^ j))
    (hfirst : ∀ i < n, ∀ b : ℕ, 0 < b → ¬x.Holds (b * 10 ^ (x.decimalPoint - (i + 1 : ℕ))))
    (hfine : x.decimalPoint - (n + 1 : ℕ) < j) : n = 0 := by
  by_contra hlater
  obtain ⟨i, hi, r, hr⟩ : ∃ i < n, ∃ r : ℕ, j = r + (x.decimalPoint - (i + 1 : ℕ)) := by
    rcases Int.lt_or_le j x.decimalPoint with hlt | hge
    · exact ⟨(x.decimalPoint - 1 - j).toNat, by omega, 0, by omega⟩
    · exact ⟨0, by omega, (j - x.decimalPoint + 1).toNat, by omega⟩
  rw [ten_zpow_eq hr, ← mul_assoc, ← Nat.cast_mul] at hholds
  exact hfirst i hi (c * 10 ^ r) (Nat.mul_pos hc (by positivity)) hholds

variable {x}

theorem Holds.between {u v w : ℚ} (hu : x.Holds u) (hw : x.Holds w) (huv : u ≤ v) (hvw : v ≤ w) :
    x.Holds v := by
  unfold Holds at hu hw ⊢
  split
  · rename_i h
    rw [if_pos h] at hu hw
    exact ⟨hu.1.trans huv, hvw.trans hw.2⟩
  · rename_i h
    rw [if_neg h] at hu hw
    exact ⟨hu.1.trans_le huv, hvw.trans_lt hw.2⟩

end RoundingInterval

namespace Digits

/-- Zeros at the end are taken off as long as there is fuel. -/
theorem trim_mul_pow {c r fuel : ℕ} (hc : c % 10 ≠ 0) (hr : r ≤ fuel) (k : ℤ) :
    Digits.trim fuel ⟨c * 10 ^ r, k⟩ = ⟨c, k + r⟩ := by
  have hdone (n : ℕ) (k : ℤ) : Digits.trim n ⟨c, k⟩ = ⟨c, k⟩ := by
    cases n with
    | zero => rfl
    | succ n => exact if_neg fun h => hc h.2
  induction r generalizing fuel k with
  | zero => simp [hdone]
  | succ r ih =>
    obtain ⟨n, rfl⟩ : ∃ n, fuel = n + 1 := ⟨fuel - 1, by omega⟩
    have hsucc : c * 10 ^ (r + 1) = c * 10 ^ r * 10 := by rw [Nat.pow_succ, Nat.mul_assoc]
    have hne : c * 10 ^ r * 10 ≠ 0 := by
      have hpos : 0 < c := by omega
      positivity
    unfold trim
    rw [if_pos ⟨hsucc ▸ hne, by rw [hsucc, Nat.mul_mod_left]⟩]
    have hrest := ih (show r ≤ n by omega) (k + 1)
    simp only [hsucc, Nat.mul_div_cancel _ (show 0 < 10 by norm_num)]
    rw [hrest]
    congr 1
    push_cast
    omega

end Digits

namespace Finite64

variable {x : Finite64}

theorem holds_center (hx : x.significand ≠ 0) : x.interval.Holds x.interval.center :=
  holds_of_lt (low_lt_center hx) (lt_high (by have := place_pos (x := x); linarith))

/-- Where a multiple lies in the interval, a neighbour of the magnitude is found. -/
theorem onGrid?_isSome_of_holds (tie : Tie) (hx : x.significand ≠ 0) {b : ℕ} (hb : 0 < b) {k : ℤ}
    (h : x.interval.Holds (b * 10 ^ k)) : (x.interval.onGrid? tie k).isSome := by
  obtain ⟨c, hbelow, habove, hfound⟩ := x.interval.onGrid?_isSome tie k
  have hcenter := holds_center hx
  have hstep : (0 : ℚ) < 10 ^ k := by positivity
  apply hfound
  rcases Nat.lt_or_ge c b with hlt | hge
  · have hcast : ((c + 1 : ℕ) : ℚ) ≤ b := by exact_mod_cast hlt
    exact .inr (hcenter.between h habove.le (mul_le_mul_of_nonneg_right hcast hstep.le))
  · have hcast : (b : ℚ) ≤ c := by exact_mod_cast hge
    exact .inl ⟨by omega, h.between hcenter (mul_le_mul_of_nonneg_right hcast hstep.le) hbelow⟩

/-- The shortest digits come from the coarsest grid where some are found. -/
theorem exists_shortest_eq (tie : Tie) (hx : x.significand ≠ 0) :
    ∃ d : Digits, ∃ n < 17, x.interval.shortest tie = d.trim 20 ∧
      d.exponent = x.interval.decimalPoint - (n + 1 : ℕ) ∧ 0 < d.coefficient ∧
      x.interval.Holds d.value ∧
      ∀ i < n, ∀ b : ℕ, 0 < b →
        ¬x.interval.Holds (b * 10 ^ (x.interval.decimalPoint - (i + 1 : ℕ))) := by
  let grid (n : ℕ) := x.interval.onGrid? tie (x.interval.decimalPoint - (n + 1 : ℕ))
  have hsome : ((List.range 17).findSome? grid).isSome := by
    rw [List.findSome?_isSome_iff]
    exact ⟨16, by simp, onGrid?_seventeen tie hx⟩
  obtain ⟨d, hd⟩ := Option.isSome_iff_exists.mp hsome
  obtain ⟨n, hn, hfound, hnone⟩ := findSome?_range_first hd
  obtain ⟨hpos, hholds⟩ := x.interval.onGrid?_spec hfound
  refine ⟨d, n, hn, ?_, x.interval.onGrid?_exponent hfound, hpos, hholds, fun i hi b hb hgrid => ?_⟩
  · show (((List.range 17).findSome? grid).getD ⟨0, 0⟩).trim 20 = _
    rw [hd]
    rfl
  · have hfirst := onGrid?_isSome_of_holds tie hx hb hgrid
    have hempty : grid i = none := hnone i hi
    rw [show x.interval.onGrid? tie _ = none from hempty] at hfirst
    cases hfirst

namespace IsRounded

variable {v : ℚ} {c k : ℕ}

/-- A number of few digits has places far above the last bit. -/
theorem place_lt (h : x.IsRounded v) (hc₀ : 0 < c) (hc : c < 10 ^ 15) (hk : k ≤ 250)
    (hv : |v| = c * 10 ^ (-k : ℤ)) :
    x.place < 10 ^ (-k : ℤ) / 2 ∧ 10 ^ (-k : ℤ) ≤ 2 * x.interval.center ∧
      x.place ≤ x.interval.center / 100 := by
  have hstep : (0 : ℚ) < 10 ^ (-k : ℤ) := by positivity
  have hquantum : quantum ≤ 10 ^ (-k : ℤ) / 400 := by
    rw [zpow_neg, zpow_natCast, inv_eq_one_div, div_div, le_div_iff₀ (by positivity),
      mul_comm _ (400 : ℚ)]
    exact quantum_mul_le hk
  have hupper : (c : ℚ) * 10 ^ (-k : ℤ) < 10 ^ 15 * 10 ^ (-k : ℤ) :=
    mul_lt_mul_of_pos_right (by exact_mod_cast hc) hstep
  have hlower : (10 : ℚ) ^ (-k : ℤ) ≤ c * 10 ^ (-k : ℤ) :=
    le_mul_of_one_le_left hstep.le (by exact_mod_cast hc₀)
  have hholds := hv ▸ h.holds
  have hlow := hholds.center_sub_le
  have hhigh := hholds.le_center_add
  have hbelow := reachBelow_le (x := x)
  have habove := reachAbove_eq (x := x)
  have hsize := place_le (x := x)
  refine ⟨?_, ?_, ?_⟩ <;> linarith

theorem significand_ne_zero (h : x.IsRounded v) (hc₀ : 0 < c) (hc : c < 10 ^ 15) (hk : k ≤ 250)
    (hv : |v| = c * 10 ^ (-k : ℤ)) : x.significand ≠ 0 := by
  obtain ⟨-, hcenter, -⟩ := h.place_lt hc₀ hc hk hv
  have hstep : (0 : ℚ) < 10 ^ (-k : ℤ) := by positivity
  intro hzero
  rw [center_eq, hzero, Nat.cast_zero, zero_mul] at hcenter
  linarith

section

variable {d : Digits} (h : x.IsRounded v) (hten : c % 10 ≠ 0) (hc : c < 10 ^ 15) (hk : k ≤ 250)
  (hv : |v| = c * 10 ^ (-k : ℤ)) (hd : x.interval.Holds d.value)

include h hten hc hk hv hd

/-- Digits of the coarsest grid are those of the number and zeros, if its places are coarser. -/
theorem trim_of_lt (hcoarsest : d.exponent = x.interval.decimalPoint - 1)
    (hlt : d.exponent < -k) : d.trim 20 = ⟨c, -(k : ℤ)⟩ := by
  obtain ⟨-, hcenter, hfine⟩ := h.place_lt (by omega) hc hk hv
  have hsignificand := h.significand_ne_zero (by omega) hc hk hv
  have hpoint := x.interval.lt_decimalPoint
    (Nat.mul_pos (Nat.pos_of_ne_zero hsignificand) (Nat.two_pow_pos _))
  have hnear := abs_sub_le_place hd (hv ▸ h.holds)
  have hstep : (0 : ℚ) < 10 ^ d.exponent := by positivity
  have hunit : (10 : ℚ) ^ x.interval.decimalPoint = (10 ^ 1 : ℕ) * 10 ^ d.exponent :=
    ten_zpow_eq (by omega)
  obtain ⟨r, hr⟩ : ∃ r : ℕ, -k = r + d.exponent := ⟨(-k - d.exponent).toNat, by omega⟩
  have hsteps := ten_zpow_eq hr
  have hfew : r ≤ 1 := by
    by_contra hmany
    have hpow : (10 ^ 2 : ℕ) ≤ 10 ^ r := Nat.pow_le_pow_right (by norm_num) (by omega)
    have hcast : ((10 ^ 2 : ℕ) : ℚ) ≤ (10 ^ r : ℕ) := by exact_mod_cast hpow
    have hlarge := mul_le_mul_of_nonneg_right hcast hstep.le
    rw [← hsteps] at hlarge
    push_cast at hlarge hunit
    linarith
  have hless : x.place < 10 ^ d.exponent := by
    push_cast at hunit
    linarith
  rw [Digits.value, hsteps, ← mul_assoc, ← Nat.cast_mul c (10 ^ r)] at hnear
  have hcoefficient := eq_of_abs_sub_lt (hnear.trans_lt hless)
  rw [show d = ⟨c * 10 ^ r, d.exponent⟩ by rw [← hcoefficient],
    Digits.trim_mul_pow hten (by omega), hr, add_comm]

/-- Digits of the number's places or coarser ones are those of the number. -/
theorem trim_of_le (hle : -k ≤ d.exponent) : d.trim 20 = ⟨c, -(k : ℤ)⟩ := by
  obtain ⟨hplace, -, -⟩ := h.place_lt (by omega) hc hk hv
  have hnear := abs_sub_le_place hd (hv ▸ h.holds)
  have hstep : (0 : ℚ) < 10 ^ (-k : ℤ) := by positivity
  have hless : x.place < 10 ^ (-k : ℤ) := by linarith
  obtain ⟨r, hr⟩ : ∃ r : ℕ, d.exponent = r + (-k : ℤ) := ⟨(d.exponent + k).toNat, by omega⟩
  rw [Digits.value, ten_zpow_eq hr, ← mul_assoc, ← Nat.cast_mul] at hnear
  have hsame : d.coefficient * 10 ^ r = c := eq_of_abs_sub_lt (hnear.trans_lt hless)
  have hr₀ : r = 0 := by
    by_contra hne
    obtain ⟨j, rfl⟩ : ∃ j, r = j + 1 := ⟨r - 1, by omega⟩
    rw [Nat.pow_succ, ← Nat.mul_assoc] at hsame
    omega
  rw [hr₀, Nat.cast_zero, zero_add] at hr
  rw [hr₀] at hsame
  have hdone := Digits.trim_mul_pow hten (Nat.zero_le 20) (-(k : ℤ))
  rw [Nat.cast_zero, add_zero, Nat.pow_zero, Nat.mul_one] at hdone
  rw [← hdone, ← hsame, Nat.pow_zero, Nat.mul_one, ← hr]

end

/-- The shortest digits of a double are the few digits of a number that it comes from. -/
theorem shortest_eq (h : x.IsRounded v) (tie : Tie) (hten : c % 10 ≠ 0) (hc : c < 10 ^ 15)
    (hk : k ≤ 250) (hv : |v| = c * 10 ^ (-k : ℤ)) :
    x.interval.shortest tie = ⟨c, -(k : ℤ)⟩ := by
  obtain ⟨d, n, -, hshortest, hexponent, -, hdigits, hfirst⟩ :=
    exists_shortest_eq tie (h.significand_ne_zero (by omega) hc hk hv)
  rw [hshortest]
  rcases Int.lt_or_le d.exponent (-k) with hlt | hle
  · have hn : n = 0 := x.interval.first_of_holds (by omega) (hv ▸ h.holds) hfirst (by omega)
    exact h.trim_of_lt hten hc hk hv hdigits (by omega) hlt
  · exact h.trim_of_le hten hc hk hv hdigits hle

end IsRounded

end Finite64

/-! ## Texts of few digits -/

namespace PlainDecimal

variable {c k : ℕ}

theorem padded_of_lt (h : k < (Nat.toDigits 10 c).length) : padded k c = Nat.toDigits 10 c := by
  unfold padded
  rw [Nat.sub_eq_zero_of_le h]
  rfl

theorem padded_of_le (h : (Nat.toDigits 10 c).length ≤ k) : padded k c =
    '0' :: (List.replicate (k - (Nat.toDigits 10 c).length) '0' ++ Nat.toDigits 10 c) := by
  unfold padded
  rw [Nat.succ_sub h]
  rfl

/-- Digits with a point among them or before them are set like those of a number with places. -/
theorem positionalText_eq (layout : NumberLayout) (hk : 0 < k) :
    layout.positionalText (toString c) ((Nat.toDigits 10 c).length - k) = (ofScaled k c).text := by
  have hsign : (ofScaled k c).negative = false := by
    show decide ((c : ℤ) < 0) = false
    exact decide_eq_false (by omega)
  have hsize : (toString c).length = (Nat.toDigits 10 c).length := by
    rw [← String.length_toList, toList_toString_nat]
  have hfraction : (ofScaled k c).fraction.isEmpty = false := by
    rw [List.isEmpty_eq_false_iff, ← List.length_pos_iff, length_fraction_ofScaled]
    exact hk
  refine String.ext ?_
  rw [text, String.toList_ofList, chars, hsign, unsigned, hfraction]
  show _ = (padded k c).take ((padded k c).length - k) ++
    '.' :: (padded k c).drop ((padded k c).length - k)
  unfold NumberLayout.positionalText
  simp only [hsize]
  rcases Nat.lt_or_ge k (Nat.toDigits 10 c).length with hlt | hge
  · have hpoint :
        (((Nat.toDigits 10 c).length : ℤ) - k).toNat = (Nat.toDigits 10 c).length - k := by
      omega
    rw [if_neg (by omega), if_neg (by omega), padded_of_lt hlt, hpoint]
    simp only [toList_toString_nat, String.toList_append, String.toList_ofList, List.append_assoc]
    rfl
  · have hpoint : (-(((Nat.toDigits 10 c).length : ℤ) - k)).toNat =
        k - (Nat.toDigits 10 c).length := by
      omega
    have hone : ('0' :: (List.replicate (k - (Nat.toDigits 10 c).length) '0' ++
        Nat.toDigits 10 c)).length - k = 1 := by
      rw [List.length_cons, List.length_append, List.length_replicate]
      omega
    rw [if_pos (by omega), padded_of_le hge, hpoint, hone]
    simp [NumberLayout.zeros]

/-- The sign stands before the text of the magnitude. -/
theorem text_ofScaled_natAbs (n : ℤ) :
    (ofScaled k n).text = (if n < 0 then "-" else "") ++ (ofScaled k n.natAbs).text := by
  have hsign : decide ((n.natAbs : ℤ) < 0) = false := decide_eq_false (by omega)
  rw [text_eq, text_eq]
  simp only [ofScaled, Int.natAbs_natCast, hsign, decide_eq_true_eq, Bool.false_eq_true, if_false,
    String.empty_append, String.append_assoc]
  rfl

/-- The text has the digits, the point and the sign of a number only. -/
theorem not_mem_chars (s : PlainDecimal) : 'e' ∉ s.chars := by
  have hdigits {cs : List Char} (h : AreDigits cs) : 'e' ∉ cs := fun he => by
    have hdigit := h 'e' he
    cases hdigit
  have hwhole := hdigits s.areDigits_whole
  have hfraction := hdigits s.areDigits_fraction
  unfold chars unsigned
  cases s.negative <;> cases s.fraction.isEmpty <;> simp_all

theorem ne_text_of_mem (s : PlainDecimal) {t : String} (h : 'e' ∈ t.toList) : t ≠ s.text := by
  rintro rfl
  rw [text, String.toList_ofList] at h
  exact s.not_mem_chars h

/-- The places can be told from the text. -/
theorem length_fraction_eq {s t : PlainDecimal} (hs : s.fraction ≠ []) (ht : t.fraction ≠ [])
    (h : s.text = t.text) : s.fraction.length = t.fraction.length := by
  have hpoint (u : PlainDecimal) (hu : u.fraction ≠ []) :
      u.chars.dropWhile (· != '.') = '.' :: u.fraction := by
    have hwhole : ∀ c ∈ u.whole, (c != '.') = true :=
      fun c hc => u.areDigits_whole.ne_mark hc (by decide)
    have hempty : u.fraction.isEmpty = false := List.isEmpty_eq_false_iff.mpr hu
    unfold chars unsigned
    rw [hempty]
    cases u.negative <;> simp [List.dropWhile_append_of_pos hwhole]
  have hchars : s.chars = t.chars := by
    have hlists := congrArg String.toList h
    rwa [text, text, String.toList_ofList, String.toList_ofList] at hlists
  have hfractions := congrArg (List.dropWhile (· != '.')) hchars
  rw [hpoint s hs, hpoint t ht] at hfractions
  rw [(List.cons.inj hfractions).2]

theorem places_eq {j : ℕ} {m n : ℤ} (hj : 0 < j) (hk : 0 < k)
    (h : (ofScaled j m).text = (ofScaled k n).text) : j = k := by
  have hne {i : ℕ} {a : ℤ} (hi : 0 < i) : (ofScaled i a).fraction ≠ [] := by
    rw [← List.length_pos_iff, length_fraction_ofScaled]
    exact hi
  have hlength := length_fraction_eq (hne hj) (hne hk) h
  rwa [length_fraction_ofScaled, length_fraction_ofScaled] at hlength

end PlainDecimal

/-! ## Doubles of few digits as text -/

theorem mem_scientificText (layout : NumberLayout) (hmark : 'e' ∈ layout.exponentMark.toList)
    (digits : String) (point : ℤ) : 'e' ∈ (layout.scientificText digits point).toList := by
  unfold NumberLayout.scientificText
  simp only
  have hexponent : 'e' ∈ ((if point - 1 < 0 then "e-" else layout.exponentMark) ++
      toString (point - 1).natAbs).toList := by
    rw [String.toList_append]
    refine List.mem_append_left _ ?_
    split
    · decide
    · exact hmark
  generalize (if point - 1 < 0 then "e-" else layout.exponentMark) ++
    toString (point - 1).natAbs = exponent at hexponent ⊢
  split
  · exact hexponent
  · rw [String.toList_append]
    exact List.mem_append_right _ hexponent
  · rw [String.toList_append]
    exact List.mem_append_right _ hexponent

/-- Whether digits with places are set without an exponent. -/
theorem positional_iff {c k : ℕ} (hc₀ : 0 < c) (hc : c < 10 ^ 15) :
    jsonNumber.positional ((Nat.toDigits 10 c).length - k) = true ↔ 10 ^ k ≤ c * 10 ^ 5 := by
  have hlength : decimalLength c = (Nat.toDigits 10 c).length := if_neg hc₀.ne'
  have hlower := ten_pow_decimalLength_le hc₀
  have hupper := lt_ten_pow_decimalLength c
  have hpos : 0 < (Nat.toDigits 10 c).length := Nat.length_toDigits_pos
  have hshort : (Nat.toDigits 10 c).length ≤ 15 :=
    (Nat.length_toDigits_le_iff (by norm_num) (by norm_num)).mpr hc
  rw [hlength] at hlower hupper
  simp only [jsonNumber, Bool.and_eq_true, decide_eq_true_eq]
  generalize (Nat.toDigits 10 c).length = l at *
  constructor
  · rintro ⟨hpoint, -⟩
    calc 10 ^ k ≤ 10 ^ (l - 1 + 5) := Nat.pow_le_pow_right (by norm_num) (by omega)
      _ = 10 ^ (l - 1) * 10 ^ 5 := Nat.pow_add ..
      _ ≤ c * 10 ^ 5 := Nat.mul_le_mul_right _ hlower
  · intro h
    refine ⟨?_, by omega⟩
    have hless : 10 ^ k < 10 ^ (l + 5) := by
      calc 10 ^ k ≤ c * 10 ^ 5 := h
        _ < 10 ^ l * 10 ^ 5 := Nat.mul_lt_mul_of_pos_right hupper (by norm_num)
        _ = 10 ^ (l + 5) := (Nat.pow_add ..).symm
    have hk := (Nat.pow_lt_pow_iff_right (by norm_num)).mp hless
    omega

/-- Without the zeros at its end a number has fewer places. -/
theorem exists_fewer_places {n : ℤ} {k : ℕ} (hfraction : ¬(10 ^ k : ℤ) ∣ n) (hten : (10 : ℤ) ∣ n) :
    ∃ (m : ℤ) (r : ℕ), 0 < r ∧ r < k ∧ ¬(10 : ℤ) ∣ m ∧ n = 10 ^ r * m ∧
      (n / 10 ^ k : ℚ) = m / 10 ^ (k - r) := by
  have hn : n ≠ 0 := by
    rintro rfl
    exact hfraction (dvd_zero _)
  have hfinite : FiniteMultiplicity (10 : ℤ) n := Int.finiteMultiplicity_iff.mpr ⟨by decide, hn⟩
  obtain ⟨m, hnm, hm⟩ := hfinite.exists_eq_pow_mul_and_not_dvd
  generalize multiplicity (10 : ℤ) n = r at hnm
  have hr₀ : 0 < r := by
    by_contra hzero
    rw [Nat.eq_zero_of_not_pos hzero, pow_zero, one_mul] at hnm
    exact hm (hnm ▸ hten)
  have hr : r < k := by
    by_contra hge
    exact hfraction (hnm ▸ (pow_dvd_pow _ (not_lt.mp hge)).mul_right m)
  refine ⟨m, r, hr₀, hr, hm, hnm, ?_⟩
  have hsplit : (10 : ℚ) ^ k = 10 ^ r * 10 ^ (k - r) := by
    rw [← pow_add, Nat.add_sub_cancel' hr.le]
  rw [hnm, hsplit, Int.cast_mul, Int.cast_pow, Int.cast_ofNat,
    mul_div_mul_left _ _ (by positivity)]

namespace Finite64.IsRounded

variable {x : Finite64} {n : ℤ} {k : ℕ}

/-- A double of a number of few digits is written as the number is, or with an exponent. -/
theorem writeFinite_cases (h : x.IsRounded (n / 10 ^ k)) (hten : ¬(10 : ℤ) ∣ n)
    (hn : n.natAbs < 10 ^ 15) (hk₀ : 0 < k) (hk : k ≤ 250) :
    if 10 ^ k ≤ n.natAbs * 10 ^ 5 then jsonNumber.writeFinite x = (PlainDecimal.ofScaled k n).text
    else 'e' ∈ (jsonNumber.writeFinite x).toList := by
  have hpower : (0 : ℚ) < 10 ^ k := by positivity
  have hpos : 0 < n.natAbs := by omega
  have hv : |(n / 10 ^ k : ℚ)| = n.natAbs * 10 ^ (-k : ℤ) := by
    rw [abs_div_ten_pow, zpow_neg, zpow_natCast, div_eq_mul_inv]
  have hsign : x.negative = decide (n < 0) := by
    rcases Int.lt_or_gt_of_ne (show n ≠ 0 by omega) with hneg | hpos
    · rw [decide_eq_true hneg]
      exact h.negative_of_neg (div_neg_of_neg_of_pos (by exact_mod_cast hneg) hpower)
    · rw [decide_eq_false (by omega)]
      exact h.negative_of_pos (div_pos (by exact_mod_cast hpos) hpower)
  have hsize : (toString n.natAbs).length = (Nat.toDigits 10 n.natAbs).length := by
    rw [← String.length_toList, toList_toString_nat]
  have hpoint : ((Nat.toDigits 10 n.natAbs).length : ℤ) + -k =
      (Nat.toDigits 10 n.natAbs).length - k := by omega
  have hiff := positional_iff (k := k) hpos hn
  rw [writeFinite_eq, unsignedText, if_neg (h.significand_ne_zero hpos hn hk hv),
    h.shortest_eq .even (by omega) hn hk hv, NumberLayout.digitsText]
  simp only [hsize, hpoint, hsign]
  split
  · rename_i hlarge
    rw [if_pos (hiff.mpr hlarge), PlainDecimal.positionalText_eq _ hk₀,
      PlainDecimal.text_ofScaled_natAbs n]
    simp only [decide_eq_true_eq]
  · rename_i hsmall
    rw [if_neg (mt hiff.mp hsmall), String.toList_append]
    exact List.mem_append_right _ (mem_scientificText _ (by decide) _ _)

/-- A number with zeros at its end is written without them. -/
theorem writeFinite_ne_of_dvd (h : x.IsRounded (n / 10 ^ k)) (hn : n.natAbs < 10 ^ 15)
    (hk : k ≤ 250) (hfraction : ¬(10 ^ k : ℤ) ∣ n) (hten : (10 : ℤ) ∣ n) :
    jsonNumber.writeFinite x ≠ (PlainDecimal.ofScaled k n).text := by
  obtain ⟨m, r, hr₀, hr, hm, hnm, hvalue⟩ := exists_fewer_places hfraction hten
  have hless : m.natAbs < 10 ^ 15 := by
    rw [hnm, Int.natAbs_mul, Int.natAbs_pow] at hn
    exact (Nat.le_mul_of_pos_left _ (by positivity)).trans_lt hn
  rw [hvalue] at h
  have hcases := h.writeFinite_cases hm hless (by omega) (by omega)
  split at hcases
  · intro htext
    have hplaces := PlainDecimal.places_eq (by omega) (by omega) (hcases.symm.trans htext)
    omega
  · exact PlainDecimal.ne_text_of_mem _ hcases

/-- The text of a double is the text of a number of few digits that it comes from, provided that
the number has no zeros at the end and is not too small. -/
theorem writeFinite_eq_iff (h : x.IsRounded (n / 10 ^ k)) (hn : n.natAbs < 10 ^ 15) (hk : k ≤ 250)
    (hfraction : ¬(10 ^ k : ℤ) ∣ n) :
    jsonNumber.writeFinite x = (PlainDecimal.ofScaled k n).text ↔
      ¬(10 : ℤ) ∣ n ∧ 10 ^ k ≤ n.natAbs * 10 ^ 5 := by
  by_cases hten : (10 : ℤ) ∣ n
  · exact iff_of_false (h.writeFinite_ne_of_dvd hn hk hfraction hten) fun hboth => hboth.1 hten
  · have hk₀ : 0 < k := Nat.pos_of_ne_zero (by rintro rfl; simp at hfraction)
    have hcases := h.writeFinite_cases hten hn hk₀ hk
    split at hcases
    · rename_i hlarge
      exact iff_of_true hcases ⟨hten, hlarge⟩
    · rename_i hsmall
      exact iff_of_false (PlainDecimal.ne_text_of_mem _ hcases) fun hboth => hsmall hboth.2

end Finite64.IsRounded

end TableQuery
