import TableQuery.Proofs.Numeric.Rounding

/-!
# The double nearest to a number

A quotient is rounded to 53 significant bits. What comes out is a finite double of that magnitude,
or it is too large for one. Whole numbers below `2 ^ 53` are kept as they are, and rounding takes no
larger one below that bound.

* `roundedQuotient`: the quotient with 53 significant bits.
* `Binary64.ofRatio_cases`: the double nearest to a quotient.
* `Binary64.ofNat_cases`: the double nearest to a whole number.
* `Binary64.lt_ofNat_iff`: a double below `2 ^ 53` is below a whole number if it is below the double
  nearest to it.
-/

namespace TableQuery

/-! ## Quotients -/

theorem roundQuotient_bounds (n d : ℕ) :
    n / d ≤ roundQuotient n d ∧ roundQuotient n d ≤ n / d + 1 := by
  unfold roundQuotient
  simp only
  split
  · omega
  · split
    · omega
    · split <;> omega

/-- A quotient without a rest is not rounded. -/
theorem roundQuotient_of_dvd {n d : ℕ} (hd : 0 < d) (h : d ∣ n) : roundQuotient n d = n / d := by
  unfold roundQuotient
  simp only [Nat.mod_eq_zero_of_dvd h]
  rw [if_pos (by omega)]

/-- The binary places that a quotient loses when its first 53 bits are kept. -/
def lostPlaces (n d : ℕ) : ℕ := (n / d).log2 - 52

/-- The quotient rounded to 53 significant bits. -/
def roundedQuotient (n d : ℕ) : ℕ :=
  roundQuotient n (d * 2 ^ lostPlaces n d) * 2 ^ lostPlaces n d

theorem lt_two_pow_lostPlaces (n d : ℕ) : n / d < 2 ^ (53 + lostPlaces n d) := by
  refine Nat.lt_log2_self.trans_le (Nat.pow_le_pow_right (by norm_num) ?_)
  unfold lostPlaces
  omega

/-- The significand has at most 53 bits, or it is the next power of two, and it has all 53 bits
where places are lost. -/
theorem significand_bounds (n d : ℕ) :
    roundQuotient n (d * 2 ^ lostPlaces n d) ≤ 2 ^ 53 ∧
      (lostPlaces n d = 0 ∨ 2 ^ 52 ≤ roundQuotient n (d * 2 ^ lostPlaces n d)) := by
  obtain ⟨hlow, hhigh⟩ := roundQuotient_bounds n (d * 2 ^ lostPlaces n d)
  have hupper : n / (d * 2 ^ lostPlaces n d) < 2 ^ 53 := by
    rw [← Nat.div_div_eq_div_mul, Nat.div_lt_iff_lt_mul (Nat.two_pow_pos _), ← Nat.pow_add]
    exact lt_two_pow_lostPlaces n d
  refine ⟨by omega, ?_⟩
  rcases Nat.eq_zero_or_pos (lostPlaces n d) with hzero | hpos
  · exact .inl hzero
  · have hlog : 52 + lostPlaces n d = (n / d).log2 := by
      unfold lostPlaces at hpos ⊢
      omega
    have hne : n / d ≠ 0 := by
      intro hzero
      rw [hzero, Nat.log2_zero] at hlog
      omega
    have hlower : 2 ^ 52 ≤ n / (d * 2 ^ lostPlaces n d) := by
      rw [← Nat.div_div_eq_div_mul, Nat.le_div_iff_mul_le (Nat.two_pow_pos _), ← Nat.pow_add, hlog]
      exact Nat.log2_self_le hne
    exact .inr (hlower.trans hlow)

/-- Powers of two that a quotient has reached stay below it. -/
theorem two_pow_le_roundedQuotient {n d j : ℕ} (h : 2 ^ j ≤ n / d) :
    2 ^ j ≤ roundedQuotient n d := by
  have hne : n / d ≠ 0 := (Nat.two_pow_pos j).trans_le h |>.ne'
  have hj : j ≤ (n / d).log2 := (Nat.le_log2 hne).mpr h
  unfold roundedQuotient
  rcases (significand_bounds n d).2 with hzero | hfull
  · rw [hzero, Nat.pow_zero, Nat.mul_one, Nat.mul_one]
    exact h.trans (roundQuotient_bounds n d).1
  · calc 2 ^ j ≤ 2 ^ (52 + lostPlaces n d) := by
          refine Nat.pow_le_pow_right (by norm_num) ?_
          unfold lostPlaces
          omega
      _ = 2 ^ 52 * 2 ^ lostPlaces n d := Nat.pow_add ..
      _ ≤ roundQuotient n (d * 2 ^ lostPlaces n d) * 2 ^ lostPlaces n d :=
        Nat.mul_le_mul_right _ hfull

theorem log2_mul_two_pow_le {n j : ℕ} (h : n < 2 ^ (j + 1)) (k : ℕ) :
    (n * 2 ^ k).log2 ≤ j + k := by
  by_cases hn : n = 0
  · rw [hn, Nat.zero_mul, Nat.log2_zero]
    exact Nat.zero_le _
  · have hpos := Nat.two_pow_pos k
    rw [← Nat.lt_succ_iff, Nat.log2_lt (Nat.mul_ne_zero hn hpos.ne'), Nat.succ_eq_add_one,
      Nat.add_right_comm, Nat.pow_add]
    exact Nat.mul_lt_mul_of_pos_right h hpos

/-- A number of 53 bits with zeros after them is not rounded. -/
theorem roundedQuotient_scaled {n : ℕ} (h : n < 2 ^ 53) (k : ℕ) :
    roundedQuotient (n * 2 ^ k) 1 = n * 2 ^ k := by
  have hlost : lostPlaces (n * 2 ^ k) 1 ≤ k := by
    have := log2_mul_two_pow_le (j := 52) h k
    unfold lostPlaces
    rw [Nat.div_one]
    omega
  have hdvd : 2 ^ lostPlaces (n * 2 ^ k) 1 ∣ n * 2 ^ k :=
    Dvd.dvd.mul_left (Nat.pow_dvd_pow 2 hlost) n
  unfold roundedQuotient
  rw [Nat.one_mul, roundQuotient_of_dvd (Nat.two_pow_pos _) hdvd]
  exact Nat.div_mul_cancel hdvd

theorem two_pow_le_roundedQuotient_scaled {n j : ℕ} (h : 2 ^ j ≤ n) (k : ℕ) :
    2 ^ j * 2 ^ k ≤ roundedQuotient (n * 2 ^ k) 1 := by
  rw [← Nat.pow_add]
  refine two_pow_le_roundedQuotient ?_
  rw [Nat.div_one, Nat.pow_add]
  exact Nat.mul_le_mul_right _ h

/-! ## Doubles -/

theorem quantaPerUnit_eq : quantaPerUnit = 2 ^ 1074 := by
  rw [quantaPerUnit]

namespace Binary64

/-- Fields of a magnitude are those of a double, or the exponent is too large. -/
theorem pack_cases (s : Bool) {m e : ℕ} (h : e ≤ 2045 → CanonicalDouble m e) :
    pack s m e = .infinite s ∧ 2045 < e ∨
      ∃ x : Finite64, pack s m e = .finite x ∧ x.negative = s ∧ x.magnitude = m * 2 ^ e := by
  unfold pack
  by_cases he : e ≤ 2045
  · rw [dif_pos (h he)]
    exact .inr ⟨_, rfl, rfl, rfl⟩
  · rw [dif_neg fun hc => he hc.2.1]
    exact .inl ⟨rfl, by omega⟩

theorem ofRatio_eq (s : Bool) (n d : ℕ) :
    ofRatio s n d = if roundQuotient n (d * 2 ^ lostPlaces n d) = 2 ^ 53 then
        pack s (2 ^ 52) (lostPlaces n d + 1)
      else pack s (roundQuotient n (d * 2 ^ lostPlaces n d)) (lostPlaces n d) :=
  rfl

/-- The double nearest to a quotient has its magnitude with 53 significant bits, or the quotient is
too large. -/
theorem ofRatio_cases (s : Bool) (n d : ℕ) :
    ofRatio s n d = .infinite s ∧ 2097 ≤ (n / d).log2 ∨
      ∃ x : Finite64, ofRatio s n d = .finite x ∧ x.negative = s ∧
        x.magnitude = roundedQuotient n d := by
  obtain ⟨hupper, hfull⟩ := significand_bounds n d
  have hlog (h : 2045 ≤ lostPlaces n d) : 2097 ≤ (n / d).log2 := by
    unfold lostPlaces at h
    omega
  rw [ofRatio_eq]
  split
  · rename_i hcarry
    have hmagnitude : 2 ^ 52 * 2 ^ (lostPlaces n d + 1) = roundedQuotient n d := by
      unfold roundedQuotient
      rw [hcarry]
      ring
    rw [← hmagnitude]
    rcases pack_cases s fun h => ⟨by norm_num, h, .inr le_rfl⟩ with ⟨hinfinite, he⟩ | hfinite
    · exact .inl ⟨hinfinite, hlog (by omega)⟩
    · exact .inr hfinite
  · rename_i hbits
    rcases pack_cases s fun h => ⟨by omega, h, hfull⟩ with ⟨hinfinite, he⟩ | hfinite
    · exact .inl ⟨hinfinite, hlog he.le⟩
    · exact .inr hfinite

/-- Words of 64 bits are finite as doubles. -/
theorem isFinite_ofRatio_word (s : Bool) {n : ℕ} (h : n < 2 ^ 64) :
    (ofRatio s (n * quantaPerUnit) 1).isFinite = true := by
  have hlog := log2_mul_two_pow_le (j := 63) h 1074
  rw [← quantaPerUnit_eq] at hlog
  rcases ofRatio_cases s (n * quantaPerUnit) 1 with ⟨-, hlarge⟩ | ⟨x, hx, -, -⟩
  · rw [Nat.div_one] at hlarge
    omega
  · rw [hx]
    rfl

/-- A whole number below `2 ^ 53` is a double. A larger one may be rounded, but not below that, or
it is too large. -/
theorem ofNat_cases (n : ℕ) :
    ofNat n = .infinite false ∧ 2 ^ 53 ≤ n ∨
      ∃ x : Finite64, ofNat n = .finite x ∧ x.negative = false ∧
        (n < 2 ^ 53 → x.magnitude = n * quantaPerUnit) ∧
        (2 ^ 53 ≤ n → 2 ^ 53 * quantaPerUnit ≤ x.magnitude) := by
  rcases ofRatio_cases false (n * quantaPerUnit) 1 with ⟨hx, hlarge⟩ | ⟨x, hx, hsign, hmagnitude⟩
  · refine .inl ⟨hx, Nat.le_of_not_lt fun h => ?_⟩
    have hlog := log2_mul_two_pow_le (j := 52) h 1074
    rw [← quantaPerUnit_eq] at hlog
    rw [Nat.div_one] at hlarge
    omega
  · refine .inr ⟨x, hx, hsign, fun h => ?_, fun h => ?_⟩
    · have hexact := roundedQuotient_scaled h 1074
      rwa [← quantaPerUnit_eq, ← hmagnitude] at hexact
    · have hfloor := two_pow_le_roundedQuotient_scaled h 1074
      rwa [← quantaPerUnit_eq, ← hmagnitude] at hfloor

/-- A double below `2 ^ 53` is below a whole number if it is below the double nearest to it. -/
theorem lt_ofNat_iff {t : Finite64} (ht : t.quanta < (2 ^ 53 * quantaPerUnit : ℕ)) (n : ℕ) :
    (finite t).lt (ofNat n) = true ↔ t.quanta < (n * quantaPerUnit : ℕ) := by
  have hmul (h : 2 ^ 53 ≤ n) : 2 ^ 53 * quantaPerUnit ≤ n * quantaPerUnit :=
    Nat.mul_le_mul_right quantaPerUnit h
  have hcases := ofNat_cases n
  generalize 2 ^ 53 * quantaPerUnit = bound at ht hmul hcases
  generalize n * quantaPerUnit = whole at hmul hcases
  rcases hcases with ⟨hn, hlarge⟩ | ⟨x, hn, hsign, hsmall, hlarge⟩
  · have := hmul hlarge
    rw [hn]
    exact ⟨fun _ => by omega, fun _ => rfl⟩
  · have hquanta : x.quanta = x.magnitude := by
      unfold Finite64.quanta
      rw [hsign]
      rfl
    rw [hn, lt, hquanta, decide_eq_true_iff]
    by_cases h : n < 2 ^ 53
    · rw [hsmall h]
    · have := hmul (by omega)
      have := hlarge (by omega)
      omega

end Binary64

/-- An integer of at most eighteen digits has 64 bits. -/
theorem int64_of_abs_lt {i : ℤ} (h : |i| < 10 ^ 18) : minInt64 ≤ i ∧ i ≤ maxInt64 := by
  rw [abs_lt] at h
  unfold minInt64 maxInt64
  omega

end TableQuery
