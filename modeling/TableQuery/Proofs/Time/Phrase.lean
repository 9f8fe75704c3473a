import Mathlib.Data.List.TakeWhile
import TableQuery.Proofs.Numeric.Numeral
import TableQuery.Time.Phrase

/-!
# Spans read back from their texts

Settings write a span as a whole number of seconds or milliseconds, and read any phrase of amounts
with units.

* `Duration.parse?_amount`: a whole number with a unit is so many units, unless that is beyond the
  seconds of a word.
* `Duration.parse?_text`: the text of a span is read as its whole milliseconds.
-/

namespace TableQuery

/-! ## Letters and digits -/

/-- The foreign digits are beyond ASCII. -/
theorem isForeignDigit_eq_false {c : Char} (h : c.toNat < 128) : isForeignDigit c = false := by
  have hzeros : ∀ first ∈ foreignZeros, 128 ≤ first := by decide
  unfold isForeignDigit
  rw [List.any_eq_false]
  intro first hfirst
  have := hzeros first hfirst
  simp only [Bool.and_eq_true, decide_eq_true_eq, not_and]
  omega

theorem toNat_of_isDigit {c : Char} (h : c.isDigit = true) : 48 ≤ c.toNat ∧ c.toNat ≤ 57 :=
  Char.isDigit_iff_toNat.mp h

theorem toNat_of_isAlpha {c : Char} (h : c.isAlpha = true) : 65 ≤ c.toNat ∧ c.toNat ≤ 122 := by
  unfold Char.isAlpha Char.isUpper Char.isLower at h
  simp only [Bool.or_eq_true, Bool.and_eq_true, decide_eq_true_eq, UInt32.le_iff_toNat_le,
    ge_iff_le] at h
  have hleast : 'A'.val.toNat = 65 ∧ 'a'.val.toNat = 97 := ⟨rfl, rfl⟩
  have hmost : 'Z'.val.toNat = 90 ∧ 'z'.val.toNat = 122 := ⟨rfl, rfl⟩
  have hc : c.toNat = c.val.toNat := rfl
  omega

theorem isWordChar_of_isDigit {c : Char} (h : c.isDigit = true) : isWordChar c = true := by
  simp [isWordChar, Char.isAlphanum, h]

theorem isUnitChar_of_isAlpha {c : Char} (h : c.isAlpha = true) : isUnitChar c = true := by
  have hdigit : c.isDigit = false := by
    rw [Bool.eq_false_iff]
    intro hdigit
    have := toNat_of_isAlpha h
    have := toNat_of_isDigit hdigit
    omega
  simp [isUnitChar, isWordChar, Char.isAlphanum, h, hdigit]

/-- Letters of ASCII that do not begin like an exponent. -/
structure IsUnitName (name : List Char) : Prop where
  letters : ∀ c ∈ name, c.isAlpha = true
  nonempty : name ≠ []
  notExponent : name.head?.all (·.toLower != 'e')

/-! ## Amounts -/

section

variable {digits name : List Char}

namespace IsUnitName

theorem isUnitChar (h : IsUnitName name) : ∀ c ∈ name, TableQuery.isUnitChar c = true :=
  fun c hc => isUnitChar_of_isAlpha (h.letters c hc)

/-- The first letter begins a word and goes on with no number. -/
theorem exists_cons (h : IsUnitName name) : ∃ c rest, name = c :: rest ∧ isWordChar c = true ∧
    c.isDigit = false ∧ c ≠ '.' ∧ (c.toLower != 'e') = true := by
  obtain ⟨c, rest, rfl⟩ := List.exists_cons_of_ne_nil h.nonempty
  have hunit := h.isUnitChar c List.mem_cons_self
  simp only [TableQuery.isUnitChar, Bool.and_eq_true, Bool.not_eq_true'] at hunit
  refine ⟨c, rest, rfl, hunit.1, hunit.2, ?_, by simpa using h.notExponent⟩
  rintro rfl
  exact absurd (h.letters '.' List.mem_cons_self) (by decide)

end IsUnitName

namespace Amount

theorem readExponent_of_isUnitName (h : IsUnitName name) : readExponent name = (none, name) := by
  obtain ⟨c, rest, rfl, -, -, -, hc⟩ := h.exists_cons
  unfold readExponent
  simp only [hc, Bool.true_or, if_true]

theorem readUnit_of_isUnitName (h : IsUnitName name) :
    readUnit name = (some (String.ofList name), []) := by
  have hdrop : name.dropWhile (!isWordChar ·) = name := by
    obtain ⟨c, rest, rfl, hc, -⟩ := h.exists_cons
    rw [List.dropWhile_cons_of_neg (by simp [hc])]
  have htake := List.takeWhile_eq_self_iff.mpr h.isUnitChar
  have hrest := List.dropWhile_eq_nil_iff.mpr h.isUnitChar
  unfold readUnit
  simp only [hdrop, htake, hrest, List.isEmpty_iff, if_neg h.nonempty]

/-- Digits with the letters of a unit behind them are read as one amount. -/
theorem read_digits (hdigits : AreDigits digits) (h : IsUnitName name) :
    read false (digits ++ name) = (⟨false, digits, [], none, some (String.ofList name)⟩, []) := by
  obtain ⟨c, rest, hname, -, hdigit, hpoint, -⟩ := h.exists_cons
  have hfirst : name.head?.all fun c => !c.isDigit := by simp [hname, hdigit]
  have htake := hdigits.takeWhile_append name hfirst
  have hdrop := hdigits.dropWhile_append name hfirst
  have hnone : AreDigits [] := fun _ h => absurd h List.not_mem_nil
  have hfraction := hnone.takeWhile_append name hfirst
  have hmore := hnone.dropWhile_append name hfirst
  rw [List.nil_append] at hfraction hmore
  unfold read
  simp only [htake, hdrop]
  split
  · cases hname
    exact absurd rfl hpoint
  · simp only [hfraction, hmore, readExponent_of_isUnitName h, readUnit_of_isUnitName h]

theorem scanAll_digits (hdigits : AreDigits digits) (hne : digits ≠ []) (h : IsUnitName name) :
    scanAll (digits ++ name).length (digits ++ name) =
      [⟨false, digits, [], none, some (String.ofList name)⟩] := by
  have hread := read_digits hdigits h
  obtain ⟨d, more, rfl⟩ := List.exists_cons_of_ne_nil hne
  have hd : d.isDigit = true := hdigits d List.mem_cons_self
  have hscan : scan? (d :: more ++ name) =
      some (⟨false, d :: more, [], none, some (String.ofList name)⟩, []) := by
    rw [List.cons_append, scan?]
    · rw [if_pos hd, ← List.cons_append, hread]
    · rintro _ _ rfl
      cases hd
  have hend (bound : ℕ) : scanAll bound [] = [] := by
    cases bound <;> rfl
  rw [List.cons_append, List.length_cons, scanAll, ← List.cons_append, hscan]
  simp only [hend]

end Amount

/-- What has a unit is no bare number of seconds. -/
theorem Duration.bareSeconds?_digits (hdigits : AreDigits digits) (hne : digits ≠ [])
    (h : IsUnitName name) : bareSeconds? (digits ++ name) = none := by
  obtain ⟨d, more, rfl⟩ := List.exists_cons_of_ne_nil hne
  have hd : d.isDigit = true := hdigits d List.mem_cons_self
  obtain ⟨c, rest, hname, hword, hdigit, -⟩ := h.exists_cons
  have hfirst : name.head?.all fun c => !c.isDigit := by simp [hname, hdigit]
  have htake := hdigits.takeWhile_append name hfirst
  have hdrop := hdigits.dropWhile_append name hfirst
  have hfiller : (d :: more ++ name).dropWhile (fun c => !isWordChar c && c != '-') =
      d :: more ++ name := by
    rw [List.cons_append, List.dropWhile_cons_of_neg (by simp [isWordChar_of_isDigit hd])]
  unfold bareSeconds?
  simp only [hfiller]
  split
  · rename_i heq
    cases heq
    cases hd
  · rw [htake, hdrop, if_pos (by simp [hname, hword])]

end

/-! ## Sums -/

theorem SignedSpan.add?_amount {digits : List Char} {name : String} {unit : TimeUnit}
    (h : TimeUnit.ofName? name = some unit) :
    (⟨0, 0⟩ : SignedSpan).add? ⟨false, digits, [], none, some name⟩ =
      some (if unit.isFine then ⟨0, digitsValue digits * unit.nanos⟩
        else ⟨digitsValue digits * (unit.nanos / 1000000000 : ℕ), 0⟩) := by
  unfold add?
  simp only [h, Option.bind_eq_bind, Option.bind_some, List.isEmpty_nil, Option.isNone_none,
    Bool.and_self, if_true, Bool.false_eq_true, if_false, zero_add]
  split <;> rfl

theorem SignedSpan.toDuration?_nanos (n : ℕ) : (⟨0, n⟩ : SignedSpan).toDuration? =
    if n / 1000000000 ≤ maxWord64 then some ⟨n⟩ else none := by
  have hdiv : (n : ℤ).tdiv 1000000000 = (n / 1000000000 : ℕ) := rfl
  have hmod : (n : ℤ).tmod 1000000000 = (n % 1000000000 : ℕ) := rfl
  have hsum : n / 1000000000 * 1000000000 + n % 1000000000 = n := Nat.div_add_mod' _ _
  unfold toDuration?
  simp only [hdiv, hmod, zero_add, Int.natCast_nonneg, Nat.cast_le, true_and, and_true,
    Int.toNat_natCast, hsum]

theorem SignedSpan.toDuration?_seconds (n : ℕ) : (⟨n, 0⟩ : SignedSpan).toDuration? =
    if n ≤ maxWord64 then some ⟨n * 1000000000⟩ else none := by
  unfold toDuration?
  simp only [Int.zero_tdiv, Int.zero_tmod, add_zero, Int.natCast_nonneg, Nat.cast_le, true_and,
    le_refl, and_true, Int.toNat_natCast, Int.toNat_zero]

/-- A unit that is not fine is a number of whole seconds. -/
theorem TimeUnit.seconds_mul {unit : TimeUnit} (h : unit.isFine = false) :
    unit.nanos / 1000000000 * 1000000000 = unit.nanos := by
  cases unit <;> first | rfl | cases h

/-- So many units. -/
theorem SignedSpan.toDuration?_units (n : ℕ) (unit : TimeUnit) :
    (if unit.isFine then (⟨0, n * unit.nanos⟩ : SignedSpan)
        else ⟨n * (unit.nanos / 1000000000 : ℕ), 0⟩).toDuration? =
      if n * unit.nanos / 1000000000 ≤ maxWord64 then some ⟨n * unit.nanos⟩ else none := by
  cases hfine : unit.isFine with
  | true =>
    rw [if_pos rfl, ← Nat.cast_mul, toDuration?_nanos]
  | false =>
    have hunit := TimeUnit.seconds_mul hfine
    have hnanos : n * unit.nanos = n * (unit.nanos / 1000000000) * 1000000000 := by
      rw [mul_assoc, hunit]
    rw [if_neg Bool.false_ne_true, ← Nat.cast_mul, toDuration?_seconds, hnanos,
      Nat.mul_div_cancel _ (by norm_num)]

namespace Duration

/-- A whole number with a unit is so many units, if its seconds are a word. -/
theorem parse?_amount {name : String} {unit : TimeUnit} (hname : IsUnitName name.toList)
    (h : TimeUnit.ofName? name = some unit) (n : ℕ) :
    parse? (toString n ++ name) =
      if n * unit.nanos / 1000000000 ≤ maxWord64 then some ⟨n * unit.nanos⟩ else none := by
  have hdigits := AreDigits.toDigits n
  have hne : Nat.toDigits 10 n ≠ [] := Nat.toDigits_ne_nil
  have htext : (toString n ++ name).toList = Nat.toDigits 10 n ++ name.toList := by
    rw [String.toList_append, toList_toString_nat]
  have hvalue : digitsValue (Nat.toDigits 10 n) = n := by
    rw [digitsValue_eq, Nat.ofDigitChars_toDigits (by norm_num) (by norm_num)]
  have hplain : (Nat.toDigits 10 n ++ name.toList).any isForeignDigit = false := by
    rw [List.any_eq_false]
    intro c hc
    rw [Bool.not_eq_true]
    refine isForeignDigit_eq_false ?_
    rcases List.mem_append.mp hc with hc | hc
    · exact (toNat_of_isDigit (hdigits c hc)).2.trans_lt (by norm_num)
    · exact (toNat_of_isAlpha (hname.letters c hc)).2.trans_lt (by norm_num)
  unfold parse?
  simp only [htext, hplain, Bool.false_eq_true, if_false, bareSeconds?_digits hdigits hne hname,
    Amount.scanAll_digits hdigits hne hname, String.ofList_toList, List.foldlM_cons, List.foldlM_nil,
    SignedSpan.add?_amount h, hvalue, Option.bind_eq_bind, Option.bind_some, Option.pure_def]
  exact SignedSpan.toDuration?_units n unit

example : parse? "7 weeks, 1.5e1h" = some (.ofSeconds (7 * 604800 + 54000)) := by decide +kernel

/-! ## Whole milliseconds -/

/-- The span without anything below a millisecond. -/
def wholeMillis (d : Duration) : Duration := .ofMillis d.millis

theorem wholeMillis_eq_self_iff {d : Duration} : d.wholeMillis = d ↔ 1000000 ∣ d.nanos := by
  obtain ⟨n⟩ := d
  simp only [wholeMillis, ofMillis, millis, mk.injEq]
  omega

@[simp] theorem wholeMillis_wholeMillis (d : Duration) : d.wholeMillis.wholeMillis = d.wholeMillis :=
  wholeMillis_eq_self_iff.mpr (Nat.dvd_mul_left _ _)

@[simp] theorem seconds_wholeMillis (d : Duration) : d.wholeMillis.seconds = d.seconds := by
  simp only [wholeMillis, ofMillis, millis, seconds]
  omega

/-- The text of a span is read as its whole milliseconds. -/
theorem parse?_text {d : Duration} (h : d.seconds ≤ maxWord64) :
    parse? d.text = some d.wholeMillis := by
  have hs : IsUnitName "s".toList := ⟨List.all_eq_true.mp rfl, by decide, rfl⟩
  have hms : IsUnitName "ms".toList := ⟨List.all_eq_true.mp rfl, by decide, rfl⟩
  have hsecond : TimeUnit.ofName? "s" = some .second := by decide
  have hmilli : TimeUnit.ofName? "ms" = some .millisecond := by decide
  unfold text
  unfold seconds at h
  split
  · rename_i hwhole
    have hnanos : d.millis / 1000 * TimeUnit.second.nanos = d.millis * 1000000 := by
      show d.millis / 1000 * 1000000000 = _
      omega
    rw [parse?_amount hs hsecond, hnanos, if_pos]
    · rfl
    · unfold millis
      omega
  · rw [parse?_amount hms hmilli, if_pos]
    · rfl
    · show d.millis * 1000000 / 1000000000 ≤ maxWord64
      unfold millis
      omega

theorem mapM_parse?_text {ds : List Duration} (h : ∀ d ∈ ds, d.seconds ≤ maxWord64) :
    ds.mapM (fun d => parse? d.text) = some (ds.map wholeMillis) := by
  induction ds with
  | nil => rfl
  | cons d ds ih =>
    obtain ⟨hd, hmore⟩ := List.forall_mem_cons.mp h
    rw [List.mapM_cons, parse?_text hd, ih hmore]
    rfl

end Duration

end TableQuery
