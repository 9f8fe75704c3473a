import TableQuery.Json.Printer
import TableQuery.Proofs.Numeric.Rounding

/-!
# Numbers read back from their texts

The text of a JSON number gives its digits, its point and its exponent back, so different numbers
have different texts.

* `decimalValue`: the value of a decimal text.
* `isDecimal_digitsText`: digits that are set as text keep their value.
* `JsonNumber.text_injective`: the texts of numbers.
-/

namespace TableQuery

/-! ## Values of texts -/

/-- The value of an exponent with its mark and its sign. -/
def exponentValue : List Char → ℤ
  | 'e' :: '-' :: ds => -(Nat.ofDigitChars 10 ds 0 : ℤ)
  | 'e' :: '+' :: ds => Nat.ofDigitChars 10 ds 0
  | _ => 0

/-- The value of digits with a point among them and an exponent after them. -/
def decimalValue (cs : List Char) : ℚ :=
  let mantissa := cs.takeWhile (· != 'e')
  let whole := mantissa.takeWhile (· != '.')
  let fraction := (mantissa.dropWhile (· != '.')).drop 1
  Nat.ofDigitChars 10 (whole ++ fraction) 0 *
    10 ^ (exponentValue (cs.dropWhile (· != 'e')) - fraction.length)

/-- Every character is a decimal digit. -/
def AreDigits (cs : List Char) : Prop := ∀ c ∈ cs, c.isDigit = true

namespace AreDigits

variable {as bs : List Char}

theorem append (ha : AreDigits as) (hb : AreDigits bs) : AreDigits (as ++ bs) := by
  intro c hc
  rcases List.mem_append.mp hc with hc | hc
  · exact ha c hc
  · exact hb c hc

theorem toDigits (n : ℕ) : AreDigits (Nat.toDigits 10 n) :=
  fun _ hc => Nat.isDigit_of_mem_toDigits (by norm_num) (by norm_num) hc

theorem zeros (n : ℕ) : AreDigits (List.replicate n '0') := by
  intro c hc
  rw [List.eq_of_mem_replicate hc]
  rfl

theorem ne_mark (h : AreDigits as) {c mark : Char} (hc : c ∈ as) (hmark : mark.isDigit = false) :
    (c != mark) = true := by
  rw [bne_iff_ne]
  rintro rfl
  rw [h c hc] at hmark
  cases hmark

end AreDigits

section

variable {whole fraction exponent : List Char}

/-- What stands before the exponent. -/
theorem split_exponent {mantissa : List Char} (hm : ∀ c ∈ mantissa, (c != 'e') = true)
    (he : exponent.head?.all (· == 'e')) :
    (mantissa ++ exponent).takeWhile (· != 'e') = mantissa ∧
      (mantissa ++ exponent).dropWhile (· != 'e') = exponent := by
  rw [List.takeWhile_append_of_pos hm, List.dropWhile_append_of_pos hm]
  cases exponent with
  | nil => simp
  | cons c rest =>
    have hc : c = 'e' := by simpa using he
    simp [hc]

theorem decimalValue_point (hw : AreDigits whole) (hf : AreDigits fraction)
    (he : exponent.head?.all (· == 'e')) :
    decimalValue (whole ++ '.' :: fraction ++ exponent) =
      Nat.ofDigitChars 10 (whole ++ fraction) 0 *
        10 ^ (exponentValue exponent - fraction.length) := by
  have hm : ∀ c ∈ whole ++ '.' :: fraction, (c != 'e') = true := by
    intro c hc
    rcases List.mem_append.mp hc with hc | hc
    · exact hw.ne_mark hc (by decide)
    · rcases List.mem_cons.mp hc with rfl | hc
      · decide
      · exact hf.ne_mark hc (by decide)
  obtain ⟨htake, hdrop⟩ := split_exponent hm he
  have hpoint : ∀ c ∈ whole, (c != '.') = true := fun c hc => hw.ne_mark hc (by decide)
  unfold decimalValue
  simp only [htake, hdrop]
  rw [List.takeWhile_append_of_pos hpoint, List.dropWhile_append_of_pos hpoint]
  simp

theorem decimalValue_whole (hw : AreDigits whole) (he : exponent.head?.all (· == 'e')) :
    decimalValue (whole ++ exponent) =
      Nat.ofDigitChars 10 whole 0 * 10 ^ exponentValue exponent := by
  have hm : ∀ c ∈ whole, (c != 'e') = true := fun c hc => hw.ne_mark hc (by decide)
  obtain ⟨htake, hdrop⟩ := split_exponent hm he
  have hpoint : ∀ c ∈ whole, (c != '.') = true := fun c hc => hw.ne_mark hc (by decide)
  have hall := @List.takeWhile_append_of_pos _ _ whole [] hpoint
  have hnone := @List.dropWhile_append_of_pos _ _ whole [] hpoint
  rw [List.append_nil] at hall hnone
  unfold decimalValue
  simp only [htake, hdrop, hall, hnone]
  simp

end

/-! ## Digits set as text -/

namespace NumberLayout

/-- The digits of a number without its sign. -/
def digitsText (layout : NumberLayout) (d : Digits) : String :=
  let digits := toString d.coefficient
  let point : ℤ := digits.length + d.exponent
  if layout.positional point then layout.positionalText digits point
  else layout.scientificText digits point

theorem writeDigits_eq (layout : NumberLayout) (negative : Bool) (d : Digits) :
    layout.writeDigits negative d = (if negative then "-" else "") ++ layout.digitsText d := rfl

end NumberLayout

theorem toList_toString_nat (n : ℕ) : (toString n).toList = Nat.toDigits 10 n := by
  rw [Nat.toString_eq_ofList_toDigits, String.toList_ofList]

/-! ## Decimal texts -/

/-- Nothing, or an exponent with its mark and its sign. -/
def IsExponent (cs : List Char) : Prop :=
  cs = [] ∨ ∃ sign ds, cs = 'e' :: sign :: ds ∧ (sign = '-' ∨ sign = '+') ∧ AreDigits ds

theorem IsExponent.head?_eq {cs : List Char} (h : IsExponent cs) :
    cs.head?.all (· == 'e') := by
  rcases h with rfl | ⟨sign, ds, rfl, -, -⟩ <;> rfl

/-- A decimal text and its value: digits with a point, an exponent, or both. -/
inductive IsDecimal : List Char → ℚ → Prop
  | point {whole fraction exponent : List Char} (hw : AreDigits whole) (hstart : whole ≠ [])
      (hf : AreDigits fraction) (he : IsExponent exponent) :
      IsDecimal (whole ++ '.' :: fraction ++ exponent) (Nat.ofDigitChars 10 (whole ++ fraction) 0 *
        10 ^ (exponentValue exponent - fraction.length))
  | whole {whole exponent : List Char} (hw : AreDigits whole) (hstart : whole ≠ [])
      (he : IsExponent exponent) (hmark : exponent ≠ []) :
      IsDecimal (whole ++ exponent) (Nat.ofDigitChars 10 whole 0 * 10 ^ exponentValue exponent)

/-- The characters of numbers. -/
def isNumeralChar (c : Char) : Bool := c.isDigit || c == '-' || c == '+' || c == '.' || c == 'e'

namespace IsDecimal

variable {cs : List Char} {v : ℚ}

theorem value_eq (h : IsDecimal cs v) : decimalValue cs = v := by
  cases h with
  | point hw hstart hf he => exact decimalValue_point hw hf he.head?_eq
  | whole hw hstart he hmark => exact decimalValue_whole hw he.head?_eq

theorem head?_isDigit (h : IsDecimal cs v) : cs.head?.any Char.isDigit := by
  cases h with
  | @point whole fraction exponent hw hstart hf he =>
    cases whole with
    | nil => exact absurd rfl hstart
    | cons c rest => exact hw c List.mem_cons_self
  | @whole whole exponent hw hstart he hmark =>
    cases whole with
    | nil => exact absurd rfl hstart
    | cons c rest => exact hw c List.mem_cons_self

/-- Decimal texts have a mark that integers do not have. -/
theorem mark_mem (h : IsDecimal cs v) : '.' ∈ cs ∨ 'e' ∈ cs := by
  cases h with
  | point hw hstart hf he => exact .inl (by simp)
  | whole hw hstart he hmark =>
    rcases he with rfl | ⟨sign, ds, rfl, -, -⟩
    · exact absurd rfl hmark
    · exact .inr (by simp)

theorem isNumeralChar_of_mem (h : IsDecimal cs v) {c : Char} (hc : c ∈ cs) :
    isNumeralChar c = true := by
  have hdigit (hd : c.isDigit = true) : isNumeralChar c = true := by simp [isNumeralChar, hd]
  have hexponent {exponent : List Char} (he : IsExponent exponent) (hc : c ∈ exponent) :
      isNumeralChar c = true := by
    rcases he with rfl | ⟨sign, ds, rfl, hsign, hds⟩
    · cases hc
    · rcases List.mem_cons.mp hc with rfl | hc
      · rfl
      · rcases List.mem_cons.mp hc with rfl | hc
        · rcases hsign with rfl | rfl <;> rfl
        · exact hdigit (hds c hc)
  cases h with
  | point hw hstart hf he =>
    rcases List.mem_append.mp hc with hc | hc
    · rcases List.mem_append.mp hc with hc | hc
      · exact hdigit (hw c hc)
      · rcases List.mem_cons.mp hc with rfl | hc
        · rfl
        · exact hdigit (hf c hc)
    · exact hexponent he hc
  | whole hw hstart he hmark =>
    rcases List.mem_append.mp hc with hc | hc
    · exact hdigit (hw c hc)
    · exact hexponent he hc

end IsDecimal

section

variable {ds : List Char} (h : AreDigits ds)

include h

/-- Zeros between the point and the digits. -/
theorem isDecimal_leadingZeros (n : ℕ) :
    IsDecimal ('0' :: '.' :: (List.replicate n '0' ++ ds))
      (Nat.ofDigitChars 10 ds 0 * 10 ^ (-(n + ds.length : ℤ))) := by
  have hvalue : Nat.ofDigitChars 10 (['0'] ++ (List.replicate n '0' ++ ds)) 0 =
      Nat.ofDigitChars 10 ds 0 := by
    rw [← List.append_assoc, Nat.ofDigitChars_append, ← List.replicate_one, ← List.replicate_add,
      Nat.ofDigitChars_replicate_zero, Nat.mul_zero]
  have hplaces : (-(n + ds.length : ℤ)) =
      exponentValue [] - ((List.replicate n '0' ++ ds).length : ℤ) := by
    simp only [exponentValue, List.length_append, List.length_replicate]
    push_cast
    ring
  have hread := IsDecimal.point (AreDigits.zeros 1) (by simp) ((AreDigits.zeros n).append h)
    (.inl rfl : IsExponent [])
  rw [List.append_nil, List.replicate_one, hvalue, ← hplaces] at hread
  exact hread

variable (hne : ds ≠ [])

include hne

/-- Zeros between the digits and the point. -/
theorem isDecimal_trailingZeros (n : ℕ) :
    IsDecimal (ds ++ List.replicate n '0' ++ ['.', '0'])
      (Nat.ofDigitChars 10 ds 0 * 10 ^ n) := by
  have hvalue : Nat.ofDigitChars 10 (ds ++ List.replicate n '0' ++ ['0']) 0 =
      10 * (10 ^ n * Nat.ofDigitChars 10 ds 0) := by
    rw [Nat.ofDigitChars_append, ← List.replicate_one, Nat.ofDigitChars_append,
      Nat.ofDigitChars_replicate_zero, Nat.ofDigitChars_replicate_zero, pow_one]
  have hread := IsDecimal.point (h.append (AreDigits.zeros n)) (by simp [hne]) (AreDigits.zeros 1)
    (.inl rfl : IsExponent [])
  rw [List.append_nil, List.replicate_one, hvalue] at hread
  convert hread using 1
  simp only [exponentValue, List.length_singleton]
  norm_num
  ring

/-- The point among the digits. -/
theorem isDecimal_pointWithin {n : ℕ} (hn : 0 < n) (hlt : n < ds.length) :
    IsDecimal (ds.take n ++ '.' :: ds.drop n)
      (Nat.ofDigitChars 10 ds 0 * 10 ^ (n - ds.length : ℤ)) := by
  have hwhole : AreDigits (ds.take n) := fun c hc => h c (List.mem_of_mem_take hc)
  have hfraction : AreDigits (ds.drop n) := fun c hc => h c (List.mem_of_mem_drop hc)
  have hstart : ds.take n ≠ [] := by
    rw [Ne, List.take_eq_nil_iff]
    exact not_or.mpr ⟨hn.ne', hne⟩
  have hplaces : (n - ds.length : ℤ) = exponentValue [] - ((ds.drop n).length : ℤ) := by
    simp only [exponentValue, List.length_drop]
    omega
  have hread := IsDecimal.point hwhole hstart hfraction (.inl rfl : IsExponent [])
  rwa [List.append_nil, List.take_append_drop, ← hplaces] at hread

end

/-- The text of an exponent has its mark and gives it back. -/
theorem isExponent_text (e : ℤ) :
    let text := ((if e < 0 then "e-" else jsonNumber.exponentMark) ++ toString e.natAbs).toList
    IsExponent text ∧ text ≠ [] ∧ exponentValue text = e := by
  intro text
  have htext : text = 'e' :: (if e < 0 then '-' else '+') :: Nat.toDigits 10 e.natAbs := by
    show String.toList _ = _
    rw [String.toList_append, toList_toString_nat]
    split <;> rfl
  rw [htext]
  refine ⟨.inr ⟨_, _, rfl, ?_, AreDigits.toDigits _⟩, by simp, ?_⟩
  · split
    · exact .inl rfl
    · exact .inr rfl
  · split
    · show -(Nat.ofDigitChars 10 (Nat.toDigits 10 e.natAbs) 0 : ℤ) = e
      rw [Nat.ofDigitChars_ten_toDigits]
      omega
    · show (Nat.ofDigitChars 10 (Nat.toDigits 10 e.natAbs) 0 : ℤ) = e
      rw [Nat.ofDigitChars_ten_toDigits]
      omega

section

variable {digits : String} (h : AreDigits digits.toList) (hne : digits.toList ≠ [])

include h hne

/-- Digits written around a point keep their value. -/
theorem isDecimal_positionalText (k : ℤ) :
    IsDecimal (jsonNumber.positionalText digits (digits.length + k)).toList
      (Nat.ofDigitChars 10 digits.toList 0 * 10 ^ k) := by
  have hlength : digits.length = digits.toList.length := String.length_toList.symm
  unfold NumberLayout.positionalText
  simp only [hlength]
  split
  · rename_i hpoint
    obtain ⟨n, hn⟩ : ∃ n : ℕ, k = -(n + digits.toList.length : ℤ) :=
      ⟨(-((digits.toList.length : ℤ) + k)).toNat, by omega⟩
    have hzeros : (-((digits.toList.length : ℤ) + k)).toNat = n := by omega
    have hread := isDecimal_leadingZeros h n
    rw [← hn] at hread
    rw [hzeros]
    simpa [NumberLayout.zeros] using hread
  · rename_i hpoint
    split
    · rename_i hwhole
      obtain ⟨n, rfl⟩ : ∃ n : ℕ, k = n := ⟨k.toNat, by omega⟩
      have hread := isDecimal_trailingZeros h hne n
      rw [← zpow_natCast] at hread
      simpa [NumberLayout.zeros, jsonNumber] using hread
    · rename_i hlong
      obtain ⟨n, hn⟩ : ∃ n : ℕ, k = (n - digits.toList.length : ℤ) :=
        ⟨((digits.toList.length : ℤ) + k).toNat, by omega⟩
      have hplace : ((digits.toList.length : ℤ) + k).toNat = n := by omega
      have hread := isDecimal_pointWithin h hne (n := n) (by omega) (by omega)
      rw [← hn] at hread
      rw [hplace]
      simpa using hread

/-- Digits written with an exponent keep their value. -/
theorem isDecimal_scientificText (k : ℤ) :
    IsDecimal (jsonNumber.scientificText digits (digits.length + k)).toList
      (Nat.ofDigitChars 10 digits.toList 0 * 10 ^ k) := by
  have hlength : digits.length = digits.toList.length := String.length_toList.symm
  unfold NumberLayout.scientificText
  simp only [hlength]
  obtain ⟨he, hmark, hvalue⟩ := isExponent_text ((digits.toList.length : ℤ) + k - 1)
  generalize (if (digits.toList.length : ℤ) + k - 1 < 0 then "e-"
    else jsonNumber.exponentMark) ++ toString ((digits.toList.length : ℤ) + k - 1).natAbs = text
      at he hmark hvalue
  cases hcs : digits.toList with
  | nil => exact absurd hcs hne
  | cons c cs =>
    rw [hcs] at h hvalue
    cases cs with
    | nil =>
      have hread := IsDecimal.whole h (by simp) he hmark
      have hk : exponentValue text.toList = k := by
        rw [hvalue]
        simp
      rw [hk] at hread
      simpa using hread
    | cons d ds =>
      have hhead : AreDigits [c] := fun x hx => h x (by simp_all)
      have htail : AreDigits (d :: ds) := fun x hx => h x (List.mem_cons_of_mem c hx)
      have hread := IsDecimal.point hhead (by simp) htail he
      have hk : exponentValue text.toList - ((d :: ds).length : ℤ) = k := by
        rw [hvalue]
        simp only [List.length_cons]
        push_cast
        ring
      rw [hk] at hread
      simpa using hread

end

theorem isDecimal_digitsText (d : Digits) :
    IsDecimal (jsonNumber.digitsText d).toList d.value := by
  have h : AreDigits (toString d.coefficient).toList := by
    rw [toList_toString_nat]
    exact AreDigits.toDigits _
  have hne : (toString d.coefficient).toList ≠ [] := by
    rw [toList_toString_nat]
    exact Nat.toDigits_ne_nil
  have hvalue : (Nat.ofDigitChars 10 (toString d.coefficient).toList 0 : ℚ) * 10 ^ d.exponent =
      d.value := by
    rw [toList_toString_nat, Nat.ofDigitChars_ten_toDigits]
    rfl
  rw [← hvalue]
  unfold NumberLayout.digitsText
  simp only
  split
  · exact isDecimal_positionalText h hne d.exponent
  · exact isDecimal_scientificText h hne d.exponent

/-! ## Texts of numbers -/

namespace Finite64

/-- The text of a double without its sign. -/
def unsignedText (x : Finite64) : String :=
  if x.significand = 0 then "0.0" else jsonNumber.digitsText (x.interval.shortest .even)

theorem writeFinite_eq (x : Finite64) :
    jsonNumber.writeFinite x = (if x.negative then "-" else "") ++ x.unsignedText := by
  unfold NumberLayout.writeFinite NumberLayout.writeWithin unsignedText
  split
  · rw [String.append_assoc]
    rfl
  · exact jsonNumber.writeDigits_eq _ _

/-- What the text of a double stands for. -/
def shortestValue (x : Finite64) : ℚ :=
  if x.significand = 0 then 0 else (x.interval.shortest .even).value

theorem isDecimal_unsignedText (x : Finite64) : IsDecimal x.unsignedText.toList x.shortestValue := by
  unfold unsignedText shortestValue
  split
  · have h := IsDecimal.point (AreDigits.zeros 1) (by simp) (AreDigits.zeros 1) (.inl rfl)
    rw [Nat.ofDigitChars_append, Nat.ofDigitChars_replicate_zero, Nat.ofDigitChars_replicate_zero]
      at h
    simpa using h
  · exact isDecimal_digitsText _

theorem shortestValue_pos {x : Finite64} (hx : x.significand ≠ 0) : 0 < x.shortestValue := by
  unfold shortestValue Digits.value
  rw [if_neg hx]
  have hpos : (0 : ℚ) < (x.interval.shortest .even).coefficient := by
    exact_mod_cast (shortest_spec .even hx).1
  positivity

theorem eq_of_shortestValue {x y : Finite64} (hsign : x.negative = y.negative)
    (h : x.shortestValue = y.shortestValue) : x = y := by
  by_cases hx : x.significand = 0 <;> by_cases hy : y.significand = 0
  · refine eq_of_magnitude_eq hsign ?_
    unfold magnitude
    rw [hx, hy, Nat.zero_mul, Nat.zero_mul]
  · have hpos := shortestValue_pos hy
    rw [← h, shortestValue, if_pos hx] at hpos
    exact absurd hpos (lt_irrefl 0)
  · have hpos := shortestValue_pos hx
    rw [h, shortestValue, if_pos hy] at hpos
    exact absurd hpos (lt_irrefl 0)
  · unfold shortestValue at h
    rw [if_neg hx, if_neg hy] at h
    exact eq_of_shortest_value hsign hx hy h

/-- Different doubles have different texts. -/
theorem writeFinite_injective {x y : Finite64}
    (h : jsonNumber.writeFinite x = jsonNumber.writeFinite y) : x = y := by
  have hx := isDecimal_unsignedText x
  have hy := isDecimal_unsignedText y
  have hlists := congrArg String.toList h
  rw [writeFinite_eq, writeFinite_eq, String.toList_append, String.toList_append] at hlists
  have hstart {z : Finite64} {rest : List Char} (hz : z.unsignedText.toList = '-' :: rest) :
      False := by
    have hdigit := (isDecimal_unsignedText z).head?_isDigit
    rw [hz] at hdigit
    cases hdigit
  have hsign : x.negative = y.negative ∧ x.unsignedText.toList = y.unsignedText.toList := by
    cases hxn : x.negative <;> cases hyn : y.negative <;> rw [hxn, hyn] at hlists
    · exact ⟨rfl, hlists⟩
    · exact (hstart hlists).elim
    · exact (hstart hlists.symm).elim
    · exact ⟨rfl, List.cons.inj hlists |>.2⟩
  refine eq_of_shortestValue hsign.1 ?_
  rw [← hx.value_eq, hsign.2, hy.value_eq]

end Finite64

namespace JsonNumber

/-- The characters of an integer's text. -/
theorem integer_text (i : ℤ) :
    (text (.integer i)).toList = (if i < 0 then ['-'] else []) ++ Nat.toDigits 10 i.natAbs := by
  unfold text
  cases i with
  | ofNat n => exact toList_toString_nat n
  | negSucc n =>
    show ("-" ++ toString (n + 1)).toList = _
    rw [String.toList_append, toList_toString_nat, if_pos (Int.negSucc_lt_zero n)]
    rfl

/-- The characters of a double's text. -/
theorem float_text (x : Finite64) :
    (text (.float x)).toList = (if x.negative then ['-'] else []) ++ x.unsignedText.toList := by
  show (jsonNumber.writeFinite x).toList = _
  rw [Finite64.writeFinite_eq, String.toList_append]
  cases x.negative <;> rfl

theorem integer_text_injective {i j : ℤ} (h : text (.integer i) = text (.integer j)) : i = j := by
  have hlists := congrArg String.toList h
  rw [integer_text, integer_text] at hlists
  have hstart {n : ℕ} {rest : List Char} (hn : Nat.toDigits 10 n = '-' :: rest) : False := by
    have hdigit := AreDigits.toDigits n '-' (by rw [hn]; simp)
    cases hdigit
  have hdigits {m n : ℕ} (hmn : Nat.toDigits 10 m = Nat.toDigits 10 n) : m = n := by
    have hvalues := congrArg (Nat.ofDigitChars 10 · 0) hmn
    simpa using hvalues
  by_cases hi : i < 0 <;> by_cases hj : j < 0 <;> simp only [hi, hj, if_true, if_false] at hlists
  · have := hdigits (List.cons.inj hlists).2
    omega
  · exact (hstart hlists.symm).elim
  · exact (hstart hlists).elim
  · have := hdigits hlists
    omega

/-- The text of a double is no text of an integer. -/
theorem integer_text_ne_float (i : ℤ) (x : Finite64) : text (.integer i) ≠ text (.float x) := by
  intro h
  have hlists := congrArg String.toList h
  rw [integer_text] at hlists
  have hmark : '.' ∈ (text (.float x)).toList ∨ 'e' ∈ (text (.float x)).toList := by
    rw [float_text]
    rcases (Finite64.isDecimal_unsignedText x).mark_mem with h | h
    · exact .inl (List.mem_append_right _ h)
    · exact .inr (List.mem_append_right _ h)
  have hnone {c : Char} (hc : c.isDigit = false) (hminus : c ≠ '-') :
      c ∉ (text (.float x)).toList := by
    rw [← hlists]
    intro hmem
    rcases List.mem_append.mp hmem with hmem | hmem
    · split at hmem
      · exact hminus (List.mem_singleton.mp hmem)
      · cases hmem
    · rw [AreDigits.toDigits _ c hmem] at hc
      cases hc
  rcases hmark with h | h
  · exact hnone (by decide) (by decide) h
  · exact hnone (by decide) (by decide) h

/-- Different numbers have different texts. -/
theorem text_injective {m n : JsonNumber} (h : m.text = n.text) : m = n := by
  cases m with
  | integer i =>
    cases n with
    | integer j => rw [integer_text_injective h]
    | float y => exact absurd h (integer_text_ne_float i y)
  | float x =>
    cases n with
    | integer j => exact absurd h.symm (integer_text_ne_float j x)
    | float y => rw [Finite64.writeFinite_injective h]

theorem text_chars (n : JsonNumber) : ∀ c ∈ n.text.toList, isNumeralChar c = true := by
  intro c hc
  have hdigit (hd : c.isDigit = true) : isNumeralChar c = true := by simp [isNumeralChar, hd]
  cases n with
  | integer i =>
    rw [integer_text] at hc
    rcases List.mem_append.mp hc with hc | hc
    · split at hc
      · rw [List.mem_singleton.mp hc]
        rfl
      · cases hc
    · exact hdigit (AreDigits.toDigits _ c hc)
  | float x =>
    rw [float_text] at hc
    rcases List.mem_append.mp hc with hc | hc
    · split at hc
      · rw [List.mem_singleton.mp hc]
        rfl
      · cases hc
    · exact (Finite64.isDecimal_unsignedText x).isNumeralChar_of_mem hc

theorem text_ne_nil (n : JsonNumber) : n.text.toList ≠ [] := by
  cases n with
  | integer i =>
    rw [integer_text]
    simp [Nat.toDigits_ne_nil]
  | float x =>
    rw [float_text]
    intro hnil
    have hdigit := (Finite64.isDecimal_unsignedText x).head?_isDigit
    rw [(List.append_eq_nil_iff.mp hnil).2] at hdigit
    cases hdigit

end JsonNumber

end TableQuery
