import Mathlib.Data.Nat.Digits.Defs
import Mathlib.Data.Nat.Log
import RouteIR.Number.Decimal

namespace RouteIR

/-!
# Decimals that read back

The shortest decimal of a floating-point number is searched for by reading candidates back,
and a decimal means the same number however zeros are moved between its coefficient and its
exponent.  So whatever decimal the search ends with is read as the number it was made for,
the exact expansion included, which is tried when no short candidate is left.
-/

namespace Binary64

/-! ## Scaling a quotient -/

theorem roundHalfEven_scale {factor : Nat} (positive : 0 < factor) (numerator denominator : Nat) :
    roundHalfEven (factor * numerator) (factor * denominator) =
      roundHalfEven numerator denominator := by
  have less (left right : Nat) : factor * left < factor * right ↔ left < right :=
    Nat.mul_lt_mul_left positive
  have doubled : 2 * (factor * (numerator % denominator)) =
      factor * (2 * (numerator % denominator)) := Nat.mul_left_comm _ _ _
  unfold roundHalfEven
  simp only [Nat.mul_div_mul_left _ _ positive, Nat.mul_mod_mul_left, doubled, less]

theorem ofUnits_scale (negative : Bool) {factor : Nat} (positive : 0 < factor)
    (numerator denominator : Nat) :
    ofUnits negative (factor * numerator) (factor * denominator) =
      ofUnits negative numerator denominator := by
  unfold ofUnits
  simp only [Nat.mul_div_mul_left _ _ positive, Nat.mul_assoc, roundHalfEven_scale positive]

theorem ofUnits_cancel (negative : Bool) {factor : Nat} (positive : 0 < factor)
    (numerator : Nat) :
    ofUnits negative (factor * numerator) factor = ofUnits negative numerator 1 := by
  have scaled := ofUnits_scale negative positive numerator 1
  rwa [Nat.mul_one] at scaled

/-- The sign plays no part in rounding. -/
theorem ofUnits_true (numerator denominator : Nat) :
    ofUnits true numerator denominator = (ofUnits false numerator denominator).negate := by
  unfold ofUnits
  dsimp only
  rw [apply_ite negate]
  rfl

theorem ofDecimal_true (coefficient : Nat) (exponent : Int) :
    ofDecimal true coefficient exponent = (ofDecimal false coefficient exponent).negate := by
  unfold ofDecimal
  dsimp only
  split
  · rfl
  · split
    · rfl
    · split
      · exact ofUnits_true _ _
      · exact ofUnits_true _ _

/-! ## Zeros at the end of a coefficient -/

theorem digitCount_mul_ten {value : Nat} (positive : 0 < value) :
    digitCount (value * 10) = digitCount value + 1 := by
  have joined := Nat.toDigits_append_toDigits (b := 10) (n := value) (d := 0) (by decide) positive
    (by decide)
  rw [digitCount, digitCount, Nat.mul_comm, ← Nat.add_zero (10 * value), ← joined,
    List.length_append]
  rfl

/-- A zero at the end of the coefficient counts as one in the exponent. -/
theorem ofDecimal_mul_ten (negative : Bool) {coefficient : Nat} (positive : 0 < coefficient)
    (exponent : Int) :
    ofDecimal negative (coefficient * 10) exponent =
      ofDecimal negative coefficient (exponent + 1) := by
  have magnitude : exponent + (digitCount (coefficient * 10) : Nat) =
      exponent + 1 + (digitCount coefficient : Nat) := by
    rw [digitCount_mul_ten positive]
    omega
  have filled : coefficient * 10 ≠ 0 := by omega
  have filled' : coefficient ≠ 0 := by omega
  unfold ofDecimal
  dsimp only
  rw [magnitude]
  simp only [filled, filled', false_or]
  split
  · rfl
  · split
    · rfl
    · by_cases whole : 0 ≤ exponent
      · have wholeNext : 0 ≤ exponent + 1 := by omega
        have power : (exponent + 1).toNat = exponent.toNat + 1 := by omega
        have scaled : coefficient * 10 * Nat.pow 10 exponent.toNat =
            coefficient * Nat.pow 10 (exponent + 1).toNat := by
          rw [power, Nat.pow_eq, Nat.pow_eq, Nat.pow_succ, Nat.mul_assoc,
            Nat.mul_comm 10 (10 ^ exponent.toNat)]
        rw [if_pos whole, if_pos wholeNext, scaled]
      · have scaled : coefficient * 10 * unitsPerOne = 10 * (coefficient * unitsPerOne) := by
          rw [Nat.mul_comm coefficient 10, Nat.mul_assoc]
        rw [if_neg whole, scaled]
        by_cases last : 0 ≤ exponent + 1
        · have isLast : exponent = -1 := by omega
          have ten : Nat.pow 10 (-(-1 : Int)).toNat = 10 := rfl
          have one : Nat.pow 10 ((-1 : Int) + 1).toNat = 1 := rfl
          rw [if_pos last, isLast, ten, one, ofUnits_cancel negative (by decide), Nat.mul_one]
        · have power : (-exponent).toNat = (-(exponent + 1)).toNat + 1 := by omega
          have tenfold : Nat.pow 10 (-exponent).toNat = 10 * Nat.pow 10 (-(exponent + 1)).toNat := by
            rw [power, Nat.pow_eq, Nat.pow_eq, Nat.pow_succ, Nat.mul_comm]
          rw [if_neg last, tenfold, ofUnits_scale negative (by decide)]

theorem ofDecimal_mul_pow (negative : Bool) {coefficient : Nat} (positive : 0 < coefficient)
    (zeros : Nat) (exponent : Int) :
    ofDecimal negative (coefficient * 10 ^ zeros) exponent =
      ofDecimal negative coefficient (exponent + zeros) := by
  induction zeros generalizing exponent with
  | zero => simp
  | succ zeros ih =>
      have stillPositive : 0 < coefficient * 10 ^ zeros := by positivity
      rw [Nat.pow_succ, ← Nat.mul_assoc, ofDecimal_mul_ten negative stillPositive, ih]
      congr 1
      push_cast
      ring

/-! ## Exact values -/

theorem log2_canonical {significand shift : Nat} (positive : 0 < significand)
    (small : significand < 2 ^ 53) (normal : shift = 0 ∨ 2 ^ 52 ≤ significand) :
    Nat.log2 (significand * 2 ^ shift) + 1 - 53 = shift := by
  have unit : 0 < 2 ^ shift := by positivity
  have filled : significand * 2 ^ shift ≠ 0 := (Nat.mul_pos positive unit).ne'
  have upper : Nat.log2 (significand * 2 ^ shift) < 53 + shift := by
    rw [Nat.log2_lt filled, Nat.pow_add]
    exact Nat.mul_lt_mul_of_pos_right small unit
  rcases normal with rfl | normal
  · omega
  · have lower : 52 + shift ≤ Nat.log2 (significand * 2 ^ shift) := by
      rw [Nat.le_log2 filled, Nat.pow_add]
      exact Nat.mul_le_mul_right _ normal
    omega

/-- A finite number is what its own value is rounded to. -/
theorem ofUnits_canonical {significand shift : Nat} (positive : 0 < significand)
    (canonical : (finite false significand shift).Canonical) :
    ofUnits false (significand * 2 ^ shift) 1 = finite false significand shift := by
  rcases canonical with ⟨small, bounded, normal⟩
  rw [Nat.pow_eq] at small normal
  have sameShift := log2_canonical positive small normal
  have exact : roundHalfEven (significand * 2 ^ shift) (1 * Nat.pow 2 shift) = significand := by
    have unit : 0 < 2 ^ shift := by positivity
    rw [Nat.one_mul, Nat.pow_eq]
    unfold roundHalfEven
    simp only [Nat.mul_div_cancel _ unit, Nat.mul_mod_left]
    rw [if_pos (by omega)]
  unfold ofUnits
  have notFull : significand ≠ Nat.pow 2 53 := small.ne
  simp only [Nat.div_one, sameShift, exact, notFull, if_false]
  rw [if_neg (Nat.not_lt.mpr bounded)]

end Binary64

namespace Decimal

/-- Moving zeros out of a coefficient does not change what is read. -/
theorem ofDecimal_dropZeros (negative : Bool) (fuel : Nat) (value : Decimal) :
    Binary64.ofDecimal negative (dropZeros fuel value).coefficient (dropZeros fuel value).exponent =
      Binary64.ofDecimal negative value.coefficient value.exponent := by
  induction fuel generalizing value with
  | zero => rfl
  | succ fuel ih =>
      rw [dropZeros]
      split
      · next divisible =>
          rw [ih]
          have positive : 0 < value.coefficient / 10 := by omega
          have whole : value.coefficient / 10 * 10 = value.coefficient := by omega
          rw [← Binary64.ofDecimal_mul_ten negative positive, whole]
      · rfl

theorem ofUnits_fifths (value : Nat) :
    Binary64.ofUnits false (value * Nat.pow 5 1074 * Binary64.unitsPerOne) (Nat.pow 10 1074) =
      Binary64.ofUnits false value 1 := by
  unfold Binary64.unitsPerOne
  generalize 1074 = places
  have tenths : (5 : Nat) ^ places * 2 ^ places = 10 ^ places := (Nat.mul_pow 5 2 places).symm
  rw [Nat.pow_eq, Nat.pow_eq, Nat.pow_eq, Nat.mul_assoc, tenths, Nat.mul_comm]
  exact Binary64.ofUnits_cancel false (by positivity) value

theorem digitCount_between {value low high : Nat} (lower : 10 ^ low ≤ value)
    (upper : value < 10 ^ high) (lowFilled : 0 < low) (highFilled : 0 < high) :
    low < Binary64.digitCount value ∧ Binary64.digitCount value ≤ high := by
  have count {bound : Nat} (filled : 0 < bound) :
      Binary64.digitCount value ≤ bound ↔ value < 10 ^ bound :=
    Nat.length_toDigits_le_iff (by decide) filled
  constructor
  · rw [← Nat.not_le, count lowFilled, Nat.not_lt]
    exact lower
  · rw [count highFilled]
    exact upper

/-- How many digits the exact expansion of a number has. -/
theorem digitCount_exact {significand shift : Nat} (positive : 0 < significand)
    (canonical : (Binary64.finite false significand shift).Canonical) :
    750 < Binary64.digitCount (significand * 2 ^ shift * Nat.pow 5 1074) ∧
      Binary64.digitCount (significand * 2 ^ shift * Nat.pow 5 1074) ≤ 1383 := by
  rcases canonical with ⟨small, bounded, _⟩
  have widest : 2 ^ shift ≤ 2 ^ Binary64.maxShift := Nat.pow_le_pow_right (by decide) bounded
  have value : significand * 2 ^ shift < Nat.pow 2 53 * 2 ^ Binary64.maxShift :=
    Nat.mul_lt_mul_of_lt_of_le small widest (by positivity)
  have valuePositive : 0 < significand * 2 ^ shift := by positivity
  have least : 10 ^ 750 ≤ Nat.pow 5 1074 := by decide +kernel
  have greatest : Nat.pow 2 53 * 2 ^ Binary64.maxShift * Nat.pow 5 1074 ≤ 10 ^ 1383 := by
    decide +kernel
  have fifths : 0 < Nat.pow 5 1074 := by decide +kernel
  generalize Nat.pow 5 1074 = fifth at least greatest fifths
  refine digitCount_between ?_ ?_ (by decide) (by decide)
  · exact least.trans (Nat.le_mul_of_pos_left fifth valuePositive)
  · exact (Nat.mul_lt_mul_of_pos_right value fifths).trans_le greatest

/-- The exact expansion is read as the number. -/
theorem ofDecimal_exact {significand shift : Nat} (positive : 0 < significand)
    (canonical : (Binary64.finite false significand shift).Canonical) :
    Binary64.ofDecimal false (significand * 2 ^ shift * Nat.pow 5 1074) (-1074) =
      .finite false significand shift := by
  rcases digitCount_exact positive canonical with ⟨least, greatest⟩
  have places : (- (-1074 : Int)).toNat = 1074 := rfl
  have value := Binary64.ofUnits_canonical positive canonical
  have rounded := (ofUnits_fifths (significand * 2 ^ shift)).trans value
  have fifths : 0 < Nat.pow 5 1074 := by decide +kernel
  have valuePositive : 0 < significand * 2 ^ shift := by positivity
  have filled : significand * 2 ^ shift * Nat.pow 5 1074 ≠ 0 :=
    (Nat.mul_pos valuePositive fifths).ne'
  unfold Binary64.ofDecimal
  dsimp only
  generalize significand * 2 ^ shift * Nat.pow 5 1074 = coefficient at *
  rw [if_neg (by omega), if_neg (by omega), if_neg (by omega), places]
  exact rounded

/-- The shortest decimal is read as the number it was made for. -/
theorem ofDecimal_shortest {significand shift : Nat} (positive : 0 < significand)
    (canonical : (Binary64.finite false significand shift).Canonical) :
    Binary64.ofDecimal false (shortest significand shift).coefficient
      (shortest significand shift).exponent = .finite false significand shift := by
  unfold shortest
  dsimp only
  split
  · next value found =>
      rcases List.exists_of_findSome?_eq_some found with ⟨places, _, near⟩
      rw [ofDecimal_dropZeros]
      have read := List.find?_some near
      exact of_decide_eq_true read
  · exact ofDecimal_exact positive canonical

end Decimal
end RouteIR
