import AtomicCss.Number.Decimal
import Mathlib.Data.Int.Log
import Mathlib.Data.Rat.Floor
import Mathlib.Tactic.FieldSimp
import Mathlib.Tactic.Linarith
import Mathlib.Tactic.Positivity
import Mathlib.Tactic.Ring

/-!
# Rounding of fractions

The nearest double depends on the value of a fraction and not on how the fraction is written. So
a value that is exact may be multiplied and divided before it is rounded, and rounding it then is
rounding the product or the quotient once.
-/

set_option autoImplicit false

namespace AtomicCss.Double

theorem cast_twoTo (exponent : Nat) : (twoTo exponent : ℚ) = 2 ^ exponent := by
  simp [twoTo]

theorem twoTo_pos (exponent : Nat) : 0 < twoTo exponent := Nat.two_pow_pos exponent

theorem two_zpow_pos (exponent : Int) : (0 : ℚ) < 2 ^ exponent := zpow_pos (by norm_num) exponent

section Scaled

variable (numerator denominator : Nat) (exponent : Int)

theorem scaled_pos {denominator : Nat} (positive : 0 < denominator) :
    0 < (scaled numerator denominator exponent).2 := by
  rw [scaled]
  split
  · exact positive
  · exact Nat.mul_pos positive (twoTo_pos _)

/-- A scaled fraction is the fraction over a power of two. -/
theorem ratio_scaled :
    ((scaled numerator denominator exponent).1 : ℚ) / (scaled numerator denominator exponent).2 =
      (numerator : ℚ) / denominator / 2 ^ exponent := by
  rw [scaled]
  split
  · next isNegative =>
      have natural : (2 : ℚ) ^ exponent = (2 ^ (-exponent).toNat)⁻¹ := by
        rw [← zpow_natCast, Int.toNat_of_nonneg (by omega), zpow_neg, inv_inv]
      rw [natural, Nat.cast_mul, cast_twoTo]
      simp only [div_inv_eq_mul]
      ring
  · next isPositive =>
      have natural : (2 : ℚ) ^ exponent = 2 ^ exponent.toNat := by
        rw [← zpow_natCast, Int.toNat_of_nonneg (by omega)]
      rw [natural, Nat.cast_mul, cast_twoTo, div_div]

end Scaled

theorem log_eq {ratio : ℚ} {exponent : Int} (least : (2 : ℚ) ^ exponent ≤ ratio)
    (greatest : ratio < 2 ^ (exponent + 1)) : Int.log 2 ratio = exponent := by
  have positive : 0 < ratio := (two_zpow_pos exponent).trans_le least
  have atLeast := (Int.zpow_le_iff_le_log (b := 2) (by decide) positive).mp
    (by exact_mod_cast least)
  have below := (Int.lt_zpow_iff_log_lt (b := 2) (by decide) positive).mp
    (by exact_mod_cast greatest)
  omega

theorem log2_bounds {number : Nat} (positive : 0 < number) :
    (2 : ℚ) ^ (number.log2 : Int) ≤ number ∧ (number : ℚ) < 2 ^ ((number.log2 : Int) + 1) := by
  have nonzero : number ≠ 0 := by omega
  constructor
  · exact_mod_cast Nat.log2_self_le nonzero
  · exact_mod_cast (Nat.lt_log2_self : number < 2 ^ (number.log2 + 1))

/-- A fraction lies between the powers of two that its two parts tell. -/
theorem ratio_bounds {numerator denominator : Nat} (positive : 0 < numerator)
    (positive' : 0 < denominator) :
    (2 : ℚ) ^ ((numerator.log2 : Int) - denominator.log2 - 1) ≤ (numerator : ℚ) / denominator ∧
      (numerator : ℚ) / denominator < 2 ^ ((numerator.log2 : Int) - denominator.log2 + 1) := by
  obtain ⟨least, greatest⟩ := log2_bounds positive
  obtain ⟨least', greatest'⟩ := log2_bounds positive'
  have below : (0 : ℚ) < denominator := by exact_mod_cast positive'
  constructor
  · rw [le_div_iff₀ below]
    calc (2 : ℚ) ^ ((numerator.log2 : Int) - denominator.log2 - 1) * denominator
        ≤ 2 ^ ((numerator.log2 : Int) - denominator.log2 - 1) *
            2 ^ ((denominator.log2 : Int) + 1) := by
          exact mul_le_mul_of_nonneg_left greatest'.le (two_zpow_pos _).le
      _ = 2 ^ (numerator.log2 : Int) := by
          rw [← zpow_add₀ (by norm_num)]
          congr 1
          omega
      _ ≤ numerator := least
  · rw [div_lt_iff₀ below]
    calc (numerator : ℚ) < 2 ^ ((numerator.log2 : Int) + 1) := greatest
      _ = 2 ^ ((numerator.log2 : Int) - denominator.log2 + 1) *
            2 ^ (denominator.log2 : Int) := by
          rw [← zpow_add₀ (by norm_num)]
          congr 1
          omega
      _ ≤ 2 ^ ((numerator.log2 : Int) - denominator.log2 + 1) * denominator := by
          exact mul_le_mul_of_nonneg_left least' (two_zpow_pos _).le

/-- Whether a scaled fraction falls short of a mantissa of full length. -/
theorem scaled_div_lt {numerator denominator : Nat} (positive : 0 < denominator) (exponent : Int) :
    (scaled numerator denominator exponent).1 / (scaled numerator denominator exponent).2 <
        twoTo 52 ↔ (numerator : ℚ) / denominator < 2 ^ (exponent + 52) := by
  have below := scaled_pos numerator exponent positive
  have split : (2 : ℚ) ^ (exponent + 52) = 2 ^ (52 : Nat) * 2 ^ exponent := by
    rw [← zpow_natCast, ← zpow_add₀ (by norm_num)]
    congr 1
    omega
  rw [Nat.div_lt_iff_lt_mul below, split, ← div_lt_iff₀ (two_zpow_pos exponent), ← ratio_scaled,
    div_lt_iff₀ (by exact_mod_cast below), ← cast_twoTo]
  exact_mod_cast Iff.rfl

/-- The exponent is told by the logarithm of the value. -/
theorem fittingExponent_eq {numerator denominator : Nat} (positive : 0 < numerator)
    (positive' : 0 < denominator) :
    fittingExponent numerator denominator =
      max minExponent (Int.log 2 ((numerator : ℚ) / denominator) - 52) := by
  obtain ⟨least, greatest⟩ := ratio_bounds positive positive'
  rw [fittingExponent]
  dsimp only
  congr 1
  split
  · next short =>
      rw [scaled_div_lt positive', sub_add_cancel] at short
      rw [log_eq least (by rwa [sub_add_cancel])]
      omega
  · next full =>
      rw [scaled_div_lt positive', sub_add_cancel, not_lt] at full
      rw [log_eq full greatest]

theorem roundHalfEven_congr {numerator denominator numerator' denominator' : Nat}
    (positive : 0 < denominator) (positive' : 0 < denominator')
    (same : (numerator : ℚ) / denominator = (numerator' : ℚ) / denominator') :
    roundHalfEven numerator denominator = roundHalfEven numerator' denominator' := by
  have crossed : numerator * denominator' = numerator' * denominator := by
    rw [div_eq_div_iff (by positivity) (by positivity)] at same
    exact_mod_cast same
  have quotients : numerator / denominator = numerator' / denominator' := by
    rw [← Nat.mul_div_mul_right numerator denominator positive', crossed,
      Nat.mul_comm denominator denominator', Nat.mul_div_mul_right _ _ positive]
  have remainders :
      numerator % denominator * denominator' = numerator' % denominator' * denominator := by
    rw [← Nat.mul_mod_mul_right, ← Nat.mul_mod_mul_right, crossed,
      Nat.mul_comm denominator denominator']
  have below : 2 * (numerator % denominator) < denominator ↔
      2 * (numerator' % denominator') < denominator' := by
    calc 2 * (numerator % denominator) < denominator
        ↔ 2 * (numerator % denominator) * denominator' < denominator * denominator' :=
          (Nat.mul_lt_mul_right positive').symm
      _ ↔ 2 * (numerator' % denominator') * denominator < denominator' * denominator := by
          rw [Nat.mul_assoc, remainders, Nat.mul_assoc, Nat.mul_comm denominator denominator']
      _ ↔ 2 * (numerator' % denominator') < denominator' := Nat.mul_lt_mul_right positive
  have above : denominator < 2 * (numerator % denominator) ↔
      denominator' < 2 * (numerator' % denominator') := by
    calc denominator < 2 * (numerator % denominator)
        ↔ denominator * denominator' < 2 * (numerator % denominator) * denominator' :=
          (Nat.mul_lt_mul_right positive').symm
      _ ↔ denominator' * denominator < 2 * (numerator' % denominator') * denominator := by
          rw [Nat.mul_assoc, remainders, Nat.mul_assoc, Nat.mul_comm denominator denominator']
      _ ↔ denominator' < 2 * (numerator' % denominator') := Nat.mul_lt_mul_right positive
  rw [roundHalfEven, roundHalfEven, quotients]
  simp only [below, above]

/-- Two fractions with the same value have the same nearest double. -/
theorem ofFraction_congr (negative : Bool) {numerator denominator numerator' denominator' : Nat}
    (positive : 0 < denominator) (positive' : 0 < denominator')
    (same : (numerator : ℚ) / denominator = (numerator' : ℚ) / denominator') :
    ofFraction negative numerator denominator = ofFraction negative numerator' denominator' := by
  have zero : numerator = 0 ↔ numerator' = 0 := by
    have nonzero : (denominator : ℚ) ≠ 0 := by positivity
    have nonzero' : (denominator' : ℚ) ≠ 0 := by positivity
    have crossed := (div_eq_div_iff nonzero nonzero').mp same
    constructor
    · rintro rfl
      simpa [positive.ne'] using crossed.symm
    · rintro rfl
      simpa [positive'.ne'] using crossed
  by_cases isZero : numerator = 0
  · rw [ofFraction, ofFraction, if_pos isZero, if_pos (zero.mp isZero)]
  · have isZero' := fun none => isZero (zero.mpr none)
    have exponents : fittingExponent numerator denominator =
        fittingExponent numerator' denominator' := by
      rw [fittingExponent_eq (Nat.pos_of_ne_zero isZero) positive,
        fittingExponent_eq (Nat.pos_of_ne_zero isZero') positive', same]
    have mantissas (exponent : Int) :
        roundHalfEven (scaled numerator denominator exponent).1
            (scaled numerator denominator exponent).2 =
          roundHalfEven (scaled numerator' denominator' exponent).1
            (scaled numerator' denominator' exponent).2 := by
      refine roundHalfEven_congr (scaled_pos _ _ positive) (scaled_pos _ _ positive') ?_
      rw [ratio_scaled, ratio_scaled, same]
    rw [ofFraction, ofFraction, if_neg isZero, if_neg isZero', exponents]
    dsimp only
    rw [mantissas]

theorem ofScaled_eq (negative : Bool) {numerator denominator numerator' denominator' : Nat}
    {exponent : Int} (positive : 0 < denominator) (positive' : 0 < denominator')
    (same : (numerator : ℚ) / denominator * 2 ^ exponent = (numerator' : ℚ) / denominator') :
    ofScaled negative numerator denominator exponent =
      ofFraction negative numerator' denominator' := by
  have below := scaled_pos numerator (-exponent) positive
  have ratio := ratio_scaled numerator denominator (-exponent)
  rw [zpow_neg, div_inv_eq_mul, same] at ratio
  exact ofFraction_congr negative below positive' ratio

/-! ## Exact values -/

/-- A double that has a number for its value, apart from the sign. -/
def IsExactly (value : Double) (negative : Bool) (number : Nat) : Prop :=
  ∃ mantissa exponent, value = .finite negative mantissa exponent ∧
    (mantissa : ℚ) * 2 ^ exponent = number

theorem roundHalfEven_one (number : Nat) : roundHalfEven number 1 = number := by
  simp [roundHalfEven, Nat.mod_one]

/-- Numbers of up to 53 bits, with zeros behind, are exact. -/
theorem ofFraction_isExactly (negative : Bool) {number : Nat} (positive : 0 < number)
    (short : number < 2 ^ 53) (zeros : Nat) (few : zeros ≤ 900) :
    IsExactly (ofFraction negative (number * 2 ^ zeros) 1) negative (number * 2 ^ zeros) := by
  obtain ⟨least, greatest⟩ := log2_bounds positive
  have length : number.log2 ≤ 52 := by
    have below := Nat.log2_lt (n := number) (k := 53) (by omega)
    omega
  have wholePos : 0 < number * 2 ^ zeros := Nat.mul_pos positive (Nat.two_pow_pos zeros)
  have log : Int.log 2 (((number * 2 ^ zeros : Nat) : ℚ) / (1 : Nat)) = number.log2 + zeros := by
    rw [Nat.cast_one, div_one]
    push_cast
    apply log_eq
    · rw [zpow_add₀ (by norm_num), zpow_natCast 2 zeros]
      exact mul_le_mul_of_nonneg_right least (by positivity)
    · rw [add_right_comm, zpow_add₀ (by norm_num), zpow_natCast 2 zeros]
      exact mul_lt_mul_of_pos_right greatest (by positivity)
  have isExponent : fittingExponent (number * 2 ^ zeros) 1 = number.log2 + zeros - 52 := by
    rw [fittingExponent_eq wholePos Nat.one_pos, log, minExponent]
    omega
  have isNumber : ((number * 2 ^ (52 - number.log2) : Nat) : ℚ) *
      2 ^ ((number.log2 : Int) + zeros - 52) = (number * 2 ^ zeros : Nat) := by
    have shift : (2 : ℚ) ^ (52 - number.log2) * 2 ^ ((number.log2 : Int) + zeros - 52) =
        2 ^ zeros := by
      rw [← zpow_natCast, ← zpow_natCast, ← zpow_add₀ (by norm_num)]
      congr 1
      omega
    push_cast
    rw [mul_assoc, shift]
  have notFull : number * 2 ^ (52 - number.log2) < twoTo 53 := by
    have below : number < 2 ^ (number.log2 + 1) := Nat.lt_log2_self
    calc number * 2 ^ (52 - number.log2)
        < 2 ^ (number.log2 + 1) * 2 ^ (52 - number.log2) :=
          Nat.mul_lt_mul_of_pos_right below (Nat.two_pow_pos _)
      _ = 2 ^ 53 := by
          rw [← Nat.pow_add]
          congr 1
          omega
  have mantissa : roundHalfEven
      (scaled (number * 2 ^ zeros) 1 ((number.log2 : Int) + zeros - 52)).1
      (scaled (number * 2 ^ zeros) 1 ((number.log2 : Int) + zeros - 52)).2 =
        number * 2 ^ (52 - number.log2) := by
    rw [← roundHalfEven_one (number * 2 ^ (52 - number.log2))]
    refine roundHalfEven_congr (scaled_pos _ _ Nat.one_pos) Nat.one_pos ?_
    rw [ratio_scaled, ← isNumber]
    field_simp
  refine ⟨number * 2 ^ (52 - number.log2), (number.log2 : Int) + zeros - 52, ?_, isNumber⟩
  rw [ofFraction, if_neg wholePos.ne', isExponent]
  dsimp only
  rw [mantissa, if_neg notFull.ne]
  dsimp only
  rw [if_neg (by rw [maxExponent]; omega)]

theorem tenTo_pos (power : Nat) : 0 < tenTo power := Nat.pow_pos (by decide)

/-- The powers of ten up to the twenty-second are exact. -/
theorem tenTo_isExactly {power : Nat} (small : power ≤ 22) :
    IsExactly (ofFraction false (tenTo power) 1) false (tenTo power) := by
  have split : tenTo power = 5 ^ power * 2 ^ power := by
    rw [← Nat.mul_pow]
    rfl
  have short : 5 ^ power < 2 ^ 53 :=
    calc 5 ^ power ≤ 5 ^ 22 := Nat.pow_le_pow_right (by decide) small
      _ < 2 ^ 53 := by decide
  rw [split]
  exact ofFraction_isExactly false (Nat.pow_pos (by decide)) short power (by omega)

/-- A fraction far from the largest double has a finite one next to it. -/
theorem isFinite_ofFraction (negative : Bool) {numerator denominator : Nat}
    (small : numerator < 2 ^ 200) (positive : 0 < denominator) :
    (ofFraction negative numerator denominator).isFinite = true := by
  rw [ofFraction]
  split
  · rfl
  · next isPositive =>
      have denominatorPos : (0 : ℚ) < denominator := by exact_mod_cast positive
      have numeratorPos : (0 : ℚ) < numerator := by
        exact_mod_cast Nat.pos_of_ne_zero isPositive
      have below : (numerator : ℚ) / denominator < 2 ^ (200 : Int) := by
        rw [div_lt_iff₀ denominatorPos]
        have least : (1 : ℚ) ≤ denominator := by exact_mod_cast positive
        calc (numerator : ℚ) < 2 ^ (200 : Int) := by exact_mod_cast small
          _ ≤ 2 ^ (200 : Int) * denominator := le_mul_of_one_le_right (two_zpow_pos _).le least
      have log : Int.log 2 ((numerator : ℚ) / denominator) < 200 :=
        (Int.lt_zpow_iff_log_lt (b := 2) (by decide) (div_pos numeratorPos denominatorPos)).mp below
      have exponent : fittingExponent numerator denominator ≤ 970 := by
        rw [fittingExponent_eq (Nat.pos_of_ne_zero isPositive) positive, minExponent]
        omega
      dsimp only
      split
      · rw [if_neg (by rw [maxExponent]; omega)]
        rfl
      · rw [if_neg (by rw [maxExponent]; omega)]
        rfl

theorem timesTenTo_eq {value : Double} {negative : Bool} {number power : Nat}
    (exactly : IsExactly value negative number)
    (exactPower : IsExactly (ofFraction false (tenTo power) 1) false (tenTo power)) :
    value.timesTenTo power = ofFraction negative (number * tenTo power) 1 := by
  obtain ⟨mantissa, exponent, rfl, isNumber⟩ := exactly
  obtain ⟨factor, shift, isPower, isFactor⟩ := exactPower
  simp only [timesTenTo, isPower]
  refine ofScaled_eq negative Nat.one_pos Nat.one_pos ?_
  rw [zpow_add₀ (by norm_num)]
  push_cast
  rw [← isNumber, ← isFactor]
  ring

theorem overTenTo_eq {value : Double} {negative : Bool} {number power : Nat}
    (exactly : IsExactly value negative number)
    (exactPower : IsExactly (ofFraction false (tenTo power) 1) false (tenTo power)) :
    value.overTenTo power = ofFraction negative number (tenTo power) := by
  obtain ⟨mantissa, exponent, rfl, isNumber⟩ := exactly
  obtain ⟨factor, shift, isPower, isFactor⟩ := exactPower
  have positive : 0 < tenTo power := Nat.pow_pos (by decide)
  have factorPos : 0 < factor := by
    rcases Nat.eq_zero_or_pos factor with none | some
    · rw [none, Nat.cast_zero, zero_mul] at isFactor
      exact absurd (by exact_mod_cast isFactor.symm) positive.ne'
    · exact some
  simp only [overTenTo, isPower]
  refine ofScaled_eq negative factorPos positive ?_
  rw [zpow_sub₀ (by norm_num), ← isNumber, ← isFactor]
  field_simp

end AtomicCss.Double

namespace AtomicCss.Decimal

/-- A numeral of few digits is rounded by itself, without looking at its magnitude. -/
theorem toDouble_eq (negative : Bool) {digits : Nat} (positive : 0 < digits)
    (short : digits < 2 ^ 53) {exponent : Int} (small : exponent.natAbs ≤ 22) :
    (Decimal.mk negative digits exponent).toDouble =
      if exponent < 0 then Double.ofFraction negative digits (tenTo (-exponent).toNat)
      else Double.ofFraction negative (digits * tenTo exponent.toNat) 1 := by
  have count : digitCount digits ≤ 16 := by
    refine (Nat.length_toDigits_le_iff (by decide) (by decide)).mpr ?_
    calc digits < 2 ^ 53 := short
      _ < 10 ^ 16 := by decide
  rw [toDouble]
  dsimp only
  rw [if_neg positive.ne', if_neg (by omega), if_neg (by omega)]

theorem isFinite_toDouble (negative : Bool) {digits : Nat} {exponent : Int}
    (short : digits = 0 ∨ digits < 2 ^ 53 ∧ exponent.natAbs ≤ 22) :
    (Decimal.mk negative digits exponent).toDouble.isFinite = true := by
  by_cases isZero : digits = 0
  · rw [toDouble, if_pos isZero]
    rfl
  · obtain ⟨short, small⟩ := short.resolve_left isZero
    rw [toDouble_eq negative (Nat.pos_of_ne_zero isZero) short small]
    split
    · exact Double.isFinite_ofFraction negative (short.trans (by decide)) (Double.tenTo_pos _)
    · refine Double.isFinite_ofFraction negative ?_ Nat.one_pos
      calc digits * tenTo exponent.toNat
          ≤ digits * 10 ^ 22 :=
            Nat.mul_le_mul_left digits (Nat.pow_le_pow_right (by decide) (by omega))
        _ < 2 ^ 53 * 10 ^ 22 := Nat.mul_lt_mul_of_pos_right short (by decide)
        _ < 2 ^ 200 := by decide

end AtomicCss.Decimal
