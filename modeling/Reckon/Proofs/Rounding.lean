import Mathlib.Algebra.Order.Field.Power
import Mathlib.Data.Int.Log
import Mathlib.Data.Rat.Floor
import Mathlib.Tactic.FieldSimp
import Mathlib.Tactic.Linarith
import Mathlib.Tactic.NormNum
import Mathlib.Tactic.Positivity
import Reckon.Number.Shortest

/-!
Decimals as rational numbers, and the doubles nearest to them. The nearest magnitude
depends on the number alone, however it is written as a decimal or a quotient, and for
a number that is itself a double it is the magnitude of that double. So the shortest
decimal of a finite magnitude reads back as this magnitude.
-/

namespace Reckon.Number

-- Powers of natural numbers are those of the core library, whatever else is imported.
attribute [local instance (high)] instPowNat

/-- A power with an integer exponent as a quotient of two powers with natural ones, of
which at least one is one. -/
theorem pow_toNat_div {base : ℚ} (nonzero : base ≠ 0) (exponent : Int) :
    base ^ exponent.toNat / base ^ (-exponent).toNat = base ^ exponent := by
  rw [← zpow_natCast, ← zpow_natCast, ← zpow_sub₀ nonzero]
  congr 1
  omega

/-! ## Quotients on a binary scale -/

section

variable {numerator denominator : Nat}

private theorem scaleDown_snd_pos (positive : 0 < denominator) (exponent : Int) :
    0 < (scaleDown numerator denominator exponent).2 :=
  Nat.mul_pos positive (Nat.two_pow_pos _)

private theorem scaleDown_quotient (positive : 0 < denominator) (exponent : Int) :
    ((scaleDown numerator denominator exponent).1 : ℚ) /
        (scaleDown numerator denominator exponent).2 =
      numerator / denominator / 2 ^ exponent := by
  have nonzero : (denominator : ℚ) ≠ 0 := by positivity
  unfold scaleDown
  rw [← pow_toNat_div (by norm_num : (2 : ℚ) ≠ 0)]
  push_cast
  field_simp

private theorem scaleDown_lt_iff (positive : 0 < denominator) (exponent : Int) :
    (scaleDown numerator denominator exponent).1 <
        (scaleDown numerator denominator exponent).2 ↔
      (numerator / denominator : ℚ) < 2 ^ exponent := by
  have positiveScaled : (0 : ℚ) < (scaleDown numerator denominator exponent).2 := by
    exact_mod_cast scaleDown_snd_pos positive exponent
  have positivePower : (0 : ℚ) < 2 ^ exponent := by positivity
  rw [← Nat.cast_lt (α := ℚ), ← div_lt_one positiveScaled, scaleDown_quotient positive,
    div_lt_one positivePower]

/-- The number of bits settles the quotient up to a factor of two. -/
theorem quotient_bounds (positive : 0 < numerator) (positiveBelow : 0 < denominator) :
    (2 : ℚ) ^ ((numerator.log2 : Int) - denominator.log2 - 1) < numerator / denominator ∧
      (numerator / denominator : ℚ) < 2 ^ ((numerator.log2 : Int) - denominator.log2 + 1) := by
  have positiveQ : (0 : ℚ) < denominator := by exact_mod_cast positiveBelow
  have above : (numerator : ℚ) < 2 ^ (numerator.log2 + 1) := by
    exact_mod_cast Nat.lt_log2_self
  have below : (2 : ℚ) ^ numerator.log2 ≤ numerator := by
    exact_mod_cast Nat.log2_self_le positive.ne'
  have aboveBelow : (denominator : ℚ) < 2 ^ (denominator.log2 + 1) := by
    exact_mod_cast Nat.lt_log2_self
  have belowBelow : (2 : ℚ) ^ denominator.log2 ≤ denominator := by
    exact_mod_cast Nat.log2_self_le positiveBelow.ne'
  constructor
  · rw [lt_div_iff₀ positiveQ]
    calc (2 : ℚ) ^ ((numerator.log2 : Int) - denominator.log2 - 1) * denominator
        < 2 ^ ((numerator.log2 : Int) - denominator.log2 - 1) * 2 ^ (denominator.log2 + 1) := by
          gcongr
      _ = 2 ^ numerator.log2 := by
          rw [← zpow_natCast, ← zpow_natCast, ← zpow_add₀ (by norm_num)]
          congr 1
          omega
      _ ≤ numerator := below
  · rw [div_lt_iff₀ positiveQ]
    calc (numerator : ℚ) < 2 ^ (numerator.log2 + 1) := above
      _ = 2 ^ ((numerator.log2 : Int) - denominator.log2 + 1) * 2 ^ denominator.log2 := by
          rw [← zpow_natCast, ← zpow_natCast, ← zpow_add₀ (by norm_num)]
          congr 1
          omega
      _ ≤ 2 ^ ((numerator.log2 : Int) - denominator.log2 + 1) * denominator := by
          gcongr

private theorem lt_two_zpow_iff {number : ℚ} (positive : 0 < number) (exponent : Int) :
    number < 2 ^ exponent ↔ Int.log 2 number < exponent := by
  exact_mod_cast Int.lt_zpow_iff_log_lt (b := 2) (by norm_num) positive

private theorem two_zpow_le_iff {number : ℚ} (positive : 0 < number) (exponent : Int) :
    2 ^ exponent ≤ number ↔ exponent ≤ Int.log 2 number := by
  exact_mod_cast Int.zpow_le_iff_le_log (b := 2) (by norm_num) positive

private theorem binaryOrder_eq_log (positive : 0 < numerator) (positiveBelow : 0 < denominator) :
    binaryOrder numerator denominator = Int.log 2 (numerator / denominator : ℚ) := by
  have positiveQuotient : (0 : ℚ) < numerator / denominator := by positivity
  obtain ⟨above, below⟩ := quotient_bounds positive positiveBelow
  have notBelow := (lt_two_zpow_iff positiveQuotient _).1 below
  have notAbove := (two_zpow_le_iff positiveQuotient _).1 above.le
  unfold binaryOrder
  dsimp only
  split
  · next small =>
      rw [scaleDown_lt_iff positiveBelow, lt_two_zpow_iff positiveQuotient] at small
      omega
  · next large =>
      rw [scaleDown_lt_iff positiveBelow, lt_two_zpow_iff positiveQuotient] at large
      omega

/-! ## Rounding -/

/-- Where to round to depends on the quotient alone. -/
theorem roundQuotient_mul_mul {factor : Nat} (positive : 0 < factor) :
    roundQuotient (factor * numerator) (factor * denominator) =
      roundQuotient numerator denominator := by
  unfold roundQuotient
  rw [Nat.mul_div_mul_left _ _ positive, Nat.mul_mod_mul_left, Nat.mul_left_comm 2]
  simp only [Nat.mul_lt_mul_left positive, Nat.mul_right_inj positive.ne']

private theorem roundQuotient_of_lt (small : 2 * numerator < denominator) :
    roundQuotient numerator denominator = 0 := by
  have smaller : numerator < denominator := by omega
  unfold roundQuotient
  rw [Nat.div_eq_of_lt smaller, Nat.mod_eq_of_lt smaller]
  dsimp only
  rw [if_neg (by omega)]

private theorem nearestMagnitude_mul_mul
    {factor : Nat} (positive : 0 < numerator) (positiveBelow : 0 < denominator)
    (positiveFactor : 0 < factor) :
    nearestMagnitude (factor * numerator) (factor * denominator) =
      nearestMagnitude numerator denominator := by
  have sameOrder : binaryOrder (factor * numerator) (factor * denominator) =
      binaryOrder numerator denominator := by
    have nonzero : (factor : ℚ) ≠ 0 := by positivity
    rw [binaryOrder_eq_log positive positiveBelow,
      binaryOrder_eq_log (Nat.mul_pos positiveFactor positive)
        (Nat.mul_pos positiveFactor positiveBelow)]
    push_cast
    rw [mul_div_mul_left _ _ nonzero]
  unfold nearestMagnitude
  rw [sameOrder]
  simp only [scaleDown, Nat.mul_assoc, roundQuotient_mul_mul positiveFactor]

private theorem nearestMagnitude_eq_of_quotient_eq
    {otherNumerator otherDenominator : Nat}
    (positive : 0 < numerator) (positiveBelow : 0 < denominator)
    (otherPositive : 0 < otherNumerator) (otherPositiveBelow : 0 < otherDenominator)
    (same : (numerator / denominator : ℚ) = otherNumerator / otherDenominator) :
    nearestMagnitude numerator denominator =
      nearestMagnitude otherNumerator otherDenominator := by
  have crossed : otherDenominator * numerator = denominator * otherNumerator := by
    have nonzero : (denominator : ℚ) ≠ 0 := by positivity
    have otherNonzero : (otherDenominator : ℚ) ≠ 0 := by positivity
    rw [div_eq_div_iff nonzero otherNonzero] at same
    rw [Nat.mul_comm, Nat.mul_comm denominator]
    exact_mod_cast same
  calc nearestMagnitude numerator denominator
      = nearestMagnitude (otherDenominator * numerator) (otherDenominator * denominator) :=
        (nearestMagnitude_mul_mul positive positiveBelow otherPositiveBelow).symm
    _ = nearestMagnitude (denominator * otherNumerator) (denominator * otherDenominator) := by
        rw [crossed, Nat.mul_comm otherDenominator]
    _ = nearestMagnitude otherNumerator otherDenominator :=
        nearestMagnitude_mul_mul otherPositive otherPositiveBelow positiveBelow

private theorem nearestMagnitude_of_large
    (positive : 0 < numerator) (positiveBelow : 0 < denominator)
    (large : (2 : ℚ) ^ (1025 : Int) ≤ numerator / denominator) :
    nearestMagnitude numerator denominator = infinite := by
  have positiveQuotient : (0 : ℚ) < numerator / denominator := by positivity
  have order := (two_zpow_le_iff positiveQuotient _).1 large
  unfold nearestMagnitude
  rw [binaryOrder_eq_log positive positiveBelow]
  unfold magnitudeOf
  dsimp only
  rw [Nat.min_eq_left]
  apply Nat.le_trans _ (Nat.le_add_right _ _)
  unfold infinite lowestExponent
  apply Nat.mul_le_mul_right
  omega

private theorem nearestMagnitude_of_small
    (positive : 0 < numerator) (positiveBelow : 0 < denominator)
    (small : (numerator / denominator : ℚ) < 2 ^ (-1075 : Int)) :
    nearestMagnitude numerator denominator = 0 := by
  have positiveQuotient : (0 : ℚ) < numerator / denominator := by positivity
  have order := (lt_two_zpow_iff positiveQuotient _).1 small
  have lowest : max (binaryOrder numerator denominator - 52) lowestExponent = -1074 := by
    rw [binaryOrder_eq_log positive positiveBelow, lowestExponent]
    omega
  have nothing : roundQuotient (scaleDown numerator denominator (-1074)).1
      (scaleDown numerator denominator (-1074)).2 = 0 := by
    apply roundQuotient_of_lt
    have positiveScaled : (0 : ℚ) < (scaleDown numerator denominator (-1074)).2 := by
      exact_mod_cast scaleDown_snd_pos positiveBelow (-1074)
    have half : ((scaleDown numerator denominator (-1074)).1 : ℚ) /
        (scaleDown numerator denominator (-1074)).2 < 1 / 2 := by
      rw [scaleDown_quotient positiveBelow, div_lt_iff₀ (by positivity)]
      calc (numerator / denominator : ℚ) < 2 ^ (-1075 : Int) := small
        _ = 1 / 2 * 2 ^ (-1074 : Int) := by
          rw [show (-1075 : Int) = -1 + -1074 by norm_num, zpow_add₀ (by norm_num)]
          norm_num
    rw [div_lt_div_iff₀ positiveScaled (by norm_num)] at half
    have whole : (2 * (scaleDown numerator denominator (-1074)).1 : ℚ) <
        (scaleDown numerator denominator (-1074)).2 := by
      linarith
    exact_mod_cast whole
  unfold nearestMagnitude
  rw [lowest]
  dsimp only
  rw [nothing]
  rfl

end

/-! ## Decimals -/

def Dyadic.value (number : Dyadic) : ℚ :=
  number.mantissa * 2 ^ number.exponent

namespace Decimal

def value (decimal : Decimal) : ℚ :=
  decimal.digits * 10 ^ decimal.exponent

variable {decimal other : Decimal}

private theorem value_eq_zero_iff : decimal.value = 0 ↔ decimal.digits = 0 := by
  have nonzero : (10 : ℚ) ^ decimal.exponent ≠ 0 := by positivity
  rw [value, mul_eq_zero, or_iff_left nonzero, Nat.cast_eq_zero]

private theorem quotient_eq_value (decimal : Decimal) :
    ((decimal.digits * 10 ^ decimal.exponent.toNat : Nat) : ℚ) /
        ((10 ^ (-decimal.exponent).toNat : Nat) : ℚ) =
      decimal.value := by
  rw [value, ← pow_toNat_div (by norm_num : (10 : ℚ) ≠ 0)]
  push_cast
  rw [mul_div_assoc]

private theorem two_zpow_le_ten_zpow : (2 : ℚ) ^ (1203 : Int) ≤ 10 ^ (401 : Int) := by
  have factors : (2 : ℚ) ^ (1203 : Int) = 8 ^ (401 : Int) := by
    rw [show (8 : ℚ) = 2 ^ (3 : Int) by norm_num, ← zpow_mul]
    norm_num
  rw [factors]
  exact zpow_le_zpow_left₀ (by norm_num) (by norm_num) (by norm_num)

private theorem value_of_far_above
    (something : decimal.digits ≠ 0) (far : farExponent < decimal.exponent) :
    (2 : ℚ) ^ (1025 : Int) ≤ decimal.value := by
  have one : (1 : ℚ) ≤ decimal.digits := by
    exact_mod_cast Nat.one_le_iff_ne_zero.2 something
  calc (2 : ℚ) ^ (1025 : Int) ≤ 2 ^ (1203 : Int) :=
        zpow_le_zpow_right₀ (by norm_num) (by norm_num)
    _ ≤ 10 ^ (401 : Int) := two_zpow_le_ten_zpow
    _ ≤ 10 ^ decimal.exponent := zpow_le_zpow_right₀ (by norm_num) (by
        unfold farExponent at far
        omega)
    _ ≤ decimal.digits * 10 ^ decimal.exponent :=
        le_mul_of_one_le_left (by positivity) one

private theorem value_of_far_below
    (far : decimal.exponent + decimal.digits.log2 + 1 < -farExponent) :
    decimal.value < 2 ^ (-1075 : Int) := by
  have digits : (decimal.digits : ℚ) < 10 ^ (decimal.digits.log2 + 1) := by
    calc (decimal.digits : ℚ) < 2 ^ (decimal.digits.log2 + 1) := by
          exact_mod_cast Nat.lt_log2_self
      _ ≤ 10 ^ (decimal.digits.log2 + 1) := by
          gcongr
          norm_num
  calc (decimal.digits : ℚ) * 10 ^ decimal.exponent
      < 10 ^ (decimal.digits.log2 + 1) * 10 ^ decimal.exponent := by gcongr
    _ = 10 ^ (decimal.exponent + decimal.digits.log2 + 1) := by
        rw [← zpow_natCast, ← zpow_add₀ (by norm_num)]
        congr 1
        omega
    _ ≤ 10 ^ (-401 : Int) := zpow_le_zpow_right₀ (by norm_num) (by
        unfold farExponent at far
        omega)
    _ ≤ 2 ^ (-1203 : Int) := by
        rw [zpow_neg, zpow_neg]
        exact inv_anti₀ (by positivity) two_zpow_le_ten_zpow
    _ ≤ 2 ^ (-1075 : Int) := zpow_le_zpow_right₀ (by norm_num) (by norm_num)

/-- Decimals far outside the range of doubles are answered as all others are. -/
theorem magnitude_eq_nearestMagnitude (something : decimal.digits ≠ 0) :
    decimal.magnitude =
      nearestMagnitude (decimal.digits * 10 ^ decimal.exponent.toNat)
        (10 ^ (-decimal.exponent).toNat) := by
  have positiveBelow : 0 < 10 ^ (-decimal.exponent).toNat := Nat.pow_pos (by norm_num)
  have positive : 0 < decimal.digits * 10 ^ decimal.exponent.toNat :=
    Nat.mul_pos (Nat.pos_of_ne_zero something) (Nat.pow_pos (by norm_num))
  unfold magnitude
  rw [if_neg something]
  split
  · next far =>
      refine (nearestMagnitude_of_large positive positiveBelow ?_).symm
      rw [quotient_eq_value]
      exact value_of_far_above something far
  · split
    · next far =>
        refine (nearestMagnitude_of_small positive positiveBelow ?_).symm
        rw [quotient_eq_value]
        exact value_of_far_below far
    · rfl

theorem magnitude_eq_of_value_eq (same : decimal.value = other.value) :
    decimal.magnitude = other.magnitude := by
  by_cases nothing : decimal.digits = 0
  · have otherNothing : other.digits = 0 := by
      rw [← value_eq_zero_iff, ← same, value_eq_zero_iff]
      exact nothing
    unfold magnitude
    rw [if_pos nothing, if_pos otherNothing]
  · have otherSomething : other.digits ≠ 0 := by
      rw [Ne, ← value_eq_zero_iff, ← same, value_eq_zero_iff]
      exact nothing
    rw [magnitude_eq_nearestMagnitude nothing, magnitude_eq_nearestMagnitude otherSomething]
    apply nearestMagnitude_eq_of_quotient_eq
    · exact Nat.mul_pos (Nat.pos_of_ne_zero nothing) (Nat.pow_pos (by norm_num))
    · exact Nat.pow_pos (by norm_num)
    · exact Nat.mul_pos (Nat.pos_of_ne_zero otherSomething) (Nat.pow_pos (by norm_num))
    · exact Nat.pow_pos (by norm_num)
    · rw [quotient_eq_value, quotient_eq_value, same]

private theorem value_normalized (decimal : Decimal) :
    decimal.normalized.value = decimal.value := by
  fun_induction normalized decimal with
  | case1 decimal trailing inductionHypothesis =>
      obtain ⟨_, zero⟩ := trailing
      have digits : decimal.digits = 10 * (decimal.digits / 10) := by omega
      rw [inductionHypothesis, value, value, zpow_add_one₀ (by norm_num)]
      conv_rhs => rw [digits]
      push_cast
      ring
  | case2 decimal finished => rfl

private theorem value_ofDyadic (number : Dyadic) : (ofDyadic number).value = number.value := by
  have exponent : min number.exponent 0 = -((-number.exponent).toNat : Int) := by omega
  unfold ofDyadic value Dyadic.value
  dsimp only
  rw [exponent, zpow_neg, zpow_natCast, ← pow_toNat_div (by norm_num : (2 : ℚ) ≠ 0),
    show (10 : ℚ) = 2 * 5 by norm_num, mul_pow]
  push_cast
  field_simp

end Decimal

/-! ## Doubles are nearest to themselves -/

/-- The number for which a magnitude stands is rounded at the exponent at which it is
written. -/
theorem max_log_value_ofMagnitude {magnitude : Nat} (positive : 0 < magnitude) :
    max (Int.log 2 (Dyadic.ofMagnitude magnitude).value - 52) lowestExponent =
      (Dyadic.ofMagnitude magnitude).exponent := by
  unfold Dyadic.ofMagnitude Dyadic.value
  split
  · next small =>
      dsimp only
      have positiveValue : (0 : ℚ) < magnitude * 2 ^ lowestExponent := by positivity
      have below : (magnitude : ℚ) * 2 ^ lowestExponent < 2 ^ (-1022 : Int) := by
        have bound : (magnitude : ℚ) < 2 ^ (52 : Nat) := by exact_mod_cast small
        calc (magnitude : ℚ) * 2 ^ lowestExponent
            < 2 ^ (52 : Nat) * 2 ^ lowestExponent := by gcongr
          _ = 2 ^ (-1022 : Int) := by
            rw [← zpow_natCast, ← zpow_add₀ (by norm_num), lowestExponent]
            norm_num
      have order := (lt_two_zpow_iff positiveValue _).1 below
      rw [lowestExponent] at order ⊢
      omega
  · next large =>
      dsimp only
      generalize exponentEq :
        ((magnitude / 2 ^ (52 : Nat) : Nat) : Int) + lowestExponent - 1 = exponent
      generalize mantissaEq : magnitude % 2 ^ (52 : Nat) + 2 ^ (52 : Nat) = mantissa
      have lower : (2 : ℚ) ^ (52 : Nat) ≤ mantissa := by
        have bound : 2 ^ (52 : Nat) ≤ mantissa := by omega
        exact_mod_cast bound
      have upper : (mantissa : ℚ) < 2 ^ (53 : Nat) := by
        have bound : mantissa < 2 ^ (53 : Nat) := by omega
        exact_mod_cast bound
      have positiveMantissa : (0 : ℚ) < mantissa := lt_of_lt_of_le (by norm_num) lower
      have positiveValue : (0 : ℚ) < mantissa * 2 ^ exponent := by positivity
      have above : (2 : ℚ) ^ (52 + exponent) ≤ mantissa * 2 ^ exponent := by
        rw [zpow_add₀ (by norm_num)]
        gcongr
        exact_mod_cast lower
      have below : mantissa * 2 ^ exponent < (2 : ℚ) ^ (53 + exponent) := by
        rw [zpow_add₀ (by norm_num)]
        gcongr
        exact_mod_cast upper
      have notAbove := (two_zpow_le_iff positiveValue _).1 above
      have notBelow := (lt_two_zpow_iff positiveValue _).1 below
      unfold lowestExponent at exponentEq ⊢
      omega

private theorem nearestMagnitude_of_quotient_eq_value
    {numerator denominator magnitude : Nat} (positive : 0 < magnitude)
    (finite : magnitude ≤ infinite) (positiveNumerator : 0 < numerator)
    (positiveDenominator : 0 < denominator)
    (same : (numerator / denominator : ℚ) = (Dyadic.ofMagnitude magnitude).value) :
    nearestMagnitude numerator denominator = magnitude := by
  have exponent : max (binaryOrder numerator denominator - 52) lowestExponent =
      (Dyadic.ofMagnitude magnitude).exponent := by
    rw [binaryOrder_eq_log positiveNumerator positiveDenominator, same]
    exact max_log_value_ofMagnitude positive
  unfold nearestMagnitude
  rw [exponent]
  dsimp only
  generalize scaledEq :
    scaleDown numerator denominator (Dyadic.ofMagnitude magnitude).exponent = scaled
  have positiveScaled : 0 < scaled.2 := by
    rw [← scaledEq]
    exact scaleDown_snd_pos positiveDenominator _
  have whole : scaled.1 = (Dyadic.ofMagnitude magnitude).mantissa * scaled.2 := by
    have nonzero : (scaled.2 : ℚ) ≠ 0 := by positivity
    have quotient : (scaled.1 : ℚ) / scaled.2 = (Dyadic.ofMagnitude magnitude).mantissa := by
      rw [← scaledEq, scaleDown_quotient positiveDenominator, same, Dyadic.value]
      exact mul_div_cancel_right₀ _ (by positivity)
    rw [div_eq_iff nonzero] at quotient
    exact_mod_cast quotient
  rw [whole, roundQuotient_mul_self positiveScaled]
  exact magnitudeOf_ofMagnitude finite

private theorem value_ofMagnitude_ne_zero {magnitude : Nat} (positive : 0 < magnitude) :
    (Dyadic.ofMagnitude magnitude).value ≠ 0 := by
  have mantissa : (Dyadic.ofMagnitude magnitude).mantissa ≠ 0 := by
    unfold Dyadic.ofMagnitude
    split
    · exact positive.ne'
    · dsimp only
      omega
  unfold Dyadic.value
  positivity

namespace Decimal

/-- The decimal of a number that is a double has the magnitude of this double. -/
theorem magnitude_of_value_eq
    {decimal : Decimal} {magnitude : Nat} (positive : 0 < magnitude)
    (finite : magnitude ≤ infinite)
    (same : decimal.value = (Dyadic.ofMagnitude magnitude).value) :
    decimal.magnitude = magnitude := by
  have something : decimal.digits ≠ 0 := by
    rw [Ne, ← value_eq_zero_iff, same]
    exact value_ofMagnitude_ne_zero positive
  rw [magnitude_eq_nearestMagnitude something]
  apply nearestMagnitude_of_quotient_eq_value positive finite
  · exact Nat.mul_pos (Nat.pos_of_ne_zero something) (Nat.pow_pos (by norm_num))
  · exact Nat.pow_pos (by norm_num)
  · rw [quotient_eq_value, same]

/-- The shortest decimal of a magnitude reads back as it. -/
theorem magnitude_shortest (tie : Tie) {magnitude : Nat} (finite : magnitude ≤ infinite) :
    (shortest tie magnitude).magnitude = magnitude := by
  unfold shortest
  split
  · next zero =>
      rw [zero]
      rfl
  · next something =>
      dsimp only
      rw [magnitude_eq_of_value_eq (value_normalized _)]
      apply magnitude_shorten
      exact magnitude_of_value_eq (Nat.pos_of_ne_zero something) finite (value_ofDyadic _)

end Decimal

end Reckon.Number
