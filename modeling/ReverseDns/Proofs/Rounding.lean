import Mathlib
import ReverseDns.Decimal.Shortest

/-!
# Rounding to doubles

The arithmetic of doubles rounds an exact value in two steps: it cuts the significand to size,
keeping one bit and whether anything is lost behind it, and rounds what is left to the nearest, ties
to even.

* `Retains` -- a cut significand stands for an exact value
* `RoundsTo` -- a whole number is the nearest one to a value, ties to even
* `Binary.Canonical`, `Binary.Rounds` -- the significands of doubles, and the values that round to one
* `roundWithAccuracy_eq` -- rounding finds the double to which a value rounds
-/

namespace ReverseDns.Decimal

open Float.Model Float.Model.UnpackedFloat

/-! ## Cut significands -/

/-- A cut significand stands for a value: twice the value is twice the significand, with the kept
bit, and with less than one behind it. -/
def Retains (cut : ExtendedMantissa) (value : ℚ) : Prop :=
  ∃ lost : ℚ, 0 ≤ lost ∧ lost < 1 ∧ (cut.stickyBit = true ↔ lost ≠ 0) ∧
    2 * value = 2 * cut.mantissa + (if cut.roundBit then 1 else 0) + lost

theorem Retains.bounds {cut : ExtendedMantissa} {value : ℚ} (retains : Retains cut value) :
    (cut.mantissa : ℚ) ≤ value ∧ value < cut.mantissa + 1 := by
  obtain ⟨lost, nonneg, small, -, equal⟩ := retains
  cases bit : cut.roundBit
  · simp only [bit, Bool.false_eq_true, if_false] at equal
    constructor <;> linarith
  · simp only [bit, if_true] at equal
    constructor <;> linarith

/-- Cutting one more bit halves the value. -/
theorem Retains.shiftRightOne {cut : ExtendedMantissa} {value : ℚ}
    (retains : Retains cut value) : Retains cut.shiftRightOne (value / 2) := by
  obtain ⟨lost, nonneg, small, sticky, equal⟩ := retains
  have parity : (cut.mantissa : ℚ) = 2 * (cut.mantissa / 2 : ℕ) + (cut.mantissa % 2 : ℕ) := by
    exact_mod_cast (Nat.div_add_mod cut.mantissa 2).symm
  have bit : (if (cut.mantissa % 2 != 0) = true then (1 : ℚ) else 0) = (cut.mantissa % 2 : ℕ) := by
    rcases Nat.mod_two_eq_zero_or_one cut.mantissa with even | odd
    · simp [even]
    · simp [odd]
  -- what is lost now is the bit that was kept, and what was lost before
  refine ⟨((if cut.roundBit then 1 else 0) + lost) / 2, ?_, ?_, ?_, ?_⟩
  · split <;> linarith
  · split <;> linarith
  · simp only [ExtendedMantissa.shiftRightOne, Bool.or_eq_true, sticky]
    cases cut.roundBit
    · simp
    · simp only [true_or, if_true, true_iff]
      intro zero
      linarith
  · change 2 * (value / 2) = 2 * ((cut.mantissa / 2 : ℕ) : ℚ) +
      (if (cut.mantissa % 2 != 0) = true then 1 else 0) + _
    rw [bit]
    linarith

theorem Retains.shiftRight {cut : ExtendedMantissa} {value : ℚ} (retains : Retains cut value)
    (bits : ℕ) : Retains (cut >>> bits) (value / 2 ^ bits) := by
  induction bits with
  | zero =>
    rw [pow_zero, div_one]
    exact retains
  | succ bits inductionHypothesis =>
    have halved := inductionHypothesis.shiftRightOne
    rw [div_div, ← pow_succ] at halved
    exact halved

/-- A whole significand stands for itself. -/
theorem retains_exact (mantissa : ℕ) :
    Retains (.ofMantissaAndAccuracy mantissa .exact) mantissa :=
  ⟨0, le_refl 0, zero_lt_one, by simp [ExtendedMantissa.ofMantissaAndAccuracy],
    by simp [ExtendedMantissa.ofMantissaAndAccuracy]⟩

/-- The whole part of a quotient, with the remainder compared to half of the divisor, stands for the
quotient. -/
theorem retains_quotient (dividend : ℕ) {divisor : ℕ} (positive : 0 < divisor) :
    Retains (.ofMantissaAndAccuracy (dividend / divisor)
      (accuracyOfFraction (dividend % divisor) divisor)) (dividend / divisor : ℚ) := by
  have small := Nat.mod_lt dividend positive
  have whole : (dividend : ℚ) = divisor * (dividend / divisor : ℕ) + (dividend % divisor : ℕ) := by
    exact_mod_cast (Nat.div_add_mod dividend divisor).symm
  have nonzero : (0 : ℚ) < divisor := by exact_mod_cast positive
  generalize dividend / divisor = quotient at whole ⊢
  generalize dividend % divisor = remainder at small whole ⊢
  have value : (dividend : ℚ) / divisor = quotient + remainder / divisor := by
    rw [whole, add_div, mul_div_cancel_left₀ _ nonzero.ne']
  have below : (remainder : ℚ) / divisor < 1 := by
    rw [div_lt_one nonzero]
    exact_mod_cast small
  have nonneg : (0 : ℚ) ≤ remainder / divisor := by positivity
  rw [value]
  unfold accuracyOfFraction
  split
  next zero =>
    subst zero
    simpa using retains_exact quotient
  next some =>
    have positive : (0 : ℚ) < remainder / divisor := by
      have : (0 : ℚ) < remainder := by exact_mod_cast Nat.pos_of_ne_zero some
      positivity
    cases ordering : compare (2 * remainder) divisor with
    | lt =>
      have half : (remainder : ℚ) / divisor < 1 / 2 := by
        rw [div_lt_div_iff₀ nonzero two_pos]
        have := Nat.compare_eq_lt.mp ordering
        push_cast [← Nat.cast_lt (α := ℚ)] at this
        linarith
      exact ⟨2 * (remainder / divisor), by linarith, by linarith,
        by simp [ExtendedMantissa.ofMantissaAndAccuracy, positive.ne'],
        by simp [ExtendedMantissa.ofMantissaAndAccuracy]; ring⟩
    | eq =>
      have half : (remainder : ℚ) / divisor = 1 / 2 := by
        rw [div_eq_div_iff nonzero.ne' two_ne_zero]
        have := Nat.compare_eq_eq.mp ordering
        have : (2 * remainder : ℚ) = divisor := by exact_mod_cast this
        linarith
      exact ⟨0, le_refl 0, zero_lt_one, by simp [ExtendedMantissa.ofMantissaAndAccuracy],
        by simp [ExtendedMantissa.ofMantissaAndAccuracy, half]; ring⟩
    | gt =>
      have half : 1 / 2 < (remainder : ℚ) / divisor := by
        rw [div_lt_div_iff₀ two_pos nonzero]
        have := Nat.compare_eq_gt.mp ordering
        have : (divisor : ℚ) < 2 * remainder := by exact_mod_cast this
        linarith
      refine ⟨2 * (remainder / divisor) - 1, by linarith, by linarith, ?_,
        by simp [ExtendedMantissa.ofMantissaAndAccuracy]; ring⟩
      simp only [ExtendedMantissa.ofMantissaAndAccuracy, ne_eq, true_iff]
      intro zero
      linarith

/-! ## The nearest whole number -/

/-- A whole number is the nearest one to a value; of two that are equally near it is the even one. -/
structure RoundsTo (value : ℚ) (n : ℕ) : Prop where
  low : (n : ℚ) - 1 / 2 < value ∨ n % 2 = 0 ∧ (n : ℚ) - 1 / 2 = value
  high : value < n + 1 / 2 ∨ n % 2 = 0 ∧ value = n + 1 / 2

theorem RoundsTo.bounds {value : ℚ} {n : ℕ} (rounds : RoundsTo value n) :
    (n : ℚ) - 1 / 2 ≤ value ∧ value ≤ n + 1 / 2 := by
  constructor
  · rcases rounds.low with low | ⟨-, low⟩ <;> linarith
  · rcases rounds.high with high | ⟨-, high⟩ <;> linarith

/-- Whole numbers that are less than one apart are equal. -/
theorem eq_of_cast_lt {m n : ℕ} (below : (m : ℚ) < n + 1) (above : (n : ℚ) < m + 1) : m = n := by
  have below : m < n + 1 := by exact_mod_cast below
  have above : n < m + 1 := by exact_mod_cast above
  omega

theorem Retains.roundedMantissa {cut : ExtendedMantissa} {value : ℚ} (retains : Retains cut value)
    {n : ℕ} (rounds : RoundsTo value n) : cut.roundedMantissa = n := by
  obtain ⟨lost, nonneg, small, sticky, equal⟩ := retains
  obtain ⟨low, high⟩ := rounds.bounds
  obtain ⟨mantissa, roundBit, stickyBit⟩ := cut
  simp only [ExtendedMantissa.roundedMantissa, ExtendedMantissa.accuracy] at equal sticky ⊢
  cases roundBit <;> cases stickyBit <;>
    simp only [Bool.false_eq_true, false_iff, true_iff, not_not, if_false, if_true] at sticky equal ⊢
  case false.false =>
    -- nothing is lost
    exact eq_of_cast_lt (m := mantissa) (by linarith) (by linarith)
  case false.true =>
    have positive : 0 < lost := lt_of_le_of_ne nonneg (Ne.symm sticky)
    exact eq_of_cast_lt (m := mantissa) (by linarith) (by linarith)
  case true.false =>
    -- a tie: the even neighbour is the one to which the value rounds
    have below : mantissa ≤ n := by
      have : (mantissa : ℚ) ≤ n := by linarith
      exact_mod_cast this
    have above : n ≤ mantissa + 1 := by
      have : (n : ℚ) ≤ mantissa + 1 := by linarith
      exact_mod_cast this
    change mantissa + mantissa % 2 = n
    rcases Nat.lt_or_ge mantissa n with lower | upper
    · have next : n = mantissa + 1 := by omega
      rcases rounds.low with strict | ⟨even, -⟩
      · subst next
        push_cast at strict
        linarith
      · omega
    · have same : n = mantissa := by omega
      rcases rounds.high with strict | ⟨even, -⟩
      · subst same
        linarith
      · omega
  case true.true =>
    have positive : 0 < lost := lt_of_le_of_ne nonneg (Ne.symm sticky)
    have low : ((mantissa + 1 : ℕ) : ℚ) < n + 1 := by
      push_cast
      linarith
    have high : (n : ℚ) < (mantissa + 1 : ℕ) + 1 := by
      push_cast
      linarith
    exact eq_of_cast_lt low high

/-! ## Doubles -/

namespace Binary

/-- The significand and exponent of a finite double other than zero: all 53 bits are used, but for
the smallest doubles. The double below is closer where the significand is the smallest one. -/
structure Canonical (b : Binary) : Prop where
  positive : 0 < b.significand
  below : b.significand < 2 ^ 53
  minimum : -1074 ≤ b.exponent
  maximum : b.exponent ≤ 971
  normal : 2 ^ 52 ≤ b.significand ∨ b.exponent = -1074
  closer : b.closerBelow = true ↔ b.significand = 2 ^ 52 ∧ b.exponent ≠ -1074

/-- A value lies among those that round to a double, where `value` is in quarters of the double's
last bit: from half way to the double below up to half way to the double above, the ends included
if the significand is even. -/
structure Encloses (b : Binary) (value : ℚ) : Prop where
  low : ((4 * b.significand - if b.closerBelow then 1 else 2 : ℕ) : ℚ) < value ∨
    b.significand % 2 = 0 ∧ ((4 * b.significand - if b.closerBelow then 1 else 2 : ℕ) : ℚ) = value
  high : value < (4 * b.significand + 2 : ℕ) ∨
    b.significand % 2 = 0 ∧ value = (4 * b.significand + 2 : ℕ)

/-- A value rounds to a double. -/
def Rounds (b : Binary) (value : ℚ) : Prop := b.Encloses (value / 2 ^ (b.exponent - 2))

variable {b : Binary} {value : ℚ}

theorem Canonical.log2_le (canonical : b.Canonical) : b.significand.log2 ≤ 52 := by
  have small := (Nat.log2_lt canonical.positive.ne').mpr canonical.below
  omega

theorem Encloses.bounds (encloses : b.Encloses value) (positive : 0 < b.significand) :
    (4 * b.significand - 2 : ℚ) ≤ value ∧ value ≤ 4 * b.significand + 2 := by
  obtain ⟨low, high⟩ := encloses
  constructor
  · have least : (4 * b.significand - 2 : ℚ) ≤
        ((4 * b.significand - if b.closerBelow then 1 else 2 : ℕ) : ℚ) := by
      rw [Nat.cast_sub (by split <;> omega)]
      push_cast
      split <;> linarith
    rcases low with low | ⟨-, low⟩ <;> linarith
  · push_cast at high
    rcases high with high | ⟨-, high⟩ <;> linarith

/-- In units of the last bit, a value that rounds to a double rounds to its significand. -/
theorem Encloses.roundsTo (encloses : b.Encloses value) (positive : 0 < b.significand) :
    RoundsTo (value / 4) b.significand := by
  obtain ⟨low, high⟩ := encloses
  rw [Nat.cast_sub (by split <;> omega)] at low
  push_cast at low high
  constructor
  · cases closer : b.closerBelow
    · simp only [closer, Bool.false_eq_true, if_false] at low
      rcases low with low | ⟨even, low⟩
      · exact .inl (by linarith)
      · exact .inr ⟨even, by linarith⟩
    · simp only [closer, if_true] at low
      rcases low with low | ⟨even, low⟩ <;> exact .inl (by linarith)
  · rcases high with high | ⟨even, high⟩
    · exact .inl (by linarith)
    · exact .inr ⟨even, by linarith⟩

end Binary

/-! ## The two steps -/

theorem mantissa_ofMantissaAndAccuracy (mantissa : ℕ) (accuracy : Accuracy) :
    (ExtendedMantissa.ofMantissaAndAccuracy mantissa accuracy).mantissa = mantissa := by
  rcases accuracy with _ | (_ | _ | _) <;> rfl

theorem targetExponent_eq (mantissa : ℕ) (exponent : ℤ) :
    Format.binary64.targetExponent (totalExponent mantissa exponent) =
      max (mantissa.log2 + exponent - 52) (-1074) := by
  simp only [Format.targetExponent, totalExponent, Format.mantissaBits, Format.minExponent]
  norm_num
  omega

theorem retains_shiftToExponent (target : ℤ) {mantissa : ℕ} {exponent : ℤ} {accuracy : Accuracy}
    {value : ℚ} (retains : Retains (.ofMantissaAndAccuracy mantissa accuracy) (value / 2 ^ exponent))
    (le : exponent ≤ target) :
    Retains (shiftToExponent mantissa exponent accuracy target).1 (value / 2 ^ target) ∧
      (shiftToExponent mantissa exponent accuracy target).2 = target := by
  have shift : exponent + ((target - exponent).toNat : ℤ) = target := by omega
  refine ⟨?_, shift⟩
  have shifted := retains.shiftRight (target - exponent).toNat
  rw [div_div, ← zpow_natCast, ← zpow_add₀ two_ne_zero, shift] at shifted
  exact shifted

/-- A significand that fits stays as it is. -/
theorem shiftToTargetExponent_of_fits {mantissa : ℕ} {exponent : ℤ} (small : mantissa.log2 ≤ 52)
    (minimum : -1074 ≤ exponent) :
    shiftToTargetExponent Format.binary64 mantissa exponent .exact =
      (.ofMantissaAndAccuracy mantissa .exact, exponent) := by
  have none : (max (mantissa.log2 + exponent - 52) (-1074) - exponent).toNat = 0 := by omega
  simp only [shiftToTargetExponent, shiftToExponent, targetExponent_eq, none]
  exact congrArg (Prod.mk _) (add_zero exponent)

/-- A significand that has just become too long is cut by one bit. -/
theorem shiftToTargetExponent_of_overflow {exponent : ℤ} (minimum : -1074 ≤ exponent) :
    shiftToTargetExponent Format.binary64 (2 ^ 53) exponent .exact =
      (.ofMantissaAndAccuracy (2 ^ 52) .exact, exponent + 1) := by
  have one : (max (((2 ^ 53 : ℕ).log2 : ℤ) + exponent - 52) (-1074) - exponent).toNat = 1 := by
    rw [Nat.log2_two_pow]
    omega
  simp only [shiftToTargetExponent, shiftToExponent, targetExponent_eq, one]
  rfl

section Finding

variable {b : Binary} {value : ℚ} {target : ℤ}

/-- Where the value is cut at the exponent of the double, its significand is found. -/
theorem roundsTo_of_eq (canonical : b.Canonical) (rounds : b.Rounds value) :
    RoundsTo (value / 2 ^ b.exponent) b.significand := by
  have found := rounds.roundsTo canonical.positive
  rw [div_div, zpow_sub₀ two_ne_zero] at found
  norm_num at found
  exact found

/-- The value may also be cut one bit below the exponent of the double: then it rounds up to a
significand that is too long, since it lies just below a power of two. -/
theorem roundsTo_of_lt (canonical : b.Canonical) (rounds : b.Rounds value)
    (minimum : -1074 ≤ target) (lt : target < b.exponent) (below : value < 2 ^ (target + 53)) :
    b.significand = 2 ^ 52 ∧ b.exponent = target + 1 ∧ RoundsTo (value / 2 ^ target) (2 ^ 53) := by
  have normal : 2 ^ 52 ≤ b.significand := canonical.normal.resolve_right (by omega)
  have large : (2 ^ 52 : ℚ) ≤ b.significand := by exact_mod_cast normal
  have low := (rounds.bounds canonical.positive).1
  have unit : (0 : ℚ) < 2 ^ (b.exponent - 2) := zpow_pos two_pos _
  rw [le_div_iff₀ unit] at low
  -- the value is below 53 bits at the target, so the double is not further up than one bit
  have next : b.exponent = target + 1 := by
    by_contra other
    have power : (2 : ℚ) ^ (target + 53) ≤ 2 ^ (51 : ℤ) * 2 ^ b.exponent := by
      rw [← zpow_add₀ two_ne_zero]
      exact zpow_le_zpow_right₀ one_le_two (by omega)
    have positive : (0 : ℚ) < 2 ^ b.exponent := zpow_pos two_pos _
    have scaled := mul_le_mul_of_nonneg_right large positive.le
    rw [zpow_sub₀ two_ne_zero] at low
    norm_num at low power scaled
    linarith
  have power : (2 : ℚ) ^ (target + 53) = 2 ^ (54 : ℤ) * 2 ^ (b.exponent - 2) := by
    rw [← zpow_add₀ two_ne_zero]
    congr 1
    omega
  rw [power] at below
  norm_num at below
  have least : b.significand = 2 ^ 52 := by
    have : (b.significand : ℚ) < 2 ^ 52 + 1 := by nlinarith
    have : b.significand < 2 ^ 52 + 1 := by exact_mod_cast this
    omega
  refine ⟨least, next, ?_⟩
  have closer : b.closerBelow = true := canonical.closer.mpr ⟨least, by omega⟩
  have half : value / 2 ^ target = value / 2 ^ (b.exponent - 2) / 2 := by
    have exponent : target = b.exponent - 2 + 1 := by omega
    rw [exponent, zpow_add₀ two_ne_zero, zpow_one, div_div]
  have small : value / 2 ^ (b.exponent - 2) < 18014398509481984 := (div_lt_iff₀ unit).mpr below
  rw [half]
  obtain ⟨low, -⟩ := rounds
  simp only [closer, least, if_true] at low
  norm_num at low
  constructor
  · rcases low with low | low
    · exact .inl (by norm_num; linarith)
    · exact .inr ⟨by norm_num, by norm_num; linarith⟩
  · exact .inl (by norm_num; linarith)

/-- The value is never cut above the exponent of the double. -/
theorem not_lt_of_le (canonical : b.Canonical) (rounds : b.Rounds value)
    (above : 2 ^ (target + 52) ≤ value) : ¬b.exponent < target := by
  intro lt
  have high := (rounds.bounds canonical.positive).2
  have unit : (0 : ℚ) < 2 ^ (b.exponent - 2) := zpow_pos two_pos _
  have large : (b.significand : ℚ) ≤ 2 ^ 53 - 1 := by
    have : b.significand + 1 ≤ 2 ^ 53 := canonical.below
    have : (b.significand : ℚ) + 1 ≤ 2 ^ 53 := by exact_mod_cast this
    linarith
  rw [div_le_iff₀ unit] at high
  have power : (2 : ℚ) ^ (55 : ℤ) * 2 ^ (b.exponent - 2) ≤ 2 ^ (target + 52) := by
    rw [← zpow_add₀ two_ne_zero]
    exact zpow_le_zpow_right₀ one_le_two (by omega)
  norm_num at power
  nlinarith

end Finding

/-- Rounding finds the double to which a value rounds, if enough bits of the value are given, or
bits down to the last one of the smallest double. -/
theorem roundWithAccuracy_eq {b : Binary} (canonical : b.Canonical) {value : ℚ}
    (rounds : b.Rounds value) (sign : Sign) {mantissa : ℕ} {exponent : ℤ} {accuracy : Accuracy}
    (retains : Retains (.ofMantissaAndAccuracy mantissa accuracy) (value / 2 ^ exponent))
    (wide : 52 ≤ mantissa.log2 ∨ exponent ≤ -1074) :
    roundWithAccuracy Format.binary64 sign mantissa exponent accuracy =
      .finite sign b.significand b.exponent canonical.positive := by
  obtain ⟨least, most⟩ := retains.bounds
  rw [mantissa_ofMantissaAndAccuracy] at least most
  have unit : (0 : ℚ) < 2 ^ exponent := zpow_pos two_pos _
  rw [le_div_iff₀ unit] at least
  rw [div_lt_iff₀ unit] at most
  obtain ⟨target, isTarget⟩ : ∃ target, target = max (mantissa.log2 + exponent - 52) (-1074) :=
    ⟨_, rfl⟩
  obtain ⟨cut, same⟩ := retains_shiftToExponent target retains (by omega)
  have first : shiftToTargetExponent Format.binary64 mantissa exponent accuracy =
      ((shiftToExponent mantissa exponent accuracy target).1, target) := by
    rw [shiftToTargetExponent, targetExponent_eq, ← isTarget, Prod.ext_iff]
    exact ⟨rfl, same⟩
  have below : value < 2 ^ (target + 53) := by
    have bits : ((mantissa : ℚ) + 1) ≤ 2 ^ ((mantissa.log2 : ℤ) + 1) := by
      have := Nat.lt_log2_self (n := mantissa)
      exact_mod_cast this
    have power : (2 : ℚ) ^ ((mantissa.log2 : ℤ) + 1) * 2 ^ exponent ≤ 2 ^ (target + 53) := by
      rw [← zpow_add₀ two_ne_zero]
      exact zpow_le_zpow_right₀ one_le_two (by omega)
    nlinarith
  have notAbove : ¬b.exponent < target := by
    intro lt
    have minimum := canonical.minimum
    refine not_lt_of_le canonical rounds ?_ lt
    have bits : (2 : ℚ) ^ (mantissa.log2 : ℤ) ≤ mantissa := by
      have := Nat.log2_self_le (n := mantissa) (by rintro rfl; rw [Nat.log2_zero] at *; omega)
      exact_mod_cast this
    have power : (2 : ℚ) ^ (target + 52) = 2 ^ (mantissa.log2 : ℤ) * 2 ^ exponent := by
      rw [← zpow_add₀ two_ne_zero]
      congr 1
      omega
    rw [power]
    nlinarith
  rw [roundWithAccuracy]
  rcases Int.lt_or_eq_of_le (not_lt.mp notAbove) with lt | equal
  · obtain ⟨significand, next, up⟩ := roundsTo_of_lt canonical rounds (by omega) lt below
    simp only [first, cut.roundedMantissa up, shiftToTargetExponent_of_overflow
      (show -1074 ≤ target by omega), mantissa_ofMantissaAndAccuracy, significand, next]
    exact dif_neg (by norm_num)
  · subst equal
    have found := cut.roundedMantissa (roundsTo_of_eq canonical rounds)
    simp only [first, found, shiftToTargetExponent_of_fits canonical.log2_le canonical.minimum,
      mantissa_ofMantissaAndAccuracy]
    exact dif_neg canonical.positive.ne'

end ReverseDns.Decimal
