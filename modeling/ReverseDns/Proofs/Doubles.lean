import Mathlib
import ReverseDns.Decimal.Spelling
import ReverseDns.Proofs.Rounding

/-!
# Doubles

A finite double is known by its sign and its exact magnitude, and the decimal that is read as a
double is rounded to the nearest one.

* `unpack_eq` -- the bits of a finite double are those of its magnitude
* `ofMagnitude` -- the double with a sign and a magnitude
* `ofScientific_eq` -- reading rounds a decimal once
* `ofDecimal_eq` -- the double that is read is the one to which the decimal rounds
-/

namespace ReverseDns.Decimal

open Float.Model Float.Model.UnpackedFloat

/-! ## Bits -/

theorem exponentBits_eq (x : Float) :
    exponentBits x = (@unpackExponent Format.binary64 x.toModel.toBits.toBitVec).toNat := by
  simp only [exponentBits, UInt64.toNat_and, UInt64.toNat_shiftRight, unpackExponent,
    BitVec.toNat_cast, BitVec.extractLsb_toNat, Nat.shiftRight_eq_div_pow]
  exact Nat.and_two_pow_sub_one_eq_mod _ 11

theorem fractionBits_eq (x : Float) :
    fractionBits x = (@unpackMantissa Format.binary64 x.toModel.toBits.toBitVec).toNat := by
  simp only [fractionBits, UInt64.toNat_and, unpackMantissa, BitVec.toNat_cast,
    BitVec.extractLsb_toNat, Nat.shiftRight_zero]
  exact Nat.and_two_pow_sub_one_eq_mod _ 52

theorem isNegative_iff (x : Float) :
    isNegative x = true ↔ @unpackSign Format.binary64 x.toModel.toBits.toBitVec ≠ 0#1 := by
  have sign : (@unpackSign Format.binary64 x.toModel.toBits.toBitVec).toNat =
      x.toBits.toNat / 2 ^ 63 % 2 := by
    rw [unpackSign, BitVec.toNat_cast, BitVec.extractLsb_toNat, Nat.shiftRight_eq_div_pow]
    rfl
  have bit : (x.toBits >>> 63).toNat = x.toBits.toNat / 2 ^ 63 := by
    rw [UInt64.toNat_shiftRight, Nat.shiftRight_eq_div_pow]
    rfl
  have small := x.toBits.toNat_lt
  rw [isNegative, bne_iff_ne, ne_eq, ← UInt64.toNat_inj, bit, ne_eq, ← BitVec.toNat_inj, sign]
  change ¬_ = 0 ↔ ¬_ = 0
  omega

theorem fractionBits_lt (x : Float) : fractionBits x < 2 ^ 52 := by
  rw [fractionBits_eq]
  exact BitVec.isLt _

theorem exponentBits_lt (x : Float) : exponentBits x < 2 ^ 11 := by
  rw [exponentBits_eq]
  exact BitVec.isLt _

section Unpacking

variable {bits : BitVec Format.binary64.numBits}

theorem unpack_subnormal (exponent : (unpackExponent bits).toNat = 0)
    (mantissa : 0 < (unpackMantissa bits).toNat) :
    UnpackedFloat.unpack Format.binary64 bits =
      .finite (.ofBitVec (unpackSign bits)) (unpackMantissa bits).toNat (-1074) mantissa := by
  have zero : unpackExponent bits = 0#11 := BitVec.eq_of_toNat_eq exponent
  have notAll : (0#11 : BitVec 11) ≠ -1#11 := by decide
  have nonzero : unpackMantissa bits ≠ 0#52 := by
    intro equal
    rw [equal] at mantissa
    exact absurd mantissa (by decide)
  unfold UnpackedFloat.unpack
  simp only [zero, notAll, nonzero, if_true, if_false, dif_neg, not_false_eq_true]
  rfl

theorem unpack_none (exponent : (unpackExponent bits).toNat = 0)
    (mantissa : (unpackMantissa bits).toNat = 0) :
    UnpackedFloat.unpack Format.binary64 bits = .zero (.ofBitVec (unpackSign bits)) := by
  have zero : unpackExponent bits = 0#11 := BitVec.eq_of_toNat_eq exponent
  have none : unpackMantissa bits = 0#52 := BitVec.eq_of_toNat_eq mantissa
  have notAll : (0#11 : BitVec 11) ≠ -1#11 := by decide
  unfold UnpackedFloat.unpack
  simp only [zero, none, notAll, if_true, if_false, dif_pos]

theorem unpack_normal (nonzero : (unpackExponent bits).toNat ≠ 0)
    (notAll : (unpackExponent bits).toNat ≠ 2047) :
    UnpackedFloat.unpack Format.binary64 bits =
      .finite (.ofBitVec (unpackSign bits)) (2 ^ 52 + (unpackMantissa bits).toNat)
        ((unpackExponent bits).toNat - 1075) (by positivity) := by
  have zero : unpackExponent bits ≠ 0#11 := fun equal => nonzero (congrArg BitVec.toNat equal)
  have all : unpackExponent bits ≠ -1#11 := fun equal => notAll (congrArg BitVec.toNat equal)
  have whole : (1#1 ++ unpackMantissa bits).toNat = 2 ^ 52 + (unpackMantissa bits).toNat := by
    have small : (unpackMantissa bits).toNat < 2 ^ 52 := BitVec.isLt _
    rw [BitVec.toNat_append, ← Nat.shiftLeft_add_eq_or_of_lt small]
    rfl
  unfold UnpackedFloat.unpack
  simp only [zero, all, if_false, whole]
  rfl

end Unpacking

/-! ## Magnitudes -/

variable {x : Float}

/-- The magnitude of a finite double other than zero has the form of one. -/
theorem Binary.canonical_ofFloat (finite : isFinite x = true)
    (nonzero : (Binary.ofFloat x).significand ≠ 0) : (Binary.ofFloat x).Canonical := by
  have fraction := fractionBits_lt x
  have exponent := exponentBits_lt x
  have notAll : exponentBits x ≠ 0x7FF := by simpa [isFinite] using finite
  unfold Binary.ofFloat at nonzero ⊢
  dsimp only at nonzero ⊢
  split
  next subnormal =>
    rw [if_pos subnormal] at nonzero
    exact {
      positive := Nat.pos_of_ne_zero nonzero
      below := by
        dsimp only
        omega
      minimum := le_refl _
      maximum := by
        dsimp only
        omega
      normal := .inr rfl
      closer := by simp }
  next normal =>
    constructor <;>
      simp only [Nat.pow_eq, Bool.and_eq_true, beq_iff_eq, decide_eq_true_eq, gt_iff_lt] <;> omega

/-- The sign of a double. -/
def signOf (x : Float) : Sign := if isNegative x then .negative else .positive

theorem ofBitVec_unpackSign (x : Float) :
    Sign.ofBitVec (@unpackSign Format.binary64 x.toModel.toBits.toBitVec) = signOf x := by
  unfold signOf Sign.ofBitVec
  by_cases zero : @unpackSign Format.binary64 x.toModel.toBits.toBitVec = 0#1
  · have positive : isNegative x ≠ true := fun negative => (isNegative_iff x).mp negative zero
    rw [if_pos zero, if_neg positive]
  · rw [if_neg zero, if_pos ((isNegative_iff x).mpr zero)]

/-- The bits of a finite double other than zero are those of its sign and its magnitude. -/
theorem unpack_eq (finite : isFinite x = true) (nonzero : (Binary.ofFloat x).significand ≠ 0) :
    x.toModel.unpack = .finite (signOf x) (Binary.ofFloat x).significand
      (Binary.ofFloat x).exponent (Nat.pos_of_ne_zero nonzero) := by
  have notAll : exponentBits x ≠ 0x7FF := by simpa [isFinite] using finite
  rw [Float.Model.unpack]
  by_cases zero : exponentBits x = 0
  · have magnitude : Binary.ofFloat x = ⟨fractionBits x, -1074, false⟩ := if_pos zero
    rw [magnitude] at nonzero
    simp only [magnitude]
    rw [exponentBits_eq] at zero
    rw [fractionBits_eq] at nonzero
    rw [unpack_subnormal zero (Nat.pos_of_ne_zero nonzero), ofBitVec_unpackSign]
    simp only [fractionBits_eq]
  · have magnitude : Binary.ofFloat x = ⟨Nat.pow 2 52 + fractionBits x, exponentBits x - 1075,
        fractionBits x == 0 && exponentBits x > 1⟩ := if_neg zero
    simp only [magnitude]
    rw [exponentBits_eq] at zero notAll
    rw [unpack_normal zero notAll, ofBitVec_unpackSign]
    simp only [fractionBits_eq, exponentBits_eq]
    rfl

/-- A double without a magnitude is one of the two zeros. -/
theorem unpack_zero (zero : (Binary.ofFloat x).significand = 0) :
    x.toModel.unpack = .zero (signOf x) := by
  rw [Binary.ofFloat] at zero
  split at zero
  next exponent =>
    rw [exponentBits_eq] at exponent
    rw [fractionBits_eq] at zero
    rw [Float.Model.unpack, unpack_none exponent zero, ofBitVec_unpackSign]
  next => simp at zero

/-! ## The double with a magnitude -/

/-- The double with a sign and a magnitude. -/
def ofMagnitude (sign : Sign) (b : Binary) (positive : 0 < b.significand) : Float :=
  .ofModel (.pack (.finite sign b.significand b.exponent positive))

theorem eq_ofMagnitude (finite : isFinite x = true)
    (nonzero : (Binary.ofFloat x).significand ≠ 0) :
    x = ofMagnitude (signOf x) (Binary.ofFloat x) (Nat.pos_of_ne_zero nonzero) := by
  rw [ofMagnitude, ← unpack_eq finite nonzero]
  have bits : UnpackedFloat.pack Format.binary64 x.toModel.unpack = x.toModel.toBits.toBitVec :=
    pack_unpack_of_valid x.toModel.valid
  obtain ⟨⟨bits, valid⟩⟩ := x
  congr 2
  exact (congrArg UInt64.ofBitVec bits).symm

theorem unpack_ofMagnitude {b : Binary} (canonical : b.Canonical) (sign : Sign) :
    (ofMagnitude sign b canonical.positive).toModel.unpack =
      .finite sign b.significand b.exponent canonical.positive := by
  have positive := canonical.positive
  have below := canonical.below
  have minimum := canonical.minimum
  have maximum := canonical.maximum
  have signed : Sign.ofBitVec sign.toBitVec = sign := Sign.ofBitVec_toBitVec sign
  have bits : (ofMagnitude sign b canonical.positive).toModel.toBits.toBitVec =
      UnpackedFloat.pack Format.binary64 (.finite sign b.significand b.exponent positive) := rfl
  have bias : (b.exponent + Format.binary64.exponentBias +
      Format.binary64.mantissaBitsWithoutImplicit).toNat = (b.exponent + 1075).toNat := by
    have : (Format.binary64.exponentBias : ℤ) = 1023 := rfl
    have : (Format.binary64.mantissaBitsWithoutImplicit : ℤ) = 52 := rfl
    omega
  rw [Float.Model.unpack, bits, UnpackedFloat.pack]
  simp only [bias]
  rw [if_neg (by simp; omega)]
  by_cases normal : 2 ^ 52 ≤ b.significand
  · have log : b.significand.log2 + 1 = Format.binary64.mantissaBits := by
      have := (Nat.log2_eq_iff positive.ne').mpr ⟨normal, below⟩
      rw [this]
      rfl
    have exponent : (BitVec.ofNat 11 (b.exponent + 1075).toNat).toNat = (b.exponent + 1075).toNat := by
      rw [BitVec.toNat_ofNat]
      omega
    have mantissa : (BitVec.ofNat 52 b.significand).toNat = b.significand - 2 ^ 52 := by
      rw [BitVec.toNat_ofNat]
      omega
    rw [if_pos log, unpack_normal (by rw [unpackExponent_packComponents, exponent]; omega)
      (by rw [unpackExponent_packComponents, exponent]; omega)]
    simp only [unpackExponent_packComponents, unpackMantissa_packComponents,
      unpackSign_packComponents, signed, exponent, mantissa, UnpackedFloat.finite.injEq, true_and]
    omega
  · have least : b.exponent = -1074 := canonical.normal.resolve_left normal
    have log : b.significand.log2 + 1 ≠ Format.binary64.mantissaBits := by
      have := (Nat.log2_lt positive.ne').mpr (not_le.mp normal)
      have : Format.binary64.mantissaBits = 53 := rfl
      omega
    have mantissa : (BitVec.ofNat 52 b.significand).toNat = b.significand := by
      rw [BitVec.toNat_ofNat]
      omega
    rw [if_neg log, unpack_subnormal (by rw [unpackExponent_packComponents]; rfl)
      (by rw [unpackMantissa_packComponents, mantissa]; exact positive)]
    simp only [unpackMantissa_packComponents, unpackSign_packComponents, signed, mantissa, least]

theorem neg_ofMagnitude {b : Binary} (canonical : b.Canonical) (sign : Sign) :
    -ofMagnitude sign b canonical.positive = ofMagnitude (-sign) b canonical.positive := by
  change Float.ofModel (.pack (ofMagnitude sign b canonical.positive).toModel.unpack.neg) = _
  rw [unpack_ofMagnitude canonical]
  rfl

theorem ofMagnitude_ne_zero {b : Binary} (canonical : b.Canonical) :
    (ofMagnitude .positive b canonical.positive == 0) = false := by
  have zero : (0 : Float).toModel.unpack = .zero .positive := rfl
  change ((ofMagnitude .positive b canonical.positive).toModel.unpack.beq
    (0 : Float).toModel.unpack) = false
  rw [unpack_ofMagnitude canonical, zero]
  rfl

/-! ## Products and quotients -/

section Arithmetic

variable {b : Binary} {m n : ℕ} {i j : ℤ} (mPos : 0 < m) (nPos : 0 < n)

theorem mul_eq_of_rounds (canonical : b.Canonical) (rounds : b.Rounds (m * 2 ^ i * (n * 2 ^ j)))
    (wide : 52 ≤ (m * n).log2) :
    mul Format.binary64 (.finite .positive m i mPos) (.finite .positive n j nPos) =
      .finite .positive b.significand b.exponent canonical.positive := by
  have exact : (m * 2 ^ i * (n * 2 ^ j) / 2 ^ (i + j) : ℚ) = (m * n : ℕ) := by
    have first : (2 : ℚ) ^ i ≠ 0 := zpow_ne_zero _ two_ne_zero
    have second : (2 : ℚ) ^ j ≠ 0 := zpow_ne_zero _ two_ne_zero
    rw [zpow_add₀ two_ne_zero]
    push_cast
    field_simp
  have retains := retains_exact (m * n)
  rw [← exact] at retains
  exact roundWithAccuracy_eq canonical rounds .positive retains (.inl wide)

theorem div_eq_of_rounds (canonical : b.Canonical) (rounds : b.Rounds (m * 2 ^ i / (n * 2 ^ j))) :
    div Format.binary64 (.finite .positive m i mPos) (.finite .positive n j nPos) =
      .finite .positive b.significand b.exponent canonical.positive := by
  obtain ⟨target, isTarget⟩ : ∃ target, target = min (i - j)
      (Format.binary64.targetExponent (totalExponent m i - totalExponent n j)) := ⟨_, rfl⟩
  obtain ⟨shift, isShift⟩ : ∃ shift, shift = (i - j - target).toNat := ⟨_, rfl⟩
  have bound : target ≤ max ((m.log2 : ℤ) + i - n.log2 - j - 53) (-1074) := by
    simp only [Format.targetExponent, totalExponent, Format.mantissaBits, Format.minExponent]
      at isTarget
    norm_num at isTarget
    omega
  have core : divCore Format.binary64 m i n j =
      ((m <<< shift) / n, target, accuracyOfFraction ((m <<< shift) % n) n) := by
    rw [isShift, isTarget]
    rfl
  have quotient : (m * 2 ^ i / (n * 2 ^ j) / 2 ^ target : ℚ) = (m <<< shift : ℕ) / n := by
    have exponent : i = shift + j + target := by omega
    have unit (k : ℤ) : (2 : ℚ) ^ k ≠ 0 := zpow_ne_zero _ two_ne_zero
    rw [Nat.shiftLeft_eq, exponent, zpow_add₀ two_ne_zero, zpow_add₀ two_ne_zero]
    push_cast
    have := unit j
    have := unit target
    field_simp
    simp
  have retains := retains_quotient (m <<< shift) nPos
  rw [← quotient] at retains
  refine (congrArg (fun core : ℕ × ℤ × Accuracy => roundWithAccuracy Format.binary64 .positive
    core.1 core.2.1 core.2.2) core).trans (roundWithAccuracy_eq canonical rounds _ retains ?_)
  by_cases small : target ≤ -1074
  · exact .inr small
  · left
    -- the dividend was shifted until the quotient has 53 bits
    have enough : n.log2 + 53 ≤ m.log2 + shift := by omega
    have dividend : 2 ^ (m.log2 + shift) ≤ m <<< shift := by
      rw [Nat.shiftLeft_eq, pow_add]
      exact Nat.mul_le_mul_right _ (Nat.log2_self_le mPos.ne')
    have divisor : n * 2 ^ 52 ≤ 2 ^ (n.log2 + 53) := by
      have := Nat.lt_log2_self (n := n)
      rw [show n.log2 + 53 = n.log2 + 1 + 52 by omega, pow_add _ (n.log2 + 1)]
      exact Nat.mul_le_mul_right _ this.le
    have large : 2 ^ 52 ≤ (m <<< shift) / n := by
      rw [Nat.le_div_iff_mul_le nPos, mul_comm]
      exact divisor.trans ((Nat.pow_le_pow_right two_pos enough).trans dividend)
    exact (Nat.le_log2 (by omega)).mpr large

end Arithmetic

/-! ## Whole numbers -/

/-- The magnitude of a whole number that fits into 53 bits. -/
def ofWhole (m : ℕ) : Binary where
  significand := m <<< (52 - m.log2)
  exponent := m.log2 - 52
  closerBelow := m <<< (52 - m.log2) == 2 ^ 52

theorem log2_le_of_lt {m : ℕ} (positive : 0 < m) (small : m < 2 ^ 53) : m.log2 ≤ 52 := by
  have := (Nat.log2_lt positive.ne').mpr small
  omega

theorem significand_ofWhole {m : ℕ} (positive : 0 < m) (small : m < 2 ^ 53) :
    2 ^ 52 ≤ (ofWhole m).significand ∧ (ofWhole m).significand < 2 ^ 53 := by
  have log := log2_le_of_lt positive small
  have low := Nat.log2_self_le positive.ne'
  have high := Nat.lt_log2_self (n := m)
  rw [ofWhole, Nat.shiftLeft_eq]
  constructor
  · calc 2 ^ 52 = 2 ^ m.log2 * 2 ^ (52 - m.log2) := by rw [← pow_add]; congr 1; omega
      _ ≤ m * 2 ^ (52 - m.log2) := Nat.mul_le_mul_right _ low
  · calc m * 2 ^ (52 - m.log2) < 2 ^ (m.log2 + 1) * 2 ^ (52 - m.log2) :=
        Nat.mul_lt_mul_of_pos_right high (by positivity)
      _ = 2 ^ 53 := by rw [← pow_add]; congr 1; omega

theorem canonical_ofWhole {m : ℕ} (positive : 0 < m) (small : m < 2 ^ 53) :
    (ofWhole m).Canonical := by
  obtain ⟨low, high⟩ := significand_ofWhole positive small
  have log := log2_le_of_lt positive small
  exact {
    positive := by omega
    below := high
    minimum := by
      simp only [ofWhole]
      omega
    maximum := by
      simp only [ofWhole]
      omega
    normal := .inl low
    closer := by
      simp only [ofWhole, beq_iff_eq, iff_self_and]
      omega }

theorem value_ofWhole {m : ℕ} (positive : 0 < m) (small : m < 2 ^ 53) :
    ((ofWhole m).significand : ℚ) * 2 ^ (ofWhole m).exponent = m := by
  have log := log2_le_of_lt positive small
  have exponent : ((m.log2 : ℤ) - 52) = -((52 - m.log2 : ℕ) : ℤ) := by omega
  rw [ofWhole, Nat.shiftLeft_eq, exponent, zpow_neg, zpow_natCast]
  push_cast
  field_simp

/-- A double is rounded to itself. -/
theorem Binary.Canonical.rounds {b : Binary} (canonical : b.Canonical) :
    b.Rounds (b.significand * 2 ^ b.exponent) := by
  have positive := canonical.positive
  have exact : (b.significand * 2 ^ b.exponent / 2 ^ (b.exponent - 2) : ℚ) =
      (4 * b.significand : ℕ) := by
    have unit : (2 : ℚ) ^ b.exponent ≠ 0 := zpow_ne_zero _ two_ne_zero
    rw [zpow_sub₀ two_ne_zero]
    push_cast
    field_simp
  rw [Rounds, exact]
  constructor
  · left
    split <;> exact_mod_cast (by omega)
  · left
    exact_mod_cast (by omega)

theorem toFloat_eq {m : ℕ} (positive : 0 < m) (small : m < 2 ^ 53) :
    m.toUInt64.toFloat = ofMagnitude .positive (ofWhole m) (canonical_ofWhole positive small).positive := by
  have canonical := canonical_ofWhole positive small
  have log := log2_le_of_lt positive small
  have same : m.toUInt64.toNat = m := by
    rw [Nat.toUInt64, UInt64.toNat_ofNat']
    omega
  have target : Format.binary64.targetExponent (totalExponent m 0) = m.log2 - 52 := by
    rw [targetExponent_eq]
    omega
  have shift : (0 - ((m.log2 : ℤ) - 52)).toNat = 52 - m.log2 := by omega
  have exponent : (0 : ℤ) - ((52 - m.log2 : ℕ) : ℤ) = m.log2 - 52 := by omega
  have decreased : decreaseExponent m 0 ((m.log2 : ℤ) - 52) =
      ((ofWhole m).significand, (ofWhole m).exponent) := by
    rw [decreaseExponent, shift, exponent]
    rfl
  have wide : 52 ≤ (ofWhole m).significand.log2 :=
    (Nat.le_log2 canonical.positive.ne').mpr (significand_ofWhole positive small).1
  have retains := retains_exact (ofWhole m).significand
  have whole : ((ofWhole m).significand : ℚ) =
      (ofWhole m).significand * 2 ^ (ofWhole m).exponent / 2 ^ (ofWhole m).exponent :=
    (mul_div_cancel_right₀ _ (zpow_ne_zero _ two_ne_zero)).symm
  rw [whole] at retains
  have rounded : round Format.binary64 .positive m 0 =
      .finite .positive (ofWhole m).significand (ofWhole m).exponent canonical.positive := by
    simp only [UnpackedFloat.round, target, decreased]
    exact roundWithAccuracy_eq canonical canonical.rounds .positive retains (.inl wide)
  have greater : compare (m : ℤ) 0 = .gt := Int.compare_eq_gt.mpr (by omega)
  rw [ofMagnitude, ← rounded, UInt64.toFloat, Float.Model.ofUInt64, UnpackedFloat.ofUInt64, same,
    UnpackedFloat.ofNat, UnpackedFloat.ofInt, UnpackedFloat.normalize, greater]
  rfl

/-- Whether a double is a power of ten, with all bits of its significand. -/
def isPowerOfTen (x : Float) (e : ℕ) : Bool :=
  match x.toModel.unpack with
  | .finite .positive significand exponent _ =>
    significand * Nat.pow 2 exponent.toNat == Nat.pow 10 e * Nat.pow 2 (-exponent).toNat &&
      decide (Nat.pow 2 52 ≤ significand)
  | _ => false

/-- The powers of ten that are read from a table are exact. -/
theorem isPowerOfTen_table : ∀ e : Fin 23,
    isPowerOfTen Float.exactlyRepresentablePowersOfTen[e] e = true := by
  decide +kernel

theorem unpack_of_isPowerOfTen {x : Float} {e : ℕ} (power : isPowerOfTen x e = true) :
    ∃ significand exponent, ∃ positive : 0 < significand,
      x.toModel.unpack = .finite .positive significand exponent positive ∧
      2 ^ 52 ≤ significand ∧ (significand : ℚ) * 2 ^ exponent = 10 ^ e := by
  unfold isPowerOfTen at power
  split at power
  next significand exponent positive unpacked =>
    simp only [Bool.and_eq_true, beq_iff_eq, decide_eq_true_eq, Nat.pow_eq] at power
    obtain ⟨equal, large⟩ := power
    refine ⟨significand, exponent, positive, unpacked, large, ?_⟩
    have equal : (significand * 2 ^ exponent.toNat : ℚ) = 10 ^ e * 2 ^ (-exponent).toNat := by
      exact_mod_cast equal
    have split : exponent = exponent.toNat - ((-exponent).toNat : ℤ) := by omega
    rw [split, zpow_sub₀ two_ne_zero, zpow_natCast, zpow_natCast, ← mul_div_assoc, equal]
    exact mul_div_cancel_right₀ _ (by positivity)
  next => cases power

/-! ## Reading -/

section Reading

variable {b : Binary} {m e : ℕ} (positive : 0 < m) (canonical : b.Canonical)

include positive

theorem ofScientific_mul (rounds : b.Rounds (m * 10 ^ e)) (near : e ≤ 2 ^ 11) :
    Float.ofScientific m false e = ofMagnitude .positive b canonical.positive := by
  unfold Float.ofScientific
  split
  next fast =>
    obtain ⟨small, inTable⟩ := fast
    obtain ⟨significand, exponent, powerPositive, unpacked, large, value⟩ :=
      unpack_of_isPowerOfTen (isPowerOfTen_table ⟨e, by omega⟩)
    have whole := canonical_ofWhole positive small
    rw [← value_ofWhole positive small, ← value] at rounds
    have wide : 52 ≤ ((ofWhole m).significand * significand).log2 := by
      have product : 2 ^ 52 * 1 ≤ (ofWhole m).significand * significand :=
        Nat.mul_le_mul (significand_ofWhole positive small).1 powerPositive
      exact (Nat.le_log2 (by omega)).mpr product
    have multiplied := mul_eq_of_rounds whole.positive powerPositive canonical rounds wide
    rw [← unpacked, ← unpack_ofMagnitude whole .positive, ← toFloat_eq positive small] at multiplied
    exact congrArg (fun unpacked => Float.ofModel (.pack unpacked)) multiplied
  next slow =>
    have nonzero : ¬m = 0 := by omega
    have notHuge : ¬(Int.ofNat e > 2 ^ Format.binary64.exponentBits) := by
      simp only [Int.ofNat_eq_natCast]
      omega
    have notTiny : ¬(Int.ofNat e < -((2 ^ Format.binary64.exponentBits : ℤ) + m.log2)) := by
      simp only [Int.ofNat_eq_natCast]
      omega
    have shifted : ((m <<< Format.binary64.mantissaBits : ℕ) : ℚ) *
        2 ^ (-(Format.binary64.mantissaBits : ℤ)) * ((10 ^ e : ℕ) * 2 ^ (0 : ℤ)) = m * 10 ^ e := by
      rw [Nat.shiftLeft_eq, zpow_neg, zpow_natCast, zpow_zero]
      push_cast
      field_simp
    rw [← shifted] at rounds
    have wide : 52 ≤ (m <<< Format.binary64.mantissaBits * 10 ^ e).log2 := by
      have product : 2 ^ 52 * 1 ≤ m <<< Format.binary64.mantissaBits * 10 ^ e := by
        refine Nat.mul_le_mul ?_ (Nat.one_le_pow _ _ (by omega))
        rw [Nat.shiftLeft_eq]
        have bits : Format.binary64.mantissaBits = 53 := rfl
        rw [bits]
        omega
      exact (Nat.le_log2 (by omega)).mpr product
    have multiplied := mul_eq_of_rounds (by rw [Nat.shiftLeft_eq]; positivity) (by positivity)
      canonical rounds wide
    simp only [Bool.false_eq_true, if_false, Float.Model.ofScientific, UnpackedFloat.ofScientific,
      nonzero, notHuge, notTiny, dif_neg, not_false_eq_true]
    exact congrArg (fun unpacked => Float.ofModel (.pack unpacked)) multiplied

theorem ofScientific_div (rounds : b.Rounds (m / 10 ^ e)) (below : 0 < e)
    (near : e ≤ 2 ^ 11 + m.log2) :
    Float.ofScientific m true e = ofMagnitude .positive b canonical.positive := by
  unfold Float.ofScientific
  split
  next fast =>
    obtain ⟨small, inTable⟩ := fast
    obtain ⟨significand, exponent, powerPositive, unpacked, -, value⟩ :=
      unpack_of_isPowerOfTen (isPowerOfTen_table ⟨e, by omega⟩)
    have whole := canonical_ofWhole positive small
    rw [← value_ofWhole positive small, ← value] at rounds
    have divided := div_eq_of_rounds whole.positive powerPositive canonical rounds
    rw [← unpacked, ← unpack_ofMagnitude whole .positive, ← toFloat_eq positive small] at divided
    exact congrArg (fun unpacked => Float.ofModel (.pack unpacked)) divided
  next slow =>
    have nonzero : ¬m = 0 := by omega
    have negative : Int.negOfNat e = -(e : ℤ) := Int.negOfNat_eq
    have bits : (2 ^ Format.binary64.exponentBits : ℤ) = 2 ^ 11 := rfl
    have notHuge : ¬(-(e : ℤ) > 2 ^ Format.binary64.exponentBits) := by omega
    have notTiny : ¬(-(e : ℤ) < -((2 ^ Format.binary64.exponentBits : ℤ) + m.log2)) := by omega
    have notAbove : ¬(0 ≤ -(e : ℤ)) := by omega
    have size : (- -(e : ℤ)).toNat = e := by omega
    have plain : (m : ℚ) * 2 ^ (0 : ℤ) / ((10 ^ e : ℕ) * 2 ^ (0 : ℤ)) = m / 10 ^ e := by
      push_cast
      simp
    rw [← plain] at rounds
    have divided := div_eq_of_rounds positive (by positivity) canonical rounds
    simp only [if_true, Float.Model.ofScientific, UnpackedFloat.ofScientific, nonzero, negative,
      notHuge, notTiny, notAbove, dif_neg, not_false_eq_true, if_false, size]
    exact congrArg (fun unpacked => Float.ofModel (.pack unpacked)) divided

end Reading

theorem length_toDigits {m : ℕ} (positive : 0 < m) :
    10 ^ ((Nat.toDigits 10 m).length - 1) ≤ m ∧ m < 10 ^ (Nat.toDigits 10 m).length := by
  have some : 0 < (Nat.toDigits 10 m).length := Nat.length_toDigits_pos
  have upper := (Nat.length_toDigits_le_iff (n := m) (by omega) some).mp le_rfl
  refine ⟨?_, upper⟩
  by_cases one : (Nat.toDigits 10 m).length = 1
  · rw [one]
    exact positive
  · by_contra less
    have short := (Nat.length_toDigits_le_iff (k := (Nat.toDigits 10 m).length - 1) (n := m)
      (b := 10) (by omega) (by omega)).mpr (not_le.mp less)
    omega

theorem two_pow_lt_ten_pow : (2 : ℚ) ^ (1200 : ℤ) < 10 ^ (400 : ℤ) := by
  have eight : (2 : ℚ) ^ (1200 : ℤ) = 8 ^ 400 := by
    rw [show (8 : ℚ) = 2 ^ 3 by norm_num, ← pow_mul]
    rfl
  rw [eight]
  exact pow_lt_pow_left₀ (by norm_num : (8 : ℚ) < 10) (by norm_num) (by norm_num)

theorem Binary.Rounds.range {b : Binary} (canonical : b.Canonical) {value : ℚ}
    (rounds : b.Rounds value) : (10 : ℚ) ^ (-400 : ℤ) < value ∧ value < 10 ^ (400 : ℤ) := by
  obtain ⟨low, high⟩ := rounds.bounds canonical.positive
  have unit : (0 : ℚ) < 2 ^ (b.exponent - 2) := zpow_pos two_pos _
  rw [le_div_iff₀ unit] at low
  rw [div_le_iff₀ unit] at high
  have least : (1 : ℚ) ≤ b.significand := by exact_mod_cast canonical.positive
  have most : (b.significand : ℚ) ≤ 2 ^ 53 - 1 := by
    have : b.significand + 1 ≤ 2 ^ 53 := canonical.below
    have : (b.significand : ℚ) + 1 ≤ 2 ^ 53 := by exact_mod_cast this
    linarith
  constructor
  · have smallest : (2 : ℚ) ^ (-1200 : ℤ) ≤ 2 ^ (b.exponent - 2) :=
      zpow_le_zpow_right₀ one_le_two (by have := canonical.minimum; omega)
    have far : (10 : ℚ) ^ (-400 : ℤ) < 2 ^ (-1200 : ℤ) := by
      rw [zpow_neg, zpow_neg]
      exact inv_strictAnti₀ (zpow_pos two_pos _) two_pow_lt_ten_pow
    nlinarith
  · have largest : (2 : ℚ) ^ (55 : ℤ) * 2 ^ (b.exponent - 2) ≤ 2 ^ (1200 : ℤ) := by
      rw [← zpow_add₀ two_ne_zero]
      exact zpow_le_zpow_right₀ one_le_two (by have := canonical.maximum; omega)
    have above : (4 * b.significand + 2 : ℚ) ≤ 2 ^ (55 : ℤ) := by
      have fits : (2 : ℚ) ^ (55 : ℤ) = 4 * (2 ^ 53 : ℚ) := by norm_num
      rw [fits]
      linarith
    have product := mul_le_mul_of_nonneg_right above unit.le
    exact high.trans_lt ((product.trans largest).trans_lt two_pow_lt_ten_pow)

/-- The decimal `m * 10 ^ e` is read as the double to which it rounds. -/
theorem ofDecimal_eq {b : Binary} {m : ℕ} {e : ℤ} (canonical : b.Canonical) (positive : 0 < m)
    (rounds : b.Rounds (m * 10 ^ e)) :
    ofDecimal m e = ofMagnitude .positive b canonical.positive := by
  obtain ⟨least, most⟩ := length_toDigits positive
  obtain ⟨above, below⟩ := rounds.range canonical
  have some : 0 < (Nat.toDigits 10 m).length := Nat.length_toDigits_pos
  obtain ⟨count, isCount⟩ : ∃ count, count = (Nat.toDigits 10 m).length := ⟨_, rfl⟩
  rw [← isCount] at least most some
  have unit : (0 : ℚ) < 10 ^ e := zpow_pos (by norm_num) _
  -- the first digit stands between the two limits
  have notTiny : -400 < e + count := by
    have bound : (m : ℚ) * 10 ^ e < 10 ^ (e + count) := by
      rw [zpow_add₀ (by norm_num), zpow_natCast, mul_comm]
      have : (m : ℚ) < 10 ^ count := by exact_mod_cast most
      exact mul_lt_mul_of_pos_left this unit
    exact (zpow_lt_zpow_iff_right₀ (by norm_num : (1 : ℚ) < 10)).mp (above.trans bound)
  have notHuge : e + count < 401 := by
    have bound : (10 : ℚ) ^ (e + count - 1) ≤ m * 10 ^ e := by
      have split : e + (count : ℤ) - 1 = e + (count - 1 : ℕ) := by omega
      rw [split, zpow_add₀ (by norm_num), zpow_natCast, mul_comm]
      have : (10 ^ (count - 1) : ℚ) ≤ m := by exact_mod_cast least
      exact mul_le_mul_of_nonneg_right this unit.le
    have := (zpow_lt_zpow_iff_right₀ (by norm_num : (1 : ℚ) < 10)).mp (bound.trans_lt below)
    omega
  have few : count - 1 ≤ m.log2 :=
    (Nat.le_log2 positive.ne').mpr ((Nat.pow_le_pow_left (by omega) _).trans least)
  have inRange : (m = 0 || decide (e + (count : ℤ) < -400)) = false := by
    simp only [Bool.or_eq_false_iff, decide_eq_false_iff_not]
    omega
  have notInfinite : ¬(400 < e + (count : ℤ)) := by omega
  simp only [ofDecimal, ← isCount, inRange, Bool.false_eq_true, if_false, notInfinite]
  by_cases negative : e < 0
  · have quotient : (m : ℚ) * 10 ^ e = m / 10 ^ e.natAbs := by
      have flip : e = -(e.natAbs : ℤ) := by omega
      conv_lhs => rw [flip, zpow_neg, zpow_natCast, ← div_eq_mul_inv]
    rw [quotient] at rounds
    rw [decide_eq_true negative]
    exact ofScientific_div positive canonical rounds (by omega) (by omega)
  · have product : (m : ℚ) * 10 ^ e = m * 10 ^ e.natAbs := by
      have same : e = (e.natAbs : ℤ) := by omega
      conv_lhs => rw [same, zpow_natCast]
    rw [product] at rounds
    rw [decide_eq_false negative]
    exact ofScientific_mul positive canonical rounds (by omega)

end ReverseDns.Decimal
