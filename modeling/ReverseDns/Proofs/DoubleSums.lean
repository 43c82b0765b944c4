import ReverseDns.Proofs.DoubleOrder

/-!
# Sums of doubles

The sum of two doubles is rounded, and rounding keeps the order: a double that is not above the
exact sum is not above the rounded one.

* `Retains.le_roundedMantissa`, `Retains.roundedMantissa_le` -- rounding to a whole number keeps the
  order to whole numbers
* `Nearest`, `exists_nearest_round` -- rounding to 53 bits keeps the order to the magnitudes of
  doubles
* `not_add_lt` -- and so sums keep the order to doubles
* `Within`, `Within.not_add_lt` -- a double that is not further than a span from another is not
  above their sum
-/

namespace ReverseDns.Decimal

open Float.Model Float.Model.UnpackedFloat

variable {x y z : Float}

/-! ## Whole numbers -/

section Whole

variable {cut : ExtendedMantissa} {value : ℚ} {n : ℕ}

theorem le_roundedMantissa (cut : ExtendedMantissa) : cut.mantissa ≤ cut.roundedMantissa := by
  obtain ⟨mantissa, roundBit, stickyBit⟩ := cut
  cases roundBit <;> cases stickyBit <;>
    simp [ExtendedMantissa.roundedMantissa, ExtendedMantissa.accuracy, Accuracy.roundToNearestEven]

theorem roundedMantissa_le_succ (cut : ExtendedMantissa) :
    cut.roundedMantissa ≤ cut.mantissa + 1 := by
  obtain ⟨mantissa, roundBit, stickyBit⟩ := cut
  cases roundBit <;> cases stickyBit <;>
    simp only [ExtendedMantissa.roundedMantissa, ExtendedMantissa.accuracy,
      Accuracy.roundToNearestEven] <;> omega

theorem Retains.le_roundedMantissa (retains : Retains cut value) (le : (n : ℚ) ≤ value) :
    n ≤ cut.roundedMantissa := by
  have below : (n : ℚ) < cut.mantissa + 1 := le.trans_lt retains.bounds.2
  have whole : n < cut.mantissa + 1 := by exact_mod_cast below
  exact (Nat.lt_succ_iff.mp whole).trans (Decimal.le_roundedMantissa cut)

theorem Retains.roundedMantissa_le (retains : Retains cut value) (le : value ≤ n) :
    cut.roundedMantissa ≤ n := by
  have above : (cut.mantissa : ℚ) ≤ n := retains.bounds.1.trans le
  rcases Nat.lt_or_eq_of_le (by exact_mod_cast above : cut.mantissa ≤ n) with lt | same
  · exact (roundedMantissa_le_succ cut).trans lt
  · -- the value is whole, so nothing is lost
    obtain ⟨lost, nonneg, -, sticky, equal⟩ := retains
    have bit : cut.roundBit = false := by
      by_contra set
      rw [Bool.not_eq_false] at set
      rw [set, same, if_pos rfl] at equal
      linarith
    have nothing : cut.stickyBit = false := by
      by_contra set
      rw [Bool.not_eq_false] at set
      rw [bit, same, if_neg Bool.false_ne_true] at equal
      exact sticky.mp set (by linarith)
    obtain ⟨mantissa, roundBit, stickyBit⟩ := cut
    cases bit
    cases nothing
    exact le_of_eq same

end Whole

/-! ## Magnitudes -/

section Scaled

variable {c : Binary} {value : ℚ} {target : ℤ}

/-- A magnitude with an exponent that is not smaller is whole. -/
theorem Binary.value_eq_whole (c : Binary) (le : target ≤ c.exponent) :
    ∃ k : ℕ, c.value = k * 2 ^ target := by
  refine ⟨c.significand * 2 ^ (c.exponent - target).toNat, ?_⟩
  have exponent : c.exponent = (c.exponent - target).toNat + target := by omega
  rw [Binary.value]
  nth_rewrite 1 [exponent]
  rw [zpow_add₀ two_ne_zero, zpow_natCast]
  push_cast
  ring

/-- All bits of a value are used at an exponent, or it is the least one. -/
def Wide (value : ℚ) (target : ℤ) : Prop := 2 ^ 52 * 2 ^ target ≤ value ∨ target = -1074

/-- Between a magnitude and a value above it there is a whole number. -/
theorem exists_whole_of_le (sized : c.Sized) (wide : Wide value target) (le : c.value ≤ value) :
    ∃ k : ℕ, c.value ≤ k * 2 ^ target ∧ k * 2 ^ target ≤ value := by
  rcases Int.lt_or_le c.exponent target with lt | ge
  · have minimum := sized.minimum
    have large := wide.resolve_right (by omega)
    refine ⟨2 ^ 52, ?_, ?_⟩
    · push_cast
      exact (sized.value_lt lt).le
    · push_cast
      exact large
  · obtain ⟨k, equal⟩ := c.value_eq_whole ge
    exact ⟨k, equal.le, by rw [← equal]; exact le⟩

/-- A magnitude above a value is whole. -/
theorem exists_whole_of_ge (sized : c.Sized) (wide : Wide value target) (ge : value ≤ c.value) :
    ∃ k : ℕ, c.value = k * 2 ^ target := by
  refine c.value_eq_whole (not_lt.mp fun lt => ?_)
  have minimum := sized.minimum
  have large := wide.resolve_right (by omega)
  exact absurd (sized.value_lt lt) (not_lt.mpr (large.trans ge))

end Scaled

/-- Rounding finds a magnitude that keeps the order of the value to all magnitudes. -/
structure Nearest (value : ℚ) (b : Binary) : Prop where
  sized : b.Sized
  above : ∀ c : Binary, c.Sized → c.value ≤ value → c.value ≤ b.value
  below : ∀ c : Binary, c.Sized → value ≤ c.value → b.value ≤ c.value

theorem nearest_of_retains {cut : ExtendedMantissa} {value : ℚ} {target : ℤ} {b : Binary}
    (sized : b.Sized) (wide : Wide value target) (retains : Retains cut (value / 2 ^ target))
    (equal : b.value = cut.roundedMantissa * 2 ^ target) : Nearest value b := by
  have unit : (0 : ℚ) < 2 ^ target := zpow_pos two_pos _
  refine ⟨sized, fun c other le => ?_, fun c other ge => ?_⟩
  · obtain ⟨k, first, second⟩ := exists_whole_of_le other wide le
    have kept := retains.le_roundedMantissa ((le_div_iff₀ unit).mpr second)
    rw [equal]
    exact first.trans (mul_le_mul_of_nonneg_right (by exact_mod_cast kept) unit.le)
  · -- a magnitude above the value is a whole number of its own, so it bounds the rounded one
    obtain ⟨k, same⟩ := exists_whole_of_ge other wide ge
    have kept := retains.roundedMantissa_le ((div_le_iff₀ unit).mpr (ge.trans_eq same))
    rw [equal, same]
    exact mul_le_mul_of_nonneg_right (by exact_mod_cast kept) unit.le

/-! ## Rounding -/

theorem roundWithAccuracy_of_first (sign : Sign) {m : ℕ} {e target : ℤ} {cut : ExtendedMantissa}
    (first : shiftToTargetExponent Format.binary64 m e .exact = (cut, target))
    (minimum : -1074 ≤ target) (some : 0 < cut.roundedMantissa)
    (small : cut.roundedMantissa ≤ 2 ^ 53) (wide : 2 ^ 52 ≤ cut.roundedMantissa ∨ target = -1074) :
    ∃ (b : Binary) (sized : b.Sized), b.value = cut.roundedMantissa * 2 ^ target ∧
      roundWithAccuracy Format.binary64 sign m e .exact =
        .finite sign b.significand b.exponent sized.positive := by
  rw [roundWithAccuracy]
  rcases Nat.lt_or_eq_of_le small with lt | full
  · have log := (Nat.log2_lt some.ne').mpr lt
    refine ⟨⟨cut.roundedMantissa, target, false⟩,
      { positive := some, below := lt, minimum := minimum, normal := wide }, rfl, ?_⟩
    simp only [first, shiftToTargetExponent_of_fits (Nat.lt_succ_iff.mp log) minimum,
      mantissa_ofMantissaAndAccuracy]
    exact dif_neg some.ne'
  · -- rounded up to a power of two, which is one bit too long
    refine ⟨⟨2 ^ 52, target + 1, false⟩, ?_, ?_, ?_⟩
    · exact {
        positive := by norm_num
        below := by norm_num
        minimum := by
          dsimp only
          omega
        normal := .inl (le_refl _) }
    · rw [Binary.value, full, zpow_add_one₀ two_ne_zero]
      push_cast
      ring
    · simp only [first, full, shiftToTargetExponent_of_overflow minimum,
        mantissa_ofMantissaAndAccuracy]
      exact dif_neg (by norm_num)

theorem log2_shiftLeft {m : ℕ} (positive : 0 < m) (shift : ℕ) :
    (m <<< shift).log2 = m.log2 + shift := by
  rw [Nat.shiftLeft_eq, Nat.log2_eq_iff (by positivity), add_right_comm, pow_add, pow_add]
  exact ⟨Nat.mul_le_mul_right _ (Nat.log2_self_le positive.ne'),
    Nat.mul_lt_mul_of_pos_right Nat.lt_log2_self (by positivity)⟩

section Target

variable {m : ℕ} {e target : ℤ} (positive : 0 < m)
  (isTarget : target = max (m.log2 + e - 52) (-1074))

include positive isTarget

theorem wide_target : Wide (m * 2 ^ e) target := by
  have least : (2 : ℚ) ^ (m.log2 : ℤ) ≤ m := by exact_mod_cast Nat.log2_self_le positive.ne'
  rcases eq_or_ne target (-1074) with same | other
  · exact .inr same
  · have exponent : (52 : ℤ) + target = m.log2 + e := by omega
    have power : (2 : ℚ) ^ 52 * 2 ^ target = 2 ^ (m.log2 : ℤ) * 2 ^ e := by
      rw [← zpow_add₀ two_ne_zero, ← exponent, zpow_add₀ two_ne_zero]
      norm_num
    exact .inl (power.trans_le (mul_le_mul_of_nonneg_right least (zpow_pos two_pos _).le))

omit positive in
theorem le_target : (m * 2 ^ e : ℚ) ≤ (2 ^ 53 : ℕ) * 2 ^ target := by
  have most : (m : ℚ) < 2 ^ ((m.log2 : ℤ) + 1) := by exact_mod_cast Nat.lt_log2_self (n := m)
  calc (m * 2 ^ e : ℚ) ≤ 2 ^ ((m.log2 : ℤ) + 1) * 2 ^ e :=
        mul_le_mul_of_nonneg_right most.le (zpow_pos two_pos _).le
    _ ≤ 2 ^ ((53 : ℤ) + target) := by
      rw [← zpow_add₀ two_ne_zero]
      exact zpow_le_zpow_right₀ one_le_two (by omega)
    _ = (2 ^ 53 : ℕ) * 2 ^ target := by
      rw [zpow_add₀ two_ne_zero]
      push_cast
      norm_num

theorem target_le (minimum : -1074 ≤ e) : ((1 : ℕ) * 2 ^ target : ℚ) ≤ m * 2 ^ e := by
  have unit : (0 : ℚ) < 2 ^ target := zpow_pos two_pos _
  rw [Nat.cast_one, one_mul]
  rcases wide_target positive isTarget with large | rfl
  · linarith
  · have one : (1 : ℚ) ≤ m := by exact_mod_cast positive
    calc (2 : ℚ) ^ (-1074 : ℤ) ≤ 2 ^ e := zpow_le_zpow_right₀ one_le_two minimum
      _ ≤ m * 2 ^ e := le_mul_of_one_le_left (zpow_pos two_pos _).le one

end Target

/-- Rounding a whole number of the smallest unit, or more, finds the nearest magnitude. -/
theorem exists_nearest_round (sign : Sign) {m : ℕ} {e : ℤ} (positive : 0 < m)
    (minimum : -1074 ≤ e) :
    ∃ (b : Binary) (nearest : Nearest (m * 2 ^ e) b),
      UnpackedFloat.round Format.binary64 sign m e =
        .finite sign b.significand b.exponent nearest.sized.positive := by
  obtain ⟨target, isTarget⟩ : ∃ target, target = max (m.log2 + e - 52) (-1074) := ⟨_, rfl⟩
  obtain ⟨shift, isShift⟩ : ∃ shift, shift = (e - target).toNat := ⟨_, rfl⟩
  have unit (k : ℤ) : (0 : ℚ) < 2 ^ k := zpow_pos two_pos _
  -- the significand is shifted until its exponent is not above the target
  have same : ((m <<< shift : ℕ) : ℚ) * 2 ^ (e - shift) = m * 2 ^ e := by
    rw [Nat.shiftLeft_eq, zpow_sub₀ two_ne_zero, zpow_natCast]
    push_cast
    field_simp
  have retains := retains_exact (m <<< shift)
  rw [← mul_div_cancel_right₀ ((m <<< shift : ℕ) : ℚ) (unit (e - shift)).ne', same] at retains
  obtain ⟨cut, exponent⟩ := retains_shiftToExponent target retains (by omega)
  have first : shiftToTargetExponent Format.binary64 (m <<< shift) (e - shift) .exact =
      ((shiftToExponent (m <<< shift) (e - shift) .exact target).1, target) := by
    have log := log2_shiftLeft positive shift
    have again : max (((m <<< shift).log2 : ℤ) + (e - shift) - 52) (-1074) = target := by omega
    rw [shiftToTargetExponent, targetExponent_eq, again, Prod.ext_iff]
    exact ⟨rfl, exponent⟩
  generalize (shiftToExponent (m <<< shift) (e - shift) .exact target).1 = found at cut first
  have wide := wide_target positive isTarget
  have full : 2 ^ 52 ≤ found.roundedMantissa ∨ target = -1074 := by
    refine wide.imp_left fun large => cut.le_roundedMantissa ((le_div_iff₀ (unit target)).mpr ?_)
    push_cast
    exact large
  obtain ⟨b, sized, equal, rounded⟩ := roundWithAccuracy_of_first sign first (by omega)
    (cut.le_roundedMantissa ((le_div_iff₀ (unit target)).mpr (target_le positive isTarget minimum)))
    (cut.roundedMantissa_le ((div_le_iff₀ (unit target)).mpr (le_target isTarget))) full
  refine ⟨b, nearest_of_retains sized wide cut equal, ?_⟩
  rw [UnpackedFloat.round, targetExponent_eq, ← isTarget]
  simp only [decreaseExponent, ← isShift]
  exact rounded

/-! ## Packing -/

/-- A magnitude that is too large is packed as an infinity. -/
theorem unpack_pack_of_large {b : Binary} (sized : b.Sized) (large : 971 < b.exponent)
    (sign : Sign) :
    (Float.Model.pack (.finite sign b.significand b.exponent sized.positive)).unpack =
      .infinity sign := by
  have bias : (b.exponent + Format.binary64.exponentBias +
      Format.binary64.mantissaBitsWithoutImplicit).toNat = (b.exponent + 1075).toNat := by
    have : (Format.binary64.exponentBias : ℤ) = 1023 := rfl
    have : (Format.binary64.mantissaBitsWithoutImplicit : ℤ) = 52 := rfl
    omega
  have packed : UnpackedFloat.pack Format.binary64
      (.finite sign b.significand b.exponent sized.positive) =
        packedInfinity Format.binary64 sign := by
    rw [UnpackedFloat.pack]
    simp only [bias]
    exact if_pos (by simp; omega)
  rw [Float.Model.unpack, Float.Model.pack]
  simp only [packed]
  cases sign <;> rfl

/-- What stands on the number line is packed without loss. -/
theorem Stands.unpack_pack {u : UnpackedFloat} {place : Line} (stands : Stands u place) :
    (Float.Model.pack u).unpack = u := by
  cases stands with
  | below | above => rfl
  | zero sign => cases sign <;> rfl
  | negative b canonical => exact unpack_ofMagnitude canonical .negative
  | positive b canonical => exact unpack_ofMagnitude canonical .positive

/-- A magnitude that is not too large stands where it stood when it was packed. -/
theorem Binary.Sized.stands_pack {b : Binary} (sized : b.Sized) (small : b.exponent ≤ 971) :
    Stands (Float.Model.pack
        (.finite .negative b.significand b.exponent sized.positive)).unpack
          ((-b.value : ℚ) : WithTop ℚ) ∧
      Stands (Float.Model.pack
        (.finite .positive b.significand b.exponent sized.positive)).unpack
          ((b.value : ℚ) : WithTop ℚ) := by
  -- whether the double below is closer is not packed
  have canonical : Canonical
      { b with closerBelow := b.significand == 2 ^ 52 && b.exponent != -1074 } :=
    { sized with
      maximum := small
      closer := by simp }
  have negative := Stands.negative _ canonical
  have positive := Stands.positive _ canonical
  constructor
  · rw [negative.unpack_pack]
    exact negative
  · rw [positive.unpack_pack]
    exact positive

/-! ## Sums -/

/-- The place of a double is not below the number of another. -/
def AtLeast (u : UnpackedFloat) (z : Float) : Prop :=
  ∃ place, Stands u place ∧ ((exact z : ℚ) : WithTop ℚ) ≤ place

theorem exact_eq_zero_or (finite : isFinite x = true) :
    exact x = 0 ∨ ∃ c : Binary, c.Canonical ∧ (exact x = c.value ∨ exact x = -c.value) := by
  by_cases zero : (Binary.ofFloat x).significand = 0
  · left
    simp [exact, Binary.value, zero]
  · refine .inr ⟨_, Binary.canonical_ofFloat finite zero, ?_⟩
    unfold exact
    split
    · exact .inr rfl
    · exact .inl rfl

section Rounded

variable {m : ℕ} {e : ℤ} (positive : 0 < m) (minimum : -1074 ≤ e) (finite : isFinite z = true)

include positive minimum finite

theorem atLeast_of_positive (le : exact z ≤ m * 2 ^ e) :
    AtLeast (Float.Model.pack (UnpackedFloat.round Format.binary64 .positive m e)).unpack z := by
  obtain ⟨b, nearest, rounded⟩ := exists_nearest_round .positive positive minimum
  have kept : exact z ≤ b.value := by
    rcases exact_eq_zero_or finite with zero | ⟨c, canonical, same | same⟩
    · rw [zero]
      exact nearest.sized.value_pos.le
    · rw [same] at le ⊢
      exact nearest.above c canonical.sized le
    · rw [same]
      linarith [canonical.sized.value_pos, nearest.sized.value_pos]
  rw [rounded]
  rcases Int.lt_or_le 971 b.exponent with large | small
  · rw [unpack_pack_of_large nearest.sized large]
    exact ⟨⊤, .above, le_top⟩
  · exact ⟨_, (nearest.sized.stands_pack small).2, strictMono_coe.monotone kept⟩

theorem atLeast_of_negative (le : exact z ≤ -(m * 2 ^ e)) :
    AtLeast (Float.Model.pack (UnpackedFloat.round Format.binary64 .negative m e)).unpack z := by
  obtain ⟨b, nearest, rounded⟩ := exists_nearest_round .negative positive minimum
  have below : (0 : ℚ) < m * 2 ^ e := mul_pos (by exact_mod_cast positive) (zpow_pos two_pos _)
  rcases exact_eq_zero_or finite with zero | ⟨c, canonical, same | same⟩
  · linarith
  · linarith [canonical.sized.value_pos]
  · have kept := nearest.below c canonical.sized (by linarith)
    -- a double bounds it, so it is not too large
    have small : b.exponent ≤ 971 := by
      by_contra large
      have maximum := canonical.maximum
      exact absurd (canonical.sized.value_lt_of_exponent_lt nearest.sized (by omega))
        (not_lt.mpr kept)
    rw [rounded]
    exact ⟨_, (nearest.sized.stands_pack small).1, strictMono_coe.monotone (by linarith)⟩

end Rounded

theorem atLeast_normalize (m : ℤ) {e : ℤ} (minimum : -1074 ≤ e) (finite : isFinite z = true)
    (le : exact z ≤ m * 2 ^ e) :
    AtLeast (Float.Model.pack
      (UnpackedFloat.normalize Format.binary64 m e .positive)).unpack z := by
  unfold UnpackedFloat.normalize
  rcases lt_trichotomy m 0 with negative | rfl | positive
  · have whole : ((-m).toNat : ℚ) = -m := by
      have : ((-m).toNat : ℤ) = -m := by omega
      exact_mod_cast this
    rw [Int.compare_eq_lt.mpr negative]
    exact atLeast_of_negative (by omega) minimum finite (by rw [whole]; linarith)
  · rw [Int.cast_zero, zero_mul] at le
    have stands := Stands.zero .positive
    rw [Int.compare_eq_eq.mpr rfl]
    dsimp only
    rw [stands.unpack_pack]
    exact ⟨_, stands, strictMono_coe.monotone le⟩
  · have whole : (m.toNat : ℚ) = m := by
      have : (m.toNat : ℤ) = m := by omega
      exact_mod_cast this
    rw [Int.compare_eq_gt.mpr positive]
    exact atLeast_of_positive (by omega) minimum finite (by rw [whole]; exact le)

theorem unpack_add : (x + y).toModel.unpack =
    (Float.Model.pack
      (UnpackedFloat.add Format.binary64 x.toModel.unpack y.toModel.unpack)).unpack := rfl

/-- The exact number of a double other than zero, with its sign. -/
theorem exact_eq_apply (x : Float) : exact x =
    ((signOf x).apply (Binary.ofFloat x).significand : ℤ) * 2 ^ (Binary.ofFloat x).exponent := by
  unfold exact signOf Binary.value
  split
  · simp [Sign.apply]
  · simp [Sign.apply]

/-- A significand that is shifted to a smaller exponent stands for the same number. -/
theorem apply_shiftLeft (sign : Sign) (m : ℕ) {e target : ℤ} (le : target ≤ e) :
    ((sign.apply (m <<< (e - target).toNat : ℕ) : ℤ) : ℚ) * 2 ^ target =
      (sign.apply m : ℤ) * 2 ^ e := by
  have whole : ((m <<< (e - target).toNat : ℕ) : ℚ) * 2 ^ target = m * 2 ^ e := by
    have exponent : e = (e - target).toNat + target := by omega
    nth_rewrite 2 [exponent]
    rw [Nat.shiftLeft_eq, zpow_add₀ two_ne_zero, zpow_natCast]
    push_cast
    ring
  cases sign with
  | negative => simp only [Sign.apply, Int.cast_neg, Int.cast_natCast, neg_mul, whole]
  | positive => simpa only [Sign.apply, Int.cast_natCast] using whole

theorem Stands.zero_add {v : UnpackedFloat} {place : Line} (stands : Stands v place)
    (sign : Sign) : Stands (UnpackedFloat.add Format.binary64 (.zero sign) v) place := by
  cases stands with
  | below => exact .below
  | above => exact .above
  | zero other =>
    rw [UnpackedFloat.add]
    split <;> exact .zero _
  | negative b canonical => exact .negative b canonical
  | positive b canonical => exact .positive b canonical

theorem Stands.add_zero {u : UnpackedFloat} {place : Line} (stands : Stands u place)
    (sign : Sign) : Stands (UnpackedFloat.add Format.binary64 u (.zero sign)) place := by
  cases stands with
  | below => exact .below
  | above => exact .above
  | zero other =>
    rw [UnpackedFloat.add]
    split <;> exact .zero _
  | negative b canonical => exact .negative b canonical
  | positive b canonical => exact .positive b canonical

theorem exact_of_significand (zero : (Binary.ofFloat x).significand = 0) : exact x = 0 := by
  simp [exact, Binary.value, zero]

theorem atLeast_add (first : isFinite x = true) (second : isFinite y = true)
    (finite : isFinite z = true) (le : exact z ≤ exact x + exact y) :
    AtLeast (x + y).toModel.unpack z := by
  rw [unpack_add]
  by_cases firstZero : (Binary.ofFloat x).significand = 0
  · have stands := (stands_exact second).zero_add (signOf x)
    rw [exact_of_significand firstZero, zero_add] at le
    rw [unpack_zero firstZero, stands.unpack_pack]
    exact ⟨_, stands, strictMono_coe.monotone le⟩
  · by_cases secondZero : (Binary.ofFloat y).significand = 0
    · have stands := (stands_exact first).add_zero (signOf y)
      rw [exact_of_significand secondZero, add_zero] at le
      rw [unpack_zero secondZero, stands.unpack_pack]
      exact ⟨_, stands, strictMono_coe.monotone le⟩
    · -- both are shifted to the smaller exponent, at which the sum is exact
      have minimum := (Binary.canonical_ofFloat first firstZero).minimum
      have minimum' := (Binary.canonical_ofFloat second secondZero).minimum
      rw [unpack_eq first firstZero, unpack_eq second secondZero]
      refine atLeast_normalize _ (by omega) finite (le.trans_eq ?_)
      rw [Int.cast_add, add_mul, apply_shiftLeft _ _ (min_le_left _ _),
        apply_shiftLeft _ _ (min_le_right _ _), exact_eq_apply, exact_eq_apply]

/-- A double that is not above the exact sum of two others is not above their sum. -/
theorem not_add_lt (first : isFinite x = true) (second : isFinite y = true)
    (finite : isFinite z = true) (le : exact z ≤ exact x + exact y) : ¬x + y < z := by
  intro less
  obtain ⟨place, stands, atLeast⟩ := atLeast_add first second finite le
  obtain ⟨a, b, same, other, less⟩ := lt_iff_stands.mp less
  rw [stands.unique same, ← other.unique (stands_exact finite)] at atLeast
  exact absurd less (not_lt.mpr atLeast)

/-- Two doubles are not further apart than a span, which may be infinite. -/
def Within (span x z : Float) : Prop :=
  isFinite x = true ∧ isFinite z = true ∧
    ∃ place, Stands span.toModel.unpack place ∧ ((exact z - exact x : ℚ) : WithTop ℚ) ≤ place

theorem unpack_add_infinity (first : isFinite x = true)
    (infinite : y.toModel.unpack = .infinity .positive) :
    (x + y).toModel.unpack = .infinity .positive := by
  rw [unpack_add, infinite]
  by_cases zero : (Binary.ofFloat x).significand = 0
  · rw [unpack_zero zero]
    exact Stands.above.unpack_pack
  · rw [unpack_eq first zero]
    exact Stands.above.unpack_pack

/-- A double within a span from another is not above their sum. -/
theorem Within.not_add_lt (within : Within y x z) : ¬x + y < z := by
  obtain ⟨first, finite, place, stands, atMost⟩ := within
  cases second : isFinite y with
  | true =>
    obtain rfl := stands.unique (stands_exact second)
    have le := strictMono_coe.le_iff_le.mp atMost
    exact Decimal.not_add_lt first second finite (by linarith)
  | false =>
    rcases unpack_of_infinite second with infinite | none
    · rw [infinite] at stands
      cases sign : signOf y with
      | negative =>
        rw [sign] at stands
        cases stands
        exact absurd atMost (not_le.mpr (WithBot.bot_lt_coe _))
      | positive =>
        rw [sign] at infinite
        intro less
        obtain ⟨a, b, same, -, less⟩ := lt_iff_stands.mp less
        rw [unpack_add_infinity first infinite] at same
        cases same
        exact absurd less not_top_lt
    · rw [none] at stands
      cases stands

end ReverseDns.Decimal
