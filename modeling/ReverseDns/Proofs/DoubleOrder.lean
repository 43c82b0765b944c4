import ReverseDns.Proofs.Doubles

/-!
# The order of doubles

Doubles are compared as the exact numbers that they stand for. The infinities stand at the ends of
the number line, and what is no number stands nowhere on it.

* `exact` -- the number that a finite double stands for
* `Stands` -- where a double stands on the number line
* `lt_iff_stands`, `le_iff_stands` -- doubles are compared by their places
* `le_iff_exact` -- finite doubles are compared by their exact numbers
* `isIntegral_iff` -- a double without a fractional part stands for a whole number
-/

namespace ReverseDns.Decimal

open Float.Model Float.Model.UnpackedFloat

/-! ## Magnitudes -/

namespace Binary

/-- The exact value of a magnitude. -/
def value (b : Binary) : ℚ := b.significand * 2 ^ b.exponent

/-- The significand and exponent of a magnitude. It may be too large for a double. -/
structure Sized (b : Binary) : Prop where
  positive : 0 < b.significand
  below : b.significand < 2 ^ 53
  minimum : -1074 ≤ b.exponent
  normal : 2 ^ 52 ≤ b.significand ∨ b.exponent = -1074

variable {b c : Binary} {target : ℤ}

theorem Canonical.sized (canonical : b.Canonical) : b.Sized := { canonical with }

theorem Sized.value_pos (sized : b.Sized) : 0 < b.value := by
  have positive : (0 : ℚ) < b.significand := by exact_mod_cast sized.positive
  exact mul_pos positive (zpow_pos two_pos _)

/-- A magnitude with a small exponent is below all that use their bits at a larger one. -/
theorem Sized.value_lt (sized : b.Sized) (lt : b.exponent < target) :
    b.value < 2 ^ 52 * 2 ^ target := by
  have small : (b.significand : ℚ) < 2 ^ 53 := by exact_mod_cast sized.below
  have next : (2 : ℚ) ^ b.exponent * 2 ≤ 2 ^ target := by
    rw [← zpow_add_one₀ two_ne_zero]
    exact zpow_le_zpow_right₀ one_le_two lt
  calc b.value < 2 ^ 53 * 2 ^ b.exponent := mul_lt_mul_of_pos_right small (zpow_pos two_pos _)
    _ = 2 ^ 52 * (2 ^ b.exponent * 2) := by ring
    _ ≤ 2 ^ 52 * 2 ^ target := mul_le_mul_of_nonneg_left next (by positivity)

/-- Of two magnitudes the one with the smaller exponent is the smaller one. -/
theorem Sized.value_lt_of_exponent_lt (first : b.Sized) (second : c.Sized)
    (lt : b.exponent < c.exponent) : b.value < c.value := by
  have minimum := first.minimum
  have large : (2 ^ 52 : ℚ) ≤ c.significand := by
    exact_mod_cast second.normal.resolve_right (by omega)
  exact (first.value_lt lt).trans_le (mul_le_mul_of_nonneg_right large (zpow_pos two_pos _).le)

/-- Magnitudes are compared by their exponents, and then by their significands. -/
theorem Sized.compare_eq (first : b.Sized) (second : c.Sized) :
    (compare b.exponent c.exponent).then (compare b.significand c.significand) =
      compare b.value c.value := by
  -- all bits are used, so exponents decide; where they are the same, they are a common unit
  rcases lt_trichotomy b.exponent c.exponent with lt | same | gt
  · rw [Int.compare_eq_lt.mpr lt, compare_lt_iff_lt.mpr (first.value_lt_of_exponent_lt second lt)]
    rfl
  · have unit : (0 : ℚ) < 2 ^ c.exponent := zpow_pos two_pos _
    rw [Int.compare_eq_eq.mpr same, Ordering.then, value, value, same]
    rcases lt_trichotomy b.significand c.significand with lt | same | gt
    · rw [compare_lt_iff_lt.mpr lt, eq_comm, compare_lt_iff_lt]
      exact mul_lt_mul_of_pos_right (by exact_mod_cast lt) unit
    · rw [same, compare_eq_iff_eq.mpr rfl, eq_comm, compare_eq_iff_eq]
    · rw [compare_gt_iff_gt.mpr gt, eq_comm, compare_gt_iff_gt]
      exact mul_lt_mul_of_pos_right (by exact_mod_cast gt) unit
  · rw [Int.compare_eq_gt.mpr gt, compare_gt_iff_gt.mpr (second.value_lt_of_exponent_lt first gt)]
    rfl

end Binary

/-! ## The number line -/

/-- The number that a finite double stands for. -/
def exact (x : Float) : ℚ :=
  if isNegative x then -(Binary.ofFloat x).value else (Binary.ofFloat x).value

/-- The number line with both of its ends. -/
abbrev Line := WithBot (WithTop ℚ)

theorem strictMono_coe : StrictMono fun value : ℚ => ((value : WithTop ℚ) : Line) :=
  WithBot.coe_strictMono.comp WithTop.coe_strictMono

theorem compare_coe (first second : ℚ) :
    compare ((first : WithTop ℚ) : Line) ((second : WithTop ℚ) : Line) = compare first second := by
  rw [← cmp_eq_compare, ← cmp_eq_compare]
  exact strictMono_coe.cmp_map_eq first second

/-- Where a double stands on the number line. A double that is no number stands nowhere. -/
inductive Stands : UnpackedFloat → Line → Prop where
  | below : Stands (.infinity .negative) ⊥
  | above : Stands (.infinity .positive) ⊤
  | zero (sign : Sign) : Stands (.zero sign) ((0 : ℚ) : WithTop ℚ)
  | negative (b : Binary) (canonical : b.Canonical) :
    Stands (.finite .negative b.significand b.exponent canonical.positive)
      ((-b.value : ℚ) : WithTop ℚ)
  | positive (b : Binary) (canonical : b.Canonical) :
    Stands (.finite .positive b.significand b.exponent canonical.positive)
      ((b.value : ℚ) : WithTop ℚ)

theorem some_lt {α : Type} [LinearOrder α] {a b : α} (lt : a < b) :
    some Ordering.lt = some (compare a b) := congrArg some (compare_lt_iff_lt.mpr lt).symm

theorem some_gt {α : Type} [LinearOrder α] {a b : α} (gt : b < a) :
    some Ordering.gt = some (compare a b) := congrArg some (compare_gt_iff_gt.mpr gt).symm

theorem Stands.compare_eq {u v : UnpackedFloat} {a b : Line} (first : Stands u a)
    (second : Stands v b) : u.compare v = some (compare a b) := by
  cases first with
  | below =>
    cases second with
    | below => exact congrArg some (compare_eq_iff_eq.mpr rfl).symm
    | above | zero | negative | positive => exact some_lt (WithBot.bot_lt_coe _)
  | above =>
    cases second with
    | below => exact some_gt (WithBot.bot_lt_coe _)
    | above => exact congrArg some (compare_eq_iff_eq.mpr rfl).symm
    | zero | negative | positive =>
      exact some_gt (WithBot.coe_lt_coe.mpr (WithTop.coe_lt_top _))
  | zero sign =>
    cases second with
    | below => exact some_gt (WithBot.bot_lt_coe _)
    | above => exact some_lt (WithBot.coe_lt_coe.mpr (WithTop.coe_lt_top _))
    | zero => exact congrArg some (compare_eq_iff_eq.mpr rfl).symm
    | negative c canonical =>
      exact some_gt (strictMono_coe (neg_lt_zero.mpr canonical.sized.value_pos))
    | positive c canonical => exact some_lt (strictMono_coe canonical.sized.value_pos)
  | negative b below =>
    cases second with
    | below => exact some_gt (WithBot.bot_lt_coe _)
    | above => exact some_lt (WithBot.coe_lt_coe.mpr (WithTop.coe_lt_top _))
    | zero => exact some_lt (strictMono_coe (neg_lt_zero.mpr below.sized.value_pos))
    | negative c canonical =>
      -- of two negative numbers, the one with the larger magnitude is the smaller one
      have reflected : StrictAnti fun value : ℚ => -value := fun _ _ => neg_lt_neg
      rw [compare_coe, ← cmp_eq_compare, reflected.cmp_map_eq, ← cmp_swap, cmp_eq_compare,
        ← below.sized.compare_eq canonical.sized]
      rfl
    | positive c canonical =>
      exact some_lt (strictMono_coe
        ((neg_lt_zero.mpr below.sized.value_pos).trans canonical.sized.value_pos))
  | positive b above =>
    cases second with
    | below => exact some_gt (WithBot.bot_lt_coe _)
    | above => exact some_lt (WithBot.coe_lt_coe.mpr (WithTop.coe_lt_top _))
    | zero => exact some_gt (strictMono_coe above.sized.value_pos)
    | negative c canonical =>
      exact some_gt (strictMono_coe
        ((neg_lt_zero.mpr canonical.sized.value_pos).trans above.sized.value_pos))
    | positive c canonical =>
      rw [compare_coe, ← above.sized.compare_eq canonical.sized]
      rfl

/-! ## Comparisons -/

variable {x y z : Float}

theorem stands_exact (finite : isFinite x = true) :
    Stands x.toModel.unpack ((exact x : ℚ) : WithTop ℚ) := by
  by_cases zero : (Binary.ofFloat x).significand = 0
  · have nothing : exact x = 0 := by simp [exact, Binary.value, zero]
    rw [unpack_zero zero, nothing]
    exact .zero _
  · have canonical := Binary.canonical_ofFloat finite zero
    rw [unpack_eq finite zero, signOf, exact]
    split
    · exact .negative _ canonical
    · exact .positive _ canonical

theorem unpack_of_infinite (infinite : isFinite x = false) :
    x.toModel.unpack = .infinity (signOf x) ∨ x.toModel.unpack = .notANumber := by
  have all : @unpackExponent Format.binary64 x.toModel.toBits.toBitVec = -1#11 := by
    apply BitVec.eq_of_toNat_eq
    rw [← exponentBits_eq]
    simpa [isFinite] using infinite
  rw [Float.Model.unpack]
  unfold UnpackedFloat.unpack
  simp only [all, if_true, ofBitVec_unpackSign]
  split
  · exact .inl rfl
  · exact .inr rfl

theorem stands_infinity (sign : Sign) : ∃ place, Stands (.infinity sign) place := by
  cases sign with
  | negative => exact ⟨_, .below⟩
  | positive => exact ⟨_, .above⟩

/-- Every double has its place on the number line, or is no number. -/
theorem stands_or_notANumber (x : Float) :
    (∃ place, Stands x.toModel.unpack place) ∨ x.toModel.unpack = .notANumber := by
  cases finite : isFinite x with
  | true => exact .inl ⟨_, stands_exact finite⟩
  | false =>
    rcases unpack_of_infinite finite with infinite | none
    · rw [infinite]
      exact .inl (stands_infinity _)
    · exact .inr none

theorem isLE_compare_iff {α : Type} [LinearOrder α] {a b : α} :
    (compare a b).isLE = true ↔ a ≤ b :=
  Ordering.ne_gt_iff_isLE.symm.trans compare_le_iff_le

theorem lt_iff_compare : x < y ↔ x.toModel.unpack.compare y.toModel.unpack = some .lt :=
  decide_eq_true_iff.trans beq_iff_eq

theorem le_iff_compare :
    x ≤ y ↔ (x.toModel.unpack.compare y.toModel.unpack).any Ordering.isLE = true :=
  decide_eq_true_iff.trans Iff.rfl

/-- Doubles that can be compared have their places, and the places are compared. -/
theorem stands_of_compare {order : Ordering}
    (compared : x.toModel.unpack.compare y.toModel.unpack = some order) :
    ∃ a b, Stands x.toModel.unpack a ∧ Stands y.toModel.unpack b ∧ order = compare a b := by
  rcases stands_or_notANumber x with ⟨a, first⟩ | none
  · rcases stands_or_notANumber y with ⟨b, second⟩ | none
    · refine ⟨a, b, first, second, Option.some.inj (compared.symm.trans ?_)⟩
      exact first.compare_eq second
    · rw [none] at compared
      generalize x.toModel.unpack = u at first compared
      cases first <;> cases compared
  · rw [none] at compared
    cases compared

theorem lt_iff_stands :
    x < y ↔ ∃ a b, Stands x.toModel.unpack a ∧ Stands y.toModel.unpack b ∧ a < b := by
  rw [lt_iff_compare]
  constructor
  · intro less
    obtain ⟨a, b, first, second, order⟩ := stands_of_compare less
    exact ⟨a, b, first, second, compare_lt_iff_lt.mp order.symm⟩
  · rintro ⟨a, b, first, second, less⟩
    rw [first.compare_eq second, compare_lt_iff_lt.mpr less]

theorem le_iff_stands :
    x ≤ y ↔ ∃ a b, Stands x.toModel.unpack a ∧ Stands y.toModel.unpack b ∧ a ≤ b := by
  rw [le_iff_compare, Option.any_eq_true]
  constructor
  · rintro ⟨order, compared, least⟩
    obtain ⟨a, b, first, second, rfl⟩ := stands_of_compare compared
    exact ⟨a, b, first, second, isLE_compare_iff.mp least⟩
  · rintro ⟨a, b, first, second, less⟩
    exact ⟨_, first.compare_eq second, isLE_compare_iff.mpr less⟩

theorem Stands.unique {u : UnpackedFloat} {a b : Line} (first : Stands u a) (second : Stands u b) :
    a = b := by
  have same : some (compare a b) = some (compare a a) :=
    (first.compare_eq second).symm.trans (first.compare_eq first)
  exact compare_eq_iff_eq.mp ((Option.some.inj same).trans (compare_eq_iff_eq.mpr rfl))

theorem lt_of_lt_of_le (less : x < y) (atMost : y ≤ z) : x < z := by
  obtain ⟨a, b, first, second, less⟩ := lt_iff_stands.mp less
  obtain ⟨b', c, same, third, atMost⟩ := le_iff_stands.mp atMost
  obtain rfl := second.unique same
  exact lt_iff_stands.mpr ⟨a, c, first, third, less.trans_le atMost⟩

theorem le_iff_exact (first : isFinite x = true) (second : isFinite y = true) :
    x ≤ y ↔ exact x ≤ exact y := by
  rw [le_iff_compare, (stands_exact first).compare_eq (stands_exact second), compare_coe,
    Option.any_some, isLE_compare_iff]

/-! ## Whole numbers -/

theorem Binary.value_whole_iff (b : Binary) :
    (∃ n : ℤ, b.value = n) ↔ b.significand % 2 ^ (-b.exponent).toNat = 0 := by
  rw [← Nat.dvd_iff_mod_eq_zero, value]
  obtain ⟨shift, above | below⟩ := Int.eq_nat_or_neg b.exponent
  · have none : (-(shift : ℤ)).toNat = 0 := by omega
    rw [above, none, pow_zero, zpow_natCast]
    exact iff_of_true ⟨b.significand * 2 ^ shift, by push_cast; rfl⟩ (one_dvd _)
  · have unit : (2 : ℚ) ^ shift ≠ 0 := pow_ne_zero _ two_ne_zero
    rw [below, neg_neg, Int.toNat_natCast, zpow_neg, zpow_natCast]
    constructor
    · rintro ⟨n, equal⟩
      rw [← div_eq_mul_inv, div_eq_iff unit] at equal
      have divides : ((2 ^ shift : ℕ) : ℤ) ∣ (b.significand : ℤ) :=
        ⟨n, by rw [mul_comm]; exact_mod_cast equal⟩
      exact Int.natCast_dvd_natCast.mp divides
    · rintro ⟨n, equal⟩
      refine ⟨n, ?_⟩
      rw [equal, ← div_eq_mul_inv, div_eq_iff unit, mul_comm]
      push_cast
      rfl

/-- A double without a fractional part stands for a whole number. -/
theorem isIntegral_iff : isIntegral x = true ↔ isFinite x = true ∧ ∃ n : ℤ, exact x = n := by
  have unsigned : (∃ n : ℤ, exact x = n) ↔ ∃ n : ℤ, (Binary.ofFloat x).value = n := by
    unfold exact
    split
    · constructor
      · rintro ⟨n, equal⟩
        exact ⟨-n, by rw [Int.cast_neg, ← equal, neg_neg]⟩
      · rintro ⟨n, equal⟩
        exact ⟨-n, by rw [Int.cast_neg, ← equal]⟩
    · rfl
  rw [unsigned, Binary.value_whole_iff, isIntegral, Bool.and_eq_true, beq_iff_eq, Nat.pow_eq]

end ReverseDns.Decimal
