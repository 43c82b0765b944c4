import ReverseDns.Proofs.Doubles

/-!
# Shortest decimals read back

The decimal that is chosen for a double lies among those that round to it, so it is read as the
double it was chosen for.

* `compareScaled_eq_lt` and its companions -- comparisons are those of the exact values
* `Binary.readsBack_iff` -- a decimal reads back if it rounds to the double
* `Binary.shortest_rounds` -- the decimal that is chosen does
-/

namespace ReverseDns.Decimal

/-- The exact value of a decimal. -/
def Scaled.value (d : Scaled) : ℚ := d.digits * 10 ^ d.exponent

section Comparing

variable (a : ℕ) (i : ℤ) (n : ℕ) (j : ℤ)

/-- Clearing the negative powers scales both sides by the same factor. -/
theorem cleared : ∃ factor : ℚ, 0 < factor ∧
    ((a * Nat.pow 10 i.toNat * Nat.pow 2 (-j).toNat : ℕ) : ℚ) = a * 10 ^ i * factor ∧
    ((n * Nat.pow 2 j.toNat * Nat.pow 10 (-i).toNat : ℕ) : ℚ) = n * 2 ^ j * factor := by
  have clear (base : ℚ) (nonzero : base ≠ 0) (k : ℤ) :
      base ^ k.toNat = base ^ k * base ^ (-k).toNat := by
    rw [← zpow_natCast, ← zpow_natCast, ← zpow_add₀ nonzero]
    congr 1
    omega
  refine ⟨10 ^ (-i).toNat * 2 ^ (-j).toNat, by positivity, ?_, ?_⟩
  · push_cast [Nat.pow_eq]
    rw [clear 10 (by norm_num) i]
    ring
  · push_cast [Nat.pow_eq]
    rw [clear 2 (by norm_num) j]
    ring

theorem compareScaled_eq_lt : compareScaled a i n j = .lt ↔ (a * 10 ^ i : ℚ) < n * 2 ^ j := by
  obtain ⟨factor, positive, first, second⟩ := cleared a i n j
  rw [compareScaled, Nat.compare_eq_lt, ← Nat.cast_lt (α := ℚ), first, second,
    mul_lt_mul_iff_left₀ positive]

theorem compareScaled_eq_gt : compareScaled a i n j = .gt ↔ (n * 2 ^ j : ℚ) < a * 10 ^ i := by
  obtain ⟨factor, positive, first, second⟩ := cleared a i n j
  rw [compareScaled, Nat.compare_eq_gt, ← Nat.cast_lt (α := ℚ), first, second,
    mul_lt_mul_iff_left₀ positive]

theorem compareScaled_eq_eq : compareScaled a i n j = .eq ↔ (a * 10 ^ i : ℚ) = n * 2 ^ j := by
  obtain ⟨factor, positive, first, second⟩ := cleared a i n j
  rw [compareScaled, Nat.compare_eq_eq, ← Nat.cast_inj (R := ℚ), first, second,
    mul_left_inj' positive.ne']

end Comparing

namespace Binary

variable {b : Binary} {d : Scaled}

/-- A decimal reads back to a double if it rounds to it. -/
theorem readsBack_iff : b.readsBack d = true ↔ b.Rounds d.value := by
  have unit : (0 : ℚ) < 2 ^ (b.exponent - 2) := zpow_pos two_pos _
  have low (n : ℕ) : ((n : ℚ) < d.value / 2 ^ (b.exponent - 2) ↔ n * 2 ^ (b.exponent - 2) < d.value) ∧
      ((n : ℚ) = d.value / 2 ^ (b.exponent - 2) ↔ d.value = n * 2 ^ (b.exponent - 2)) :=
    ⟨lt_div_iff₀ unit, by rw [eq_div_iff unit.ne', eq_comm]⟩
  have high (n : ℕ) : (d.value / 2 ^ (b.exponent - 2) < (n : ℚ) ↔ d.value < n * 2 ^ (b.exponent - 2)) ∧
      (d.value / 2 ^ (b.exponent - 2) = (n : ℚ) ↔ d.value = n * 2 ^ (b.exponent - 2)) :=
    ⟨div_lt_iff₀ unit, div_eq_iff unit.ne'⟩
  have read : b.readsBack d = true ↔
      ((compareScaled d.digits d.exponent (4 * b.significand - if b.closerBelow then 1 else 2)
          (b.exponent - 2) = .gt ∨ b.significand % 2 = 0 ∧ compareScaled d.digits d.exponent
          (4 * b.significand - if b.closerBelow then 1 else 2) (b.exponent - 2) = .eq) ∧
        (compareScaled d.digits d.exponent (4 * b.significand + 2) (b.exponent - 2) = .lt ∨
          b.significand % 2 = 0 ∧
            compareScaled d.digits d.exponent (4 * b.significand + 2) (b.exponent - 2) = .eq)) := by
    simp only [readsBack, Bool.and_eq_true, Bool.or_eq_true, beq_iff_eq]
  rw [read]
  simp only [compareScaled_eq_gt, compareScaled_eq_lt, compareScaled_eq_eq]
  constructor
  · rintro ⟨below, above⟩
    refine ⟨?_, ?_⟩
    · rw [(low _).1, (low _).2]
      exact below
    · rw [(high _).1, (high _).2]
      exact above
  · rintro ⟨below, above⟩
    rw [(low _).1, (low _).2] at below
    rw [(high _).1, (high _).2] at above
    exact ⟨below, above⟩

theorem readsBack_of_onGrid? {exponent : ℤ} (found : b.onGrid? exponent = some d) :
    b.readsBack d = true := by
  unfold onGrid? at found
  dsimp only at found
  split at found
  next => cases found
  next below above =>
    cases found
    exact below
  next below above =>
    cases found
    exact above
  next below above =>
    split at found
    · cases found
      exact below
    · cases found
      exact above
    · cases found
      split
      · exact below
      · exact above

theorem value_dropZeros (fuel : ℕ) (d : Scaled) : (dropZeros fuel d).value = d.value := by
  induction fuel generalizing d with
  | zero => rfl
  | succ fuel inductionHypothesis =>
    rw [dropZeros]
    split
    next zero =>
      simp only [Bool.and_eq_true, beq_iff_eq, bne_iff_ne] at zero
      have tenth : d.digits = 10 * (d.digits / 10) := by omega
      have digits : (d.digits : ℚ) = 10 * (d.digits / 10 : ℕ) := by exact_mod_cast tenth
      rw [inductionHypothesis, Scaled.value, Scaled.value, digits,
        zpow_add₀ (by norm_num : (10 : ℚ) ≠ 0)]
      ring
    next => rfl

/-- The decimal that is chosen for a double rounds to it. -/
theorem shortest_rounds (canonical : b.Canonical) : b.Rounds b.shortest.value := by
  unfold shortest
  split
  next d found =>
    obtain ⟨n, -, hit⟩ := List.exists_of_findSome?_eq_some found
    rw [value_dropZeros]
    exact readsBack_iff.mp (readsBack_of_onGrid? hit)
  next =>
    -- the exact value
    have exact : Scaled.value ⟨b.significand * Nat.pow 2 b.exponent.toNat *
        Nat.pow 5 (-b.exponent).toNat, min b.exponent 0⟩ = b.significand * 2 ^ b.exponent := by
      rw [Scaled.value]
      push_cast [Nat.pow_eq]
      rcases le_total 0 b.exponent with whole | fraction
      · obtain ⟨n, equal⟩ := Int.eq_ofNat_of_zero_le whole
        rw [equal]
        simp
      · obtain ⟨n, equal⟩ := Int.eq_ofNat_of_zero_le (neg_nonneg.mpr fraction)
        have equal : b.exponent = -(n : ℤ) := by omega
        have ten : (10 : ℚ) ^ n = 2 ^ n * 5 ^ n := by
          rw [← mul_pow]
          norm_num
        rw [equal, min_eq_left (by omega), zpow_neg, zpow_neg, zpow_natCast, zpow_natCast, ten]
        simp
        field_simp
    rw [exact]
    exact canonical.rounds

theorem Rounds.positive (canonical : b.Canonical) {value : ℚ} (rounds : b.Rounds value) :
    0 < value :=
  (zpow_pos (by norm_num) _).trans (rounds.range canonical).1

theorem shortest_positive (canonical : b.Canonical) : 0 < b.shortest.digits := by
  have positive := (shortest_rounds canonical).positive canonical
  by_contra none
  have zero : b.shortest.digits = 0 := by omega
  rw [Scaled.value, zero] at positive
  simp at positive

end Binary

end ReverseDns.Decimal
