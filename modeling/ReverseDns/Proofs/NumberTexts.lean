import ReverseDns.Json.Parser
import ReverseDns.Json.Printer
import ReverseDns.Proofs.Shortest

/-!
# Numbers are read as they were written

Each of the layouts of a decimal is a numeral, and the reader takes all of a numeral and nothing
behind it. So the text of a finite double is read as that double; only the sign of a zero is lost.

* `Numeral` -- a number with its digits, and what the reader makes of it
* `EndsNumber` -- what may stand after a number
* `layout_numeral` -- a decimal is laid out as a numeral of the same value
* `number?_spell` -- the text of a double, read
-/

namespace ReverseDns

namespace Json.Reader

open Decimal (ofDecimal)

/-- What may stand after a number: nothing that makes it longer. -/
def EndsNumber (rest : List Char) : Prop :=
  ∀ c ∈ rest.head?, c.isDigit = false ∧ c ≠ '.' ∧ c ≠ 'e' ∧ c ≠ 'E'

theorem endsNumber_cons {c : Char} {rest : List Char}
    (ends : c.isDigit = false ∧ c ≠ '.' ∧ c ≠ 'e' ∧ c ≠ 'E') : EndsNumber (c :: rest) := by
  intro first isFirst
  cases isFirst
  exact ends

/-! ## Runs of digits -/

def Digits (cs : List Char) : Prop := ∀ c ∈ cs, c.isDigit = true

section Digits

variable {digits rest : List Char}

theorem takeWhile_digits (allDigits : Digits digits)
    (ends : ∀ c ∈ rest.head?, c.isDigit = false) :
    (digits ++ rest).takeWhile Char.isDigit = digits := by
  rw [List.takeWhile_append_of_pos allDigits]
  cases rest with
  | nil => simp
  | cons c rest => simp [ends c rfl]

theorem dropWhile_digits (allDigits : Digits digits)
    (ends : ∀ c ∈ rest.head?, c.isDigit = false) :
    (digits ++ rest).dropWhile Char.isDigit = rest := by
  rw [List.dropWhile_append_of_pos allDigits]
  cases rest with
  | nil => rfl
  | cons c rest => simp [ends c rfl]

theorem digitsValue_eq (n : Nat) (digits : List Char) :
    digitsValue n digits = Nat.ofDigitChars 10 digits n := rfl

theorem digits_toDigits (n : Nat) : Digits (Nat.toDigits 10 n) :=
  fun _ member => Nat.isDigit_of_mem_toDigits (by norm_num) (by norm_num) member

theorem digits_zeros (n : Nat) : Digits (List.replicate n '0') := by
  intro c member
  rw [List.eq_of_mem_replicate member]
  rfl

theorem Digits.append {first second : List Char} (firstDigits : Digits first)
    (secondDigits : Digits second) : Digits (first ++ second) := by
  intro c member
  rcases List.mem_append.mp member with member | member
  · exact firstDigits c member
  · exact secondDigits c member

theorem digitChar_ne_zero : ∀ n : Fin 10, n ≠ 0 → Nat.digitChar n ≠ '0' := by decide

/-- A positive number is written without a zero in front. -/
theorem head_toDigits {n : Nat} (positive : 0 < n) :
    (Nat.toDigits 10 n).head? ≠ some '0' := by
  induction n using Nat.strong_induction_on with
  | h n inductionHypothesis =>
    rw [Nat.toDigits_eq_if (by norm_num)]
    split
    next small =>
      have nonzero := digitChar_ne_zero ⟨n, small⟩ (by simp [Fin.ext_iff]; omega)
      simpa using nonzero
    next large =>
      rw [List.head?_append_of_ne_nil _ Nat.toDigits_ne_nil]
      exact inductionHypothesis (n / 10) (by omega) (by omega)

end Digits

/-! ## Numerals -/

/-- A number without its sign: the digits before the point and behind it, and the exponent. -/
structure Numeral where
  whole : List Char
  fraction : List Char
  exponent : Option Int

namespace Numeral

def fractionText (numeral : Numeral) : List Char :=
  if numeral.fraction = [] then [] else '.' :: numeral.fraction

def exponentText (numeral : Numeral) : List Char :=
  match numeral.exponent with
  | none => []
  | some n => 'e' :: (if n < 0 then '-' else '+') :: Nat.toDigits 10 n.natAbs

def text (numeral : Numeral) : List Char :=
  numeral.whole ++ numeral.fractionText ++ numeral.exponentText

/-- The number that all digits make. -/
def digits (numeral : Numeral) : Nat := digitsValue 0 (numeral.whole ++ numeral.fraction)

/-- The power of ten of the last digit. -/
def scale (numeral : Numeral) : Int := numeral.exponent.getD 0 - numeral.fraction.length

structure WellFormed (numeral : Numeral) : Prop where
  whole : Digits numeral.whole
  nonempty : numeral.whole ≠ []
  /-- A zero stands in front only alone. -/
  leading : numeral.whole.head? = some '0' → numeral.whole = ['0']
  fraction : Digits numeral.fraction

theorem WellFormed.starts {numeral : Numeral} (wellFormed : numeral.WellFormed) :
    ∃ c others, numeral.text = c :: others ∧ c.isDigit = true := by
  obtain ⟨c, others, whole⟩ := List.exists_cons_of_ne_nil wellFormed.nonempty
  refine ⟨c, _, by rw [text, whole, List.cons_append, List.cons_append], ?_⟩
  exact wellFormed.whole c (by rw [whole]; exact List.mem_cons_self ..)

end Numeral

variable {numeral : Numeral} {rest : List Char}

theorem isDigit_exponentText (numeral : Numeral) (ends : EndsNumber rest) :
    ∀ c ∈ (numeral.exponentText ++ rest).head?, c.isDigit = false ∧ c ≠ '.' := by
  unfold Numeral.exponentText
  intro c first
  cases exponent : numeral.exponent with
  | none =>
    rw [exponent] at first
    exact ⟨(ends c first).1, (ends c first).2.1⟩
  | some n =>
    rw [exponent] at first
    cases first
    exact ⟨rfl, by decide⟩

theorem isDigit_fractionText (numeral : Numeral) (ends : EndsNumber rest) :
    ∀ c ∈ (numeral.fractionText ++ (numeral.exponentText ++ rest)).head?, c.isDigit = false := by
  unfold Numeral.fractionText
  intro c first
  split at first
  next => exact (isDigit_exponentText numeral ends c first).1
  next =>
    cases first
    rfl

theorem exponent?_exponentText (numeral : Numeral) (ends : EndsNumber rest) :
    exponent? (numeral.exponentText ++ rest) = some (numeral.exponent.getD 0, rest) := by
  unfold Numeral.exponentText
  cases exponent : numeral.exponent with
  | none =>
    cases rest with
    | nil => rfl
    | cons c rest =>
      obtain ⟨-, -, lower, upper⟩ := ends c rfl
      simp [exponent?, lower, upper]
  | some n =>
    have taken := takeWhile_digits (digits_toDigits n.natAbs) fun c first => (ends c first).1
    have dropped := dropWhile_digits (digits_toDigits n.natAbs) fun c first => (ends c first).1
    have value : digitsValue 0 (Nat.toDigits 10 n.natAbs) = n.natAbs :=
      Nat.ofDigitChars_ten_toDigits
    have nonempty : (Nat.toDigits 10 n.natAbs).isEmpty = false :=
      List.isEmpty_eq_false_iff.mpr Nat.toDigits_ne_nil
    by_cases negative : n < 0
    · simp only [exponent?, negative, if_true, List.cons_append, taken, dropped, value, nonempty]
      simp [abs_of_neg negative]
    · simp only [exponent?, negative, if_false, List.cons_append, taken, dropped, value, nonempty]
      simp [abs_of_nonneg (not_lt.mp negative)]

theorem fraction?_fractionText (fraction : Digits numeral.fraction)
    (ends : ∀ c ∈ rest.head?, c.isDigit = false ∧ c ≠ '.') :
    fraction? (numeral.fractionText ++ rest) = some (numeral.fraction, rest) := by
  unfold Numeral.fractionText
  split
  next empty =>
    rw [empty]
    cases rest with
    | nil => rfl
    | cons c rest =>
      have point := (ends c rfl).2
      unfold fraction?
      split
      next equal => simp_all
      next => rfl
  next nonempty =>
    have taken := takeWhile_digits fraction fun c first => (ends c first).1
    have dropped := dropWhile_digits fraction fun c first => (ends c first).1
    simp [fraction?, taken, dropped, nonempty]

theorem number?_of_not_minus {cs : List Char} (unsigned : cs.head? ≠ some '-') :
    number? cs = magnitude? cs := by
  unfold number?
  split
  · exact absurd rfl unsigned
  · rfl

theorem number?_minus {cs : List Char} {x : Float} (read : magnitude? cs = some (x, rest))
    (nonzero : (x == 0) = false) : number? ('-' :: cs) = some (-x, rest) := by
  simp [number?, read, nonzero]

/-- The reader takes all of a numeral. -/
theorem magnitude?_numeral (wellFormed : numeral.WellFormed) (ends : EndsNumber rest) :
    magnitude? (numeral.text ++ rest) =
      some (ofDecimal numeral.digits numeral.scale, rest) := by
  have split : numeral.text ++ rest =
      numeral.whole ++ (numeral.fractionText ++ (numeral.exponentText ++ rest)) := by
    simp [Numeral.text]
  have value : digitsValue (digitsValue 0 numeral.whole) numeral.fraction = numeral.digits :=
    (Nat.ofDigitChars_append 0).symm
  have taken := takeWhile_digits wellFormed.whole (isDigit_fractionText numeral ends)
  have dropped := dropWhile_digits wellFormed.whole (isDigit_fractionText numeral ends)
  have behind : fraction? (numeral.fractionText ++ (numeral.exponentText ++ rest)) =
      some (numeral.fraction, numeral.exponentText ++ rest) :=
    fraction?_fractionText wellFormed.fraction (isDigit_exponentText numeral ends)
  have raised := exponent?_exponentText numeral ends
  rw [split]
  unfold magnitude?
  rw [taken, dropped]
  cases whole : numeral.whole with
  | nil => exact absurd whole wellFormed.nonempty
  | cons c others =>
    by_cases zero : c = '0'
    · -- then it stands alone
      have alone := wellFormed.leading (by rw [whole, zero]; rfl)
      rw [whole] at alone value
      simp only [List.cons.injEq] at alone
      obtain ⟨rfl, rfl⟩ := alone
      simp only [Option.pure_def, Option.bind_eq_bind, Option.bind_some, List.cons_append,
        List.nil_append, List.drop_succ_cons, List.drop_zero, behind, raised, value]
      rfl
    · rw [whole] at value
      simp only [Option.pure_def, Option.bind_eq_bind, Option.bind_some, behind, raised]
      split
      next equal => cases equal
      next equal =>
        cases equal
        exact absurd rfl zero
      next => rw [value, Numeral.scale]

end Json.Reader

namespace Decimal

open Json.Reader (Numeral Digits digits_toDigits digits_zeros head_toDigits digitsValue_eq
  magnitude? magnitude?_numeral number? number?_of_not_minus number?_minus EndsNumber)

/-! ## Layouts -/

theorem toList_zeros (n : Nat) : (zeros n).toList = List.replicate n '0' := String.toList_ofList

section Layouts

/-- A text is a numeral of the value of the decimal. -/
def LaysOut (d : Scaled) (text : List Char) : Prop :=
  ∃ numeral : Numeral, numeral.WellFormed ∧ text = numeral.text ∧ 0 < numeral.digits ∧
    (numeral.digits * 10 ^ numeral.scale : ℚ) = d.value

variable {d : Scaled} (positive : 0 < d.digits)
include positive

/-- Where only the point moves, the numeral has the digits and the scale of the decimal. -/
theorem laysOut_of_scale {numeral : Numeral} (wellFormed : numeral.WellFormed)
    (digits : numeral.digits = d.digits) (scale : numeral.scale = d.exponent) :
    LaysOut d numeral.text := by
  refine ⟨numeral, wellFormed, rfl, ?_⟩
  rw [digits, scale]
  exact ⟨positive, rfl⟩

theorem laysOut_whole (whole : 0 ≤ d.exponent) : LaysOut d
    (Nat.toDigits 10 d.digits ++ List.replicate d.exponent.toNat '0') := by
  let numeral : Numeral :=
    { whole := Nat.toDigits 10 d.digits ++ List.replicate d.exponent.toNat '0'
      fraction := []
      exponent := none }
  have digits : numeral.digits = 10 ^ d.exponent.toNat * d.digits := by
    simp [numeral, Numeral.digits, digitsValue_eq, Nat.ofDigitChars_append,
      Nat.ofDigitChars_replicate_zero, Nat.ofDigitChars_ten_toDigits]
  have wellFormed : numeral.WellFormed := {
    whole := (digits_toDigits _).append (digits_zeros _)
    nonempty := by simp [numeral]
    leading := by
      intro zero
      rw [List.head?_append_of_ne_nil _ Nat.toDigits_ne_nil] at zero
      exact absurd zero (head_toDigits positive)
    fraction := nofun }
  refine ⟨numeral, wellFormed, ?_, ?_, ?_⟩
  · simp [numeral, Numeral.text, Numeral.fractionText, Numeral.exponentText]
  · rw [digits]
    positivity
  · obtain ⟨n, equal⟩ := Int.eq_ofNat_of_zero_le whole
    rw [digits, Scaled.value, equal]
    simp [numeral, Numeral.scale, mul_comm]

/-- The digits of a decimal around a point, where some of them stand before it. -/
theorem laysOut_cut (exponent : Option Int) (count : Nat) (some : 0 < count)
    (scale : exponent.getD 0 - ((Nat.toDigits 10 d.digits).drop count).length = d.exponent) :
    LaysOut d (Numeral.text {
      whole := (Nat.toDigits 10 d.digits).take count
      fraction := (Nat.toDigits 10 d.digits).drop count
      exponent := exponent }) := by
  obtain ⟨c, others, equal⟩ := List.exists_cons_of_ne_nil (Nat.toDigits_ne_nil (n := d.digits))
  obtain ⟨n, rfl⟩ : ∃ n, count = n + 1 := ⟨count - 1, by omega⟩
  have leading := head_toDigits positive
  rw [equal] at leading
  refine laysOut_of_scale positive ⟨?_, ?_, ?_, ?_⟩ ?_ scale
  · exact fun c member => digits_toDigits _ c (List.mem_of_mem_take member)
  · simp [equal]
  · intro zero
    rw [equal] at zero
    exact absurd zero leading
  · exact fun c member => digits_toDigits _ c (List.mem_of_mem_drop member)
  · rw [Numeral.digits, List.take_append_drop, digitsValue_eq, Nat.ofDigitChars_ten_toDigits]

/-- A decimal below one, with zeros behind the point. -/
theorem laysOut_fraction (zeros : Nat)
    (scale : -(zeros + (Nat.toDigits 10 d.digits).length : Int) = d.exponent) :
    LaysOut d ('0' :: '.' :: (List.replicate zeros '0' ++ Nat.toDigits 10 d.digits)) := by
  let numeral : Numeral :=
    { whole := ['0']
      fraction := List.replicate zeros '0' ++ Nat.toDigits 10 d.digits
      exponent := none }
  have wellFormed : numeral.WellFormed := {
    whole := digits_zeros 1
    nonempty := by simp [numeral]
    leading := fun _ => rfl
    fraction := (digits_zeros _).append (digits_toDigits _) }
  have text : numeral.text = '0' :: '.' :: (List.replicate zeros '0' ++ Nat.toDigits 10 d.digits) := by
    simp [numeral, Numeral.text, Numeral.fractionText, Numeral.exponentText]
  rw [← text]
  refine laysOut_of_scale positive wellFormed ?_ ?_
  · simp only [numeral, Numeral.digits, digitsValue_eq, Nat.ofDigitChars_append,
      Nat.ofDigitChars_replicate_zero]
    simp [Nat.ofDigitChars_cons]
  · rw [← scale]
    simp [numeral, Numeral.scale]

theorem laysOut_layout : LaysOut d d.layout.toList := by
  have count : 0 < (Nat.toDigits 10 d.digits).length := Nat.length_toDigits_pos
  unfold Scaled.layout
  dsimp only
  split
  next positional =>
    split
    next whole =>
      rw [String.toList_append, String.toList_ofList, toList_zeros]
      exact laysOut_whole positive whole
    next fractional =>
      split
      next point =>
        have cut := laysOut_cut positive none
          (d.exponent + (Nat.toDigits 10 d.digits).length - 1 + 1).toNat (by omega)
          (by simp; omega)
        have behind : ¬ (Nat.toDigits 10 d.digits).length ≤
            (d.exponent + (Nat.toDigits 10 d.digits).length).toNat := by omega
        simpa [Numeral.text, Numeral.fractionText, Numeral.exponentText, behind] using cut
      next leadingZeros =>
        have below := laysOut_fraction positive
          (-(d.exponent + (Nat.toDigits 10 d.digits).length - 1) - 1).toNat (by omega)
        simpa [toList_zeros] using below
  next scientific =>
    have cut := laysOut_cut positive (some (d.exponent + (Nat.toDigits 10 d.digits).length - 1)) 1
      (by omega)
      (by simp; omega)
    have sign (n : Int) : (if n < 0 then "-" else "+" : String).toList =
        [if n < 0 then '-' else '+'] := by
      split <;> rfl
    simp only [String.toList_append, sign, Nat.toList_repr, String.toList_ofList,
      apply_ite String.toList]
    by_cases alone : (Nat.toDigits 10 d.digits).length = 1
    · have none : (Nat.toDigits 10 d.digits).tail = [] := by
        rw [← List.drop_one, List.drop_eq_nil_iff]
        omega
      simpa [Numeral.text, Numeral.fractionText, Numeral.exponentText, alone, none] using cut
    · have some : (Nat.toDigits 10 d.digits).tail ≠ [] := by
        rw [← List.drop_one, Ne, List.drop_eq_nil_iff]
        omega
      simpa [Numeral.text, Numeral.fractionText, Numeral.exponentText, alone, some] using cut

/-! ## Doubles -/

/-- A double without the sign of a zero. -/
def unsignedZero (x : Float) : Float := if (Binary.ofFloat x).significand = 0 then 0 else x

omit positive in
/-- What a text that lays out a decimal is read as. -/
theorem magnitude?_of_laysOut {b : Binary} {text rest : List Char} (canonical : b.Canonical)
    (laysOut : LaysOut d text) (rounds : b.Rounds d.value) (ends : EndsNumber rest) :
    magnitude? (text ++ rest) = some (ofMagnitude .positive b canonical.positive, rest) := by
  obtain ⟨numeral, wellFormed, rfl, positive, value⟩ := laysOut
  rw [← value] at rounds
  rw [magnitude?_numeral wellFormed ends, ofDecimal_eq canonical positive rounds]

end Layouts

section Spelling

variable {x : Float} {rest : List Char}

/-- The text of a finite double: a numeral, with a sign for a negative one. -/
theorem spell_starts (finite : isFinite x = true) :
    ∃ c others, (spell x).toList = c :: others ∧ (c = '-' ∨ c.isDigit = true) := by
  rw [spell, finite]
  simp only [Bool.not_true, Bool.false_eq_true, if_false]
  split
  next => exact ⟨'0', [], rfl, .inr rfl⟩
  next nonzero =>
    have positive := Binary.shortest_positive (Binary.canonical_ofFloat finite nonzero)
    obtain ⟨numeral, wellFormed, text, -⟩ := laysOut_layout positive
    obtain ⟨c, others, start, digit⟩ := wellFormed.starts
    split
    next => exact ⟨'-', _, by rw [String.toList_append]; rfl, .inl rfl⟩
    next => exact ⟨c, others, by rw [String.toList_append, text, start]; rfl, .inr digit⟩

/-- The text of a finite double is read as that double. -/
theorem number?_spell (finite : isFinite x = true) (ends : EndsNumber rest) :
    number? ((spell x).toList ++ rest) = some (unsignedZero x, rest) := by
  rw [spell, unsignedZero, finite]
  simp only [Bool.not_true, Bool.false_eq_true, if_false]
  split
  next zero =>
    -- the text is the numeral `0`
    have wellFormed : Numeral.WellFormed ⟨['0'], [], none⟩ :=
      ⟨digits_zeros 1, by simp, fun _ => rfl, nofun⟩
    exact magnitude?_numeral wellFormed ends
  next nonzero =>
    have canonical := Binary.canonical_ofFloat finite nonzero
    have laysOut := laysOut_layout (Binary.shortest_positive canonical)
    have read := magnitude?_of_laysOut canonical laysOut (Binary.shortest_rounds canonical) ends
    have itself := eq_ofMagnitude finite nonzero
    by_cases negative : isNegative x = true
    · rw [signOf, if_pos negative] at itself
      have text : ((if isNegative x = true then "-" else "") ++
          (Binary.ofFloat x).shortest.layout).toList ++ rest =
            '-' :: ((Binary.ofFloat x).shortest.layout.toList ++ rest) := by
        rw [if_pos negative, String.toList_append]
        rfl
      have opposite : -ofMagnitude .positive _ canonical.positive = x :=
        (neg_ofMagnitude canonical .positive).trans itself.symm
      rw [text, number?_minus read (ofMagnitude_ne_zero canonical), opposite]
    · rw [signOf, if_neg negative] at itself
      obtain ⟨numeral, wellFormed, text, -⟩ := laysOut
      obtain ⟨c, others, start, digit⟩ := wellFormed.starts
      rw [if_neg negative, String.toList_append, String.toList_empty, List.nil_append,
        number?_of_not_minus, read, ← itself]
      rw [text, start, List.cons_append, List.head?_cons]
      rintro ⟨rfl⟩
      cases digit

/-- Without the sign of a zero a double is the same number. -/
theorem beq_unsignedZero (finite : isFinite x = true) : (x == unsignedZero x) = true := by
  change x.toModel.unpack.beq (unsignedZero x).toModel.unpack = true
  unfold unsignedZero
  split
  next zero =>
    have none : (Binary.ofFloat (0 : Float)).significand = 0 := by decide +kernel
    rw [unpack_zero zero, unpack_zero none]
    rfl
  next nonzero =>
    rw [unpack_eq finite nonzero]
    cases signOf x <;>
      simp [Float.Model.UnpackedFloat.beq, Float.Model.UnpackedFloat.compare]

end Spelling

end Decimal

end ReverseDns
