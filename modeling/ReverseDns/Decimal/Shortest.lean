import ReverseDns.Decimal.Binary

/-!
# Shortest decimals

The decimal with the fewest digits among those that round to a given double, and of two such
decimals the nearer; an exact tie goes to the even digit.

* `Scaled` -- a decimal, digits times a power of ten
* `Binary.readsBack` -- whether a decimal rounds to the double
* `Binary.shortest` -- the decimal chosen for a double other than zero
-/

namespace ReverseDns.Decimal

/-- The decimal `digits * 10 ^ exponent`. -/
structure Scaled where
  digits : Nat
  exponent : Int
deriving Repr, DecidableEq

/-- Compare `a * 10 ^ i` with `n * 2 ^ j` exactly, by clearing the negative powers. -/
def compareScaled (a : Nat) (i : Int) (n : Nat) (j : Int) : Ordering :=
  compare (a * Nat.pow 10 i.toNat * Nat.pow 2 (-j).toNat)
    (n * Nat.pow 2 j.toNat * Nat.pow 10 (-i).toNat)

namespace Binary

/-- Whether `d` lies among the reals that round to `x`: from half way to the double below up to
half way to the double above, the ends included when the significand is even. -/
def readsBack (x : Binary) (d : Scaled) : Bool :=
  let low := 4 * x.significand - if x.closerBelow then 1 else 2
  let atLow := compareScaled d.digits d.exponent low (x.exponent - 2)
  let atHigh := compareScaled d.digits d.exponent (4 * x.significand + 2) (x.exponent - 2)
  let ends := x.significand % 2 == 0
  (atLow == .gt || (ends && atLow == .eq)) && (atHigh == .lt || (ends && atHigh == .eq))

def numerator (x : Binary) : Nat := x.significand * Nat.pow 2 x.exponent.toNat

def denominator (x : Binary) : Nat := Nat.pow 2 (-x.exponent).toNat

/-- The number of zeros between the point and the first digit of `n / d`, for `n < d`. -/
def leadingZeros (fuel n d : Nat) : Nat :=
  match fuel with
  | 0 => 0
  | fuel + 1 => if n * 10 < d then leadingZeros fuel (n * 10) d + 1 else 0

/-- The least `k` with `x < 10 ^ k`. A double other than zero is above `10 ^ -324`. -/
def magnitude (x : Binary) : Int :=
  if x.denominator ≤ x.numerator then
    ((Nat.toDigits 10 (x.numerator / x.denominator)).length : Int)
  else -(leadingZeros 330 x.numerator x.denominator : Int)

def gridFloor (x : Binary) (exponent : Int) : Nat :=
  (x.numerator * Nat.pow 10 (-exponent).toNat) / (x.denominator * Nat.pow 10 exponent.toNat)

/-- The neighbour of `x` on the grid of multiples of `10 ^ exponent` that reads back, if one
does. -/
def onGrid? (x : Binary) (exponent : Int) : Option Scaled :=
  let below : Scaled := ⟨x.gridFloor exponent, exponent⟩
  let above : Scaled := ⟨below.digits + 1, exponent⟩
  match x.readsBack below, x.readsBack above with
  | false, false => none
  | true, false => some below
  | false, true => some above
  | true, true =>
    match compareScaled (2 * below.digits + 1) exponent (2 * x.significand) x.exponent with
    | .gt => some below
    | .lt => some above
    | .eq => some (if below.digits % 2 == 0 then below else above)

/-- Move the zeros at the end of the digits into the exponent. -/
def dropZeros (fuel : Nat) (d : Scaled) : Scaled :=
  match fuel with
  | 0 => d
  | fuel + 1 =>
    if d.digits % 10 == 0 && d.digits != 0 then dropZeros fuel ⟨d.digits / 10, d.exponent + 1⟩
    else d

/-- The shortest decimal that reads back to `x`: the first hit on the grids of one, two, ...
seventeen digits. Should no grid have one, the exact value. -/
def shortest (x : Binary) : Scaled :=
  match (List.range 17).findSome? fun (n : Nat) => x.onGrid? (x.magnitude - (n : Int) - 1) with
  | some d => dropZeros 20 d
  | none =>
    ⟨x.significand * Nat.pow 2 x.exponent.toNat * Nat.pow 5 (-x.exponent).toNat, min x.exponent 0⟩

end Binary

end ReverseDns.Decimal
