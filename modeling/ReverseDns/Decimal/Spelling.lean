import ReverseDns.Decimal.Shortest

/-!
# Spelling of numbers

How numbers are written in messages and files, and how a decimal is read.

* `spell` -- the text of a double
* `ofDecimal` -- the double nearest to a decimal
-/

namespace ReverseDns.Decimal

/-- Decimals whose first digit stands at a power of ten from `10 ^ -6` are written positionally
... -/
def positionalFrom : Int := -6

/-- ... up to `10 ^ 20`; the others are written with an exponent. -/
def positionalUpTo : Int := 20

def zeros (n : Nat) : String := String.ofList (List.replicate n '0')

/-- The text of a decimal other than zero: no point in an integral number, a sign in every
exponent. -/
def Scaled.layout (d : Scaled) : String :=
  let digits := Nat.toDigits 10 d.digits
  let count : Int := digits.length
  let lead := d.exponent + count - 1
  if positionalFrom ≤ lead && lead ≤ positionalUpTo then
    if 0 ≤ d.exponent then String.ofList digits ++ zeros d.exponent.toNat
    else if 0 ≤ lead then
      String.ofList (digits.take (lead + 1).toNat) ++ "." ++
        String.ofList (digits.drop (lead + 1).toNat)
    else "0." ++ zeros (-lead - 1).toNat ++ String.ofList digits
  else
    String.ofList (digits.take 1) ++
      (if count = 1 then "" else "." ++ String.ofList (digits.drop 1)) ++
      "e" ++ (if lead < 0 then "-" else "+") ++ Nat.repr lead.natAbs

/-- The text of a number: the shortest decimal that reads back. Both zeros are `0`. -/
def spell (x : Float) : String :=
  if !isFinite x then
    if fractionBits x != 0 then "NaN" else if isNegative x then "-Infinity" else "Infinity"
  else
    let b := Binary.ofFloat x
    if b.significand = 0 then "0"
    else (if isNegative x then "-" else "") ++ b.shortest.layout

/-- The double nearest to `m * 10 ^ e`, infinity beyond the largest. Exponents far out of range
are decided without the power. -/
def ofDecimal (m : Nat) (e : Int) : Float :=
  let count : Int := (Nat.toDigits 10 m).length
  if m = 0 || e + count < -400 then 0
  else if 400 < e + count then Float.ofScientific 1 false 400
  else Float.ofScientific m (e < 0) e.natAbs

end ReverseDns.Decimal
