/-!
# Binary fractions

A finite double as an exact number: a significand times a power of two.

* `Binary.ofFloat` -- the exact magnitude of a finite double
* `isFinite`, `isIntegral`, `isNegative` -- classes of doubles, decided on the bits
-/

namespace ReverseDns.Decimal

/-- The magnitude `significand * 2 ^ exponent` of a finite double. -/
structure Binary where
  significand : Nat
  exponent : Int
  /-- The double below is only half as far away as the double above. -/
  closerBelow : Bool

def exponentBits (x : Float) : Nat := ((x.toBits >>> 52) &&& 0x7FF).toNat

def fractionBits (x : Float) : Nat := (x.toBits &&& 0xFFFFFFFFFFFFF).toNat

def isFinite (x : Float) : Bool := exponentBits x != 0x7FF

def isNegative (x : Float) : Bool := (x.toBits >>> 63) != 0

def Binary.ofFloat (x : Float) : Binary :=
  let e := exponentBits x
  let f := fractionBits x
  if e = 0 then ⟨f, -1074, false⟩ else ⟨Nat.pow 2 52 + f, (e : Int) - 1075, f == 0 && e > 1⟩

/-- Whether `x` is a finite double without a fractional part. -/
def isIntegral (x : Float) : Bool :=
  isFinite x &&
    (let b := Binary.ofFloat x
     b.significand % Nat.pow 2 (-b.exponent).toNat == 0)

end ReverseDns.Decimal
