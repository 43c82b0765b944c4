/-!
# Sixteen-bit units

Lengths and the order of host names are counted in 16-bit units: a character below U+10000 is one
unit, any other character is a surrogate pair.

* `units` -- the units of a text
* `unitLength` -- their number
* `sortByUnits` -- a list in the order of units, first difference first
* `distinct` -- a list without its repetitions
-/

namespace ReverseDns.Text

/-- The 16-bit units of one character. -/
def unitsOf (c : Char) : List UInt16 :=
  if c.toNat < 0x10000 then [c.toNat.toUInt16]
  else [(0xD800 + (c.toNat - 0x10000) / 0x400).toUInt16,
    (0xDC00 + (c.toNat - 0x10000) % 0x400).toUInt16]

def units (s : String) : List UInt16 := s.toList.flatMap unitsOf

def unitLength (s : String) : Nat := (units s).length

section

variable {α : Type}

/-- Put `x` before the first element of `sorted` that does not stand before it. -/
def insertByUnits (units : α → List UInt16) (x : α) : List α → List α
  | [] => [x]
  | y :: rest => if units y < units x then y :: insertByUnits units x rest else x :: y :: rest

def sortByUnits (units : α → List UInt16) (xs : List α) : List α :=
  xs.foldr (insertByUnits units) []

/-- A list without its repetitions: each element stays where it first stood. -/
def distinct [DecidableEq α] : List α → List α
  | [] => []
  | x :: rest => x :: (distinct rest).filter (· != x)

end

end ReverseDns.Text
