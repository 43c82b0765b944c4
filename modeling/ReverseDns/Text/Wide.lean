import ReverseDns.Text.Units

/-!
# Wide texts

The escapes of JSON can give one half of a surrogate pair without the other. A wide text is a text
in which such lone halves may stand between characters.

* `WideText` -- the texts; a `String` is a wide text without lone halves
* `WideText.ofPoints` -- the text of code points, in which the halves of a pair are joined
* `WideText.units`, `WideText.ofUnits` -- the 16-bit units of a text, and the text of units
* `WideText.shown` -- the text with a replacement character for each lone half
-/

namespace ReverseDns

/-- A text with lone halves of surrogate pairs: the characters before the first of them, and each
of them with the characters after it. -/
structure WideText where
  start : String
  torn : List (Nat × String) := []
deriving Repr, DecidableEq, Inhabited

instance : Coe String WideText where
  coe text := { start := text }

namespace WideText

/-- Whether a code point is half of a surrogate pair. -/
def isHalf (point : Nat) : Bool := 0xD800 ≤ point && point < 0xE000

/-- Whether two code points are the halves of one pair, in order. -/
def isPair (high low : Nat) : Bool :=
  0xD800 ≤ high && high < 0xDC00 && 0xDC00 ≤ low && low < 0xE000

def joined (high low : Nat) : Char :=
  Char.ofNat (0x10000 + (high - 0xD800) * 0x400 + (low - 0xDC00))

/-- The characters before the first lone half, and each lone half with the characters after it. -/
def pieces : List Nat → List Char × List (Nat × List Char)
  | [] => ([], [])
  | [point] => if isHalf point then ([], [(point, [])]) else ([Char.ofNat point], [])
  | high :: low :: rest =>
    if isPair high low then
      let (start, torn) := pieces rest
      (joined high low :: start, torn)
    else
      let (start, torn) := pieces (low :: rest)
      if isHalf high then ([], (high, start) :: torn) else (Char.ofNat high :: start, torn)

def ofPoints (points : List Nat) : WideText :=
  let (start, torn) := pieces points
  { start := String.ofList start, torn := torn.map fun piece => (piece.1, String.ofList piece.2) }

/-- The 16-bit units of a text: a lone half is one. -/
def units (text : WideText) : List UInt16 :=
  Text.units text.start ++ text.torn.flatMap fun piece => piece.1.toUInt16 :: Text.units piece.2

def ofUnits (units : List UInt16) : WideText := ofPoints (units.map UInt16.toNat)

/-- The text with the replacement character in the place of each lone half. -/
def shown (text : WideText) : String :=
  text.torn.foldl (fun shown piece => shown ++ "\uFFFD" ++ piece.2) text.start

@[simp] theorem shown_coe (text : String) : shown text = text := rfl

end WideText

end ReverseDns
