/-!
# Blank characters

The characters that count as blank at the ends of a text: the tabulators and line ends of ASCII,
the Unicode space separators, the two Unicode line separators and the byte order mark.

* `isBlank` -- the class
* `trim`, `trimEnd` -- a text without the blanks at both ends, or at its end
-/

namespace ReverseDns.Text

/-- Closed ranges of blank code points, ascending and apart. -/
def blankRanges : List (Nat × Nat) :=
  [(0x09, 0x0D), (0x20, 0x20), (0xA0, 0xA0), (0x1680, 0x1680), (0x2000, 0x200A),
   (0x2028, 0x2029), (0x202F, 0x202F), (0x205F, 0x205F), (0x3000, 0x3000), (0xFEFF, 0xFEFF)]

def isBlank (c : Char) : Bool :=
  blankRanges.any fun range => range.1 ≤ c.toNat && c.toNat ≤ range.2

def dropBlankEnd (cs : List Char) : List Char := (cs.reverse.dropWhile isBlank).reverse

def dropBlanks (cs : List Char) : List Char := dropBlankEnd (cs.dropWhile isBlank)

def trim (s : String) : String := String.ofList (dropBlanks s.toList)

def trimEnd (s : String) : String := String.ofList (dropBlankEnd s.toList)

theorem isBlank_slash : isBlank '/' = false := by decide

end ReverseDns.Text
