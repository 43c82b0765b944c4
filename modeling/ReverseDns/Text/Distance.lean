import ReverseDns.Text.Units

/-!
# Distance between words

How many slips of the pen lead from one word to another. A slip adds a unit, drops one, puts one in
place of another, or swaps two neighbours; no unit is part of two swaps.

* `distance` -- the number of slips, from a table of the distances between initial parts
* `similar` -- the names that come closest to a word
-/

namespace ReverseDns.Text

/-- The cells of one row of the table, from left to right. The row belongs to the unit `x`, and
`before` is the unit above it. `left` is the cell to the left and `last` the unit over that cell. Of
the row above, the cells from the upper left on are given, and of the row above that one, the cells
from two to the left on. -/
def cells (x : UInt16) (before : Option UInt16) :
    Nat → Option UInt16 → List UInt16 → List Nat → List Nat → List Nat
  | left, last, y :: others, corner :: above :: upper, older =>
    let plain := min (min (above + 1) (left + 1)) (if x = y then corner else corner + 1)
    let cell := match older with
      | swapped :: _ => if before = some y ∧ last = some x then min plain (swapped + 1) else plain
      | [] => plain
    cell :: cells x before cell (some y) others (above :: upper) older.tail
  | _, _, _, _, _ => []

/-- The rows of the table, one for each unit of the first word. Gives the last row. -/
def lastRow (second : List UInt16) :
    List UInt16 → Option UInt16 → List Nat → List Nat → List Nat
  | [], _, _, row => row
  | x :: rest, before, upper, row =>
    let start := row.headD 0 + 1
    -- the cell before the first one takes part in no swap
    lastRow second rest (some x) row (start :: cells x before start none second row (0 :: upper))

/-- The number of slips that lead from one list of units to another. -/
def slips (first second : List UInt16) : Nat :=
  (lastRow second first none [] (List.range (second.length + 1))).getLastD 0

/-- The farthest at which a word is a guess for another. -/
def reach : Nat := 3

/-- The distance between two words. Where their lengths differ by more than `reach`, it is taken to
be the greater length. -/
def distance (first second : List UInt16) : Nat :=
  if reach < first.length - second.length ∨ reach < second.length - first.length then
    max first.length second.length
  else slips first second

/-- Whether two words have more than two fifths of the longer one in common. -/
def isClose (first second : List UInt16) : Bool :=
  let longer := max first.length second.length
  2 * longer + 5 * distance first second < 5 * longer

/-- The names that come closest to a word, in order. Names of one unit are no guesses. -/
def similar (word : String) (names : List String) : List String :=
  let near := (distinct names).filter fun name =>
    1 < unitLength name && isClose (units word) (units name) &&
      distance (units word) (units name) ≤ reach
  let best := near.foldl (fun best name => min best (distance (units word) (units name))) reach
  sortByUnits units (near.filter fun name => distance (units word) (units name) == best)

end ReverseDns.Text
