import ReverseDns.Text.Units

/-!
# Quoted texts

The form in which a message quotes a text that has to be shown with all its characters: between
marks that it does not hold itself where there are such, with escapes for control characters, and
cut where it is long.

* `quoted` -- a text between marks
* `excerpt` -- a text between marks, over several lines where it is long, and cut where it is longer
-/

namespace ReverseDns.Text

/-- Whether `$` stands before an opening brace somewhere. -/
def holdsTemplate : List Char → Bool
  | '$' :: '\x7b' :: _ => true
  | _ :: rest => holdsTemplate rest
  | [] => false

/-- The mark for a text: the single quote unless it occurs, then the double quote unless it occurs
too, then the backtick unless that one or a template occurs. Where all occur it is the single quote
again, which is then escaped. -/
def markFor (cs : List Char) : Char :=
  if !cs.contains '\'' then '\''
  else if !cs.contains '"' then '"'
  else if !cs.contains '\x60' && !holdsTemplate cs then '\x60'
  else '\''

def upperHex (n : Nat) : Char := if n < 10 then Char.ofNat (48 + n) else Char.ofNat (55 + n)

def escapeFor (mark c : Char) : List Char :=
  if c = '\\' then ['\\', '\\']
  else if c = '\'' then if mark = '\'' then ['\\', '\''] else [c]
  else if c = '\x08' then ['\\', 'b']
  else if c = '\t' then ['\\', 't']
  else if c = '\n' then ['\\', 'n']
  else if c = '\x0c' then ['\\', 'f']
  else if c = '\r' then ['\\', 'r']
  else if c.toNat < 0x20 || (0x7F ≤ c.toNat && c.toNat < 0xA0) then
    ['\\', 'x', upperHex (c.toNat / 16), upperHex (c.toNat % 16)]
  else [c]

def quoted (cs : List Char) : String :=
  let mark := markFor cs
  String.ofList (mark :: cs.flatMap (escapeFor mark) ++ [mark])

def lines : List Char → List (List Char)
  | [] => [[]]
  | '\n' :: rest =>
    match rest with
    | [] => [['\n']]
    | _ :: _ => ['\n'] :: lines rest
  | c :: rest =>
    match lines rest with
    | [] => [[c]]
    | first :: others => (c :: first) :: others

def fitting (room : Nat) : List Char → List Char
  | [] => []
  | c :: rest =>
    let size := (unitsOf c).length
    if size ≤ room then c :: fitting (room - size) rest else []

/-- How many units of a text an excerpt looks at. More than it shows, since all of them have a say
in the choice of the marks. -/
def sightLimit : Nat := 10000

/-- The most units of a text that an excerpt shows between one pair of marks. -/
def lineLimit : Nat := 76

def excerptLimit : Nat := 128

/-- A text between marks, with each line between marks of its own where it is long. What is too
long then is cut. -/
def excerpt (s : String) : String :=
  let seen := fitting sightLimit s.toList
  let shown :=
    if lineLimit < unitLength (String.ofList seen) then
      " +\n  ".intercalate ((lines seen).map quoted)
    else quoted seen
  if excerptLimit < unitLength shown then
    String.ofList (fitting excerptLimit shown.toList) ++ "..."
  else shown

example : quoted "x\x00y".toList = "'x\\x00y'" ∧ quoted "it's\x1b".toList = "\"it's\\x1B\"" ∧
    quoted "'\"".toList = String.ofList ['\x60', '\'', '"', '\x60'] := by decide

example : excerpt "a\x00\nb" = "'a\\x00\\nb'" ∧
    lines ['a', '\n', 'b', '\n'] = [['a', '\n'], ['b', '\n']] ∧ fitting 2 ['a', '😀'] = ['a'] := by
  decide

end ReverseDns.Text
