import ReverseDns.Text.LowerRuns
import ReverseDns.Text.CaseContext

/-!
# Lower case

The full lower-case form of a text. Three characters need more than a table of single images: the
dotted capital I becomes two characters, and a capital sigma becomes the final form where it ends
a word.

* `lowerChar` -- the lower-case form of a character away from its neighbours
* `endsWord` -- whether a sigma between two stretches of text is in final position
* `lowerCase` -- the lower-case form of a text
-/

namespace ReverseDns.Text

/-- The lower-case form of a character by itself. -/
def lowerChar (c : Char) : List Char :=
  if c.toNat < 0x80 then
    [if 0x41 ≤ c.toNat && c.toNat ≤ 0x5A then Char.ofNat (c.toNat + 0x20) else c]
  else if c.toNat = 0x130 then ['i', Char.ofNat 0x307]
  else match lowerRuns.find? (·.contains c.toNat) with
    | some run => [Char.ofNat (run.image + (c.toNat - run.first))]
    | none => [c]

/-- Whether the nearest character that is not ignorable has case. -/
def meetsCased (cs : List Char) : Bool :=
  match cs.find? (fun c => !isCaseIgnorable c) with
  | some c => isCased c
  | none => false

/-- A sigma ends a word when a cased character stands before it and none after it; `before` is
read from the sigma outwards. -/
def endsWord (before after : List Char) : Bool := meetsCased before && !meetsCased after

/-- The lower-case form of `cs`, after the characters of `before`, nearest first. -/
def lowerFrom (before : List Char) : List Char → List Char
  | [] => []
  | c :: rest =>
    (if c.toNat = 0x3A3 then
      [Char.ofNat (if endsWord before rest then 0x3C2 else 0x3C3)]
    else lowerChar c) ++ lowerFrom (c :: before) rest

def lowerCase (s : String) : String := String.ofList (lowerFrom [] s.toList)

end ReverseDns.Text
