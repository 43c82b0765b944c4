import ReverseDns.Keyed
import ReverseDns.Decimal.Spelling
import ReverseDns.Text.Wide

/-!
# JSON values

JSON values whose objects keep the order of their members.

* `Json` -- the values; numbers are doubles, strings and names are wide texts
* `Json.str` -- a string without lone halves of surrogate pairs
* `Json.object` -- an object from pairs: one member a name, index names first
* `Json.optional` -- a member that may be left out
* `Json.get?` -- a member of an object
* `Json.hasText`, `Json.plainText` -- the text of a value in a message, and whether it has one
-/

namespace ReverseDns

/-- A JSON value. The members of an object are an ordered list. -/
inductive Json where
  | null
  | bool (value : Bool)
  | num (value : Float)
  | text (value : WideText)
  | arr (items : List Json)
  | obj (members : List (WideText × Json))
deriving Inhabited

abbrev Members := List (WideText × Json)

namespace Json

/-- A string without lone halves of surrogate pairs. -/
@[match_pattern] abbrev str (value : String) : Json := .text { start := value, torn := [] }

/-! ## Order of members -/

/-- The value of a text that is the canonical decimal of a number below `2 ^ 32 - 1`. Such names
are list indices. -/
def indexOf? (name : String) : Option Nat :=
  match name.toList with
  | [] => none
  | c :: rest =>
    let digits := c :: rest
    if digits.all Char.isDigit && (c != '0' || rest.isEmpty) && digits.length ≤ 10 then
      let n := digits.foldl (fun n d => 10 * n + (d.toNat - 48)) 0
      if n < 0xFFFFFFFF then some n else none
    else none

/-- Put a member before the first index that is larger than its own, `n`. -/
def insertIndexed (n : Nat) (member : WideText × Json) : List (Nat × (WideText × Json)) →
    List (Nat × (WideText × Json))
  | [] => [(n, member)]
  | first :: rest =>
    if n < first.1 then (n, member) :: first :: rest else first :: insertIndexed n member rest

/-- The members in the order in which an object lists them: indices ascending, then the other
names as they came. -/
def arrange (members : Members) : Members :=
  let indexed := members.foldr (fun member sorted =>
    match indexOf? member.1.shown with
    | some n => insertIndexed n member sorted
    | none => sorted) []
  indexed.map Prod.snd ++ members.filter fun member => (indexOf? member.1.shown).isNone

/-- The object that holds the pairs, written from left to right. -/
def object (pairs : Members) : Json := .obj (arrange (Keyed.ofPairs pairs))

/-- The member under `name`, if there is a value for it. -/
def optional (name : String) : Option Json → Members
  | some value => [(name, value)]
  | none => []

/-! ## Reading -/

/-- The member of an object under `name`. -/
def get? : Json → String → Option Json
  | .obj members, name => Keyed.get? members name
  | _, _ => none

def text? : Json → Option WideText
  | .text value => some value
  | _ => none

/-- The text of a string, as it is shown. -/
def str? : Json → Option String
  | .text value => some value.shown
  | _ => none

def num? : Json → Option Float
  | .num x => some x
  | _ => none

def arr? : Json → Option (List Json)
  | .arr items => some items
  | _ => none

/-- The members of an object. -/
def obj? : Json → Option Members
  | .obj members => some members
  | _ => none

def bool? : Json → Option Bool
  | .bool b => some b
  | _ => none

/-! ## Plain text -/

mutual

/-- Whether a value has a text in a message. An object is asked for its text under the name
`toString`; a member of that name answers for it, and is none. An array needs the texts of its
items. -/
def hasText : Json → Bool
  | .arr items => haveText items
  | .obj members => (Keyed.get? members "toString").isNone
  | _ => true

/-- Whether all items of an array have a text in a message. -/
def haveText : List Json → Bool
  | [] => true
  | item :: rest => item.hasText && haveText rest

end

mutual

/-- The text of a value in a message: an array is its items with commas between, an object says
only that it is one. -/
def plainText : Json → String
  | .null => "null"
  | .bool b => if b then "true" else "false"
  | .num x => Decimal.spell x
  | .text value => value.shown
  | .arr items => plainItems items
  | .obj _ => "[object Object]"

/-- The items of an array with commas between; `null` leaves its place empty. -/
def plainItems : List Json → String
  | [] => ""
  | [item] => plainItem item
  | item :: rest => plainItem item ++ "," ++ plainItems rest

/-- One item of an array in a message. -/
def plainItem : Json → String
  | .null => ""
  | .bool b => if b then "true" else "false"
  | .num x => Decimal.spell x
  | .text value => value.shown
  | .arr items => plainItems items
  | .obj _ => "[object Object]"

end

end Json

end ReverseDns
