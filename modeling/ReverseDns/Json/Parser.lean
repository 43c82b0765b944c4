import ReverseDns.Json.Basic

/-!
# Reading JSON

A strict reader: no byte order mark, comment, trailing comma or bare control character passes.

* `Json.parse` -- the value of a text, if it is one
-/

namespace ReverseDns.Json.Reader

def isSpace (c : Char) : Bool := c == ' ' || c == '\t' || c == '\n' || c == '\r'

def skip (cs : List Char) : List Char := cs.dropWhile isSpace

def hexDigit? (c : Char) : Option Nat :=
  if '0' ≤ c && c ≤ '9' then some (c.toNat - 48)
  else if 'a' ≤ c && c ≤ 'f' then some (c.toNat - 87)
  else if 'A' ≤ c && c ≤ 'F' then some (c.toNat - 55)
  else none

def hexUnit? (a b c d : Char) : Option Nat := do
  let a ← hexDigit? a
  let b ← hexDigit? b
  let c ← hexDigit? c
  let d ← hexDigit? d
  pure (a * 4096 + b * 256 + c * 16 + d)

def escaped? : Char → Option Char
  | '"' => some '"'
  | '\\' => some '\\'
  | '/' => some '/'
  | 'b' => some '\x08'
  | 'f' => some '\x0c'
  | 'n' => some '\n'
  | 'r' => some '\r'
  | 't' => some '\t'
  | _ => none

/-- The code points of a string up to its closing quote, and the text after it. An escape may
give half of a surrogate pair. -/
def stringPoints? : List Char → Option (List Nat × List Char)
  | [] => none
  | '"' :: rest => some ([], rest)
  | '\\' :: 'u' :: a :: b :: c :: d :: rest => do
    let point ← hexUnit? a b c d
    let (points, rest) ← stringPoints? rest
    pure (point :: points, rest)
  | '\\' :: letter :: rest => do
    let character ← escaped? letter
    let (points, rest) ← stringPoints? rest
    pure (character.toNat :: points, rest)
  | c :: rest =>
    if c.toNat < 0x20 then none
    else do
      let (points, rest) ← stringPoints? rest
      pure (c.toNat :: points, rest)

def string? (cs : List Char) : Option (WideText × List Char) := do
  let (points, rest) ← stringPoints? cs
  pure (.ofPoints points, rest)

/-- The value of decimal digits after the digits of `n`. -/
def digitsValue (n : Nat) (digits : List Char) : Nat :=
  digits.foldl (fun n d => 10 * n + (d.toNat - 48)) n

/-- The digits after a decimal point, and the rest; no digits when no point follows. -/
def fraction? : List Char → Option (List Char × List Char)
  | '.' :: rest =>
    let digits := rest.takeWhile Char.isDigit
    if digits.isEmpty then none else some (digits, rest.dropWhile Char.isDigit)
  | cs => some ([], cs)

def exponent? : List Char → Option (Int × List Char)
  | c :: rest =>
    if c == 'e' || c == 'E' then
      let (negative, rest) := match rest with
        | '-' :: rest => (true, rest)
        | '+' :: rest => (false, rest)
        | rest => (false, rest)
      let digits := rest.takeWhile Char.isDigit
      if digits.isEmpty then none
      else
        let n : Int := digitsValue 0 digits
        some (if negative then -n else n, rest.dropWhile Char.isDigit)
    else some (0, c :: rest)
  | [] => some (0, [])

/-- A number without its sign: no zero stands before another digit. -/
def magnitude? (cs : List Char) : Option (Float × List Char) := do
  let whole := cs.takeWhile Char.isDigit
  let (whole, rest) ← match whole with
    | [] => none
    | '0' :: _ => some (['0'], cs.drop 1)
    | digits => some (digits, cs.dropWhile Char.isDigit)
  let (fraction, rest) ← fraction? rest
  let (exponent, rest) ← exponent? rest
  let digits := digitsValue (digitsValue 0 whole) fraction
  pure (Decimal.ofDecimal digits (exponent - fraction.length), rest)

/-- A number. There is one zero, without a sign. -/
def number? : List Char → Option (Float × List Char)
  | '-' :: rest => do
    let (x, rest) ← magnitude? rest
    pure (if x == 0 then x else -x, rest)
  | cs => magnitude? cs

def after? : List Char → List Char → Option (List Char)
  | [], cs => some cs
  | w :: word, c :: cs => if w = c then after? word cs else none
  | _ :: _, [] => none

mutual

def value? (fuel : Nat) (cs : List Char) : Option (Json × List Char) :=
  match fuel with
  | 0 => none
  | fuel + 1 =>
    match skip cs with
    | '"' :: rest => (string? rest).map fun (value, rest) => (.text value, rest)
    | '[' :: rest =>
      match skip rest with
      | ']' :: rest => some (.arr [], rest)
      | rest => (items? fuel rest).map fun (items, rest) => (.arr items, rest)
    | '\x7b' :: rest =>
      match skip rest with
      | '\x7d' :: rest => some (.obj [], rest)
      | rest => (pairs? fuel rest).map fun (pairs, rest) => (.object pairs, rest)
    | 'n' :: rest => (after? "ull".toList rest).map fun rest => (.null, rest)
    | 't' :: rest => (after? "rue".toList rest).map fun rest => (.bool true, rest)
    | 'f' :: rest => (after? "alse".toList rest).map fun rest => (.bool false, rest)
    | cs => (number? cs).map fun (x, rest) => (.num x, rest)

/-- The items of an array up to its closing bracket, and the text after it. -/
def items? (fuel : Nat) (cs : List Char) : Option (List Json × List Char) :=
  match fuel with
  | 0 => none
  | fuel + 1 =>
    match value? fuel cs with
    | none => none
    | some (item, rest) =>
      match skip rest with
      | ']' :: rest => some ([item], rest)
      | ',' :: rest => (items? fuel rest).map fun (items, rest) => (item :: items, rest)
      | _ => none

/-- The members of an object up to its closing brace, and the text after it. -/
def pairs? (fuel : Nat) (cs : List Char) : Option (Members × List Char) :=
  match fuel with
  | 0 => none
  | fuel + 1 =>
    match skip cs with
    | '"' :: rest =>
      match string? rest with
      | none => none
      | some (name, rest) =>
        match skip rest with
        | ':' :: rest =>
          match value? fuel rest with
          | none => none
          | some (value, rest) =>
            match skip rest with
            | '\x7d' :: rest => some ([(name, value)], rest)
            | ',' :: rest =>
              (pairs? fuel rest).map fun (pairs, rest) => ((name, value) :: pairs, rest)
            | _ => none
        | _ => none
    | _ => none

end

end ReverseDns.Json.Reader

namespace ReverseDns.Json

/-- The value of a text. Each call of the reader takes at least half a character, which bounds
their number. -/
def parse (text : String) : Option Json :=
  match Reader.value? (2 * text.length + 2) text.toList with
  | some (value, rest) => if (Reader.skip rest).isEmpty then some value else none
  | none => none

end ReverseDns.Json
