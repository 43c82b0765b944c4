import ReverseDns.Json.Basic

/-!
# Writing JSON

* `Json.quote` -- a string in quotes; a lone half of a surrogate pair is escaped
* `Json.pretty` -- a value over several lines, two blanks a level
* `Json.compact` -- a value on one line
-/

namespace ReverseDns.Json

def hexChar (n : Nat) : Char := if n < 10 then Char.ofNat (48 + n) else Char.ofNat (87 + n)

/-- A character inside quotes. Control characters have a letter or their number. -/
def quoteChar (c : Char) : List Char :=
  if c = '"' then ['\\', '"']
  else if c = '\\' then ['\\', '\\']
  else if c = '\x08' then ['\\', 'b']
  else if c = '\x0c' then ['\\', 'f']
  else if c = '\n' then ['\\', 'n']
  else if c = '\r' then ['\\', 'r']
  else if c = '\t' then ['\\', 't']
  else if c.toNat < 0x20 then ['\\', 'u', '0', '0', hexChar (c.toNat / 16), hexChar (c.toNat % 16)]
  else [c]

def quoteChars (s : String) : List Char := s.toList.flatMap quoteChar

def quoteHalf (half : Nat) : List Char :=
  ['\\', 'u', hexChar (half / 4096 % 16), hexChar (half / 256 % 16), hexChar (half / 16 % 16),
    hexChar (half % 16)]

def quote (value : WideText) : String :=
  String.ofList ('"' :: quoteChars value.start ++
    value.torn.flatMap (fun piece => quoteHalf piece.1 ++ quoteChars piece.2) ++ ['"'])

/-- The text of a number; what is not finite has none and is written `null`. -/
def numberText (x : Float) : String := if Decimal.isFinite x then Decimal.spell x else "null"

def newLine (level : Nat) : String := "\n" ++ String.ofList (List.replicate (2 * level) ' ')

mutual

def prettyAt (level : Nat) : Json → String
  | .null => "null"
  | .bool b => if b then "true" else "false"
  | .num x => numberText x
  | .text value => quote value
  | .arr [] => "[]"
  | .arr items =>
    "[" ++ newLine (level + 1) ++ prettyItems (level + 1) items ++ newLine level ++ "]"
  | .obj [] => "\x7b\x7d"
  | .obj members =>
    "\x7b" ++ newLine (level + 1) ++ prettyMembers (level + 1) members ++ newLine level ++ "\x7d"

def prettyItems (level : Nat) : List Json → String
  | [] => ""
  | [item] => prettyAt level item
  | item :: rest => prettyAt level item ++ "," ++ newLine level ++ prettyItems level rest

def prettyMembers (level : Nat) : Members → String
  | [] => ""
  | [(name, value)] => quote name ++ ": " ++ prettyAt level value
  | (name, value) :: rest =>
    quote name ++ ": " ++ prettyAt level value ++ "," ++ newLine level ++ prettyMembers level rest

end

def pretty (value : Json) : String := prettyAt 0 value

mutual

def compact : Json → String
  | .null => "null"
  | .bool b => if b then "true" else "false"
  | .num x => numberText x
  | .text value => quote value
  | .arr items => "[" ++ compactItems items ++ "]"
  | .obj members => "\x7b" ++ compactMembers members ++ "\x7d"

def compactItems : List Json → String
  | [] => ""
  | [item] => compact item
  | item :: rest => compact item ++ "," ++ compactItems rest

def compactMembers : Members → String
  | [] => ""
  | [(name, value)] => quote name ++ ":" ++ compact value
  | (name, value) :: rest =>
    quote name ++ ":" ++ compact value ++ "," ++ compactMembers rest

end

end ReverseDns.Json
