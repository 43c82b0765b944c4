import ReverseDns.CommandLine.Usage

/-!
# Scanning a command line

The words of a command line are sorted by what they are to the switches that are known. Letters of
several short forms may share one word, and a value may be joined to its switch. From the first
unknown switch on, plain words are kept with it, since they may belong to it.

* `Scan` -- the words of a command line, sorted
* `Word.read` -- what one word is
* `scan` -- sort the words of a command line
-/

namespace ReverseDns.CommandLine

/-- The words of a command line, sorted. -/
structure Scan where
  /-- The switches that were given, by long form, with their values. -/
  given : List (String × Option String) := []
  /-- The plain words. -/
  operands : List String := []
  /-- The unknown switches, and the plain words after the first of them. -/
  unknown : List String := []
deriving Repr, DecidableEq

namespace Scan

def give (switch : Switch) (value : Option String) (rest : Scan) : Scan :=
  { rest with given := (switch.long, value) :: rest.given }

def giveAll (switches : List Switch) (rest : Scan) : Scan :=
  switches.foldr (fun switch rest => give switch none rest) rest

/-- Put words in front: among the unknown ones when `astray`, among the operands otherwise. -/
def keep (astray : Bool) (words : List String) (rest : Scan) : Scan :=
  if astray then { rest with unknown := words ++ rest.unknown }
  else { rest with operands := words ++ rest.operands }

def value? (scan : Scan) (switch : Switch) : Option String :=
  (scan.given.filterMap fun entry => if entry.1 = switch.long then entry.2 else none).getLast?

def has (scan : Scan) (switch : Switch) : Bool := scan.given.any fun entry => entry.1 == switch.long

end Scan

/-! ## One word -/

/-- What a word is. -/
inductive Word where
  /-- Two dashes: all words after it are plain. -/
  | divider
  /-- A switch that takes no value, or takes the next word as its value. -/
  | switch (known : Switch)
  /-- A switch joined to its value. -/
  | joined (known : Switch) (value : String)
  /-- A switch that is not known. -/
  | stranger
  | plain

namespace Word

def find? (switches : List Switch) (form : List Char) : Option Switch :=
  switches.find? fun switch => switch.forms.contains (String.ofList form)

def findTaking? (switches : List Switch) (form : List Char) : Option Switch :=
  (find? switches form).filter Switch.takesValue

/-- A long form before an equals sign, which is not its first character, and the value after it. -/
def readJoined (switches : List Switch) (tail : List Char) : Word :=
  let name := tail.takeWhile (· ≠ '=')
  match findTaking? switches ('-' :: '-' :: name), tail.drop name.length with
  | some known, _ :: value =>
    if name.isEmpty then .stranger else .joined known (String.ofList value)
  | _, _ => .stranger

def read (switches : List Switch) (chars : List Char) : Word :=
  match find? switches chars, chars with
  | _, ['-', '-'] => .divider
  | some known, '-' :: _ :: _ => .switch known
  | none, '-' :: '-' :: tail => readJoined switches tail
  | none, '-' :: letter :: value =>
    match findTaking? switches ['-', letter] with
    | some known => .joined known (String.ofList value)
    | none => .stranger
  | _, _ => .plain

/-- Take letters off a word of one dash, as long as they are switches without a value and something
is left. Gives the switches and what follows the dash in the end. -/
def peel (switches : List Switch) : List Char → List Switch × List Char
  | letter :: next :: rest =>
    match if letter = '-' then none else find? switches ['-', letter] with
    | some known =>
      if known.takesValue then ([], letter :: next :: rest)
      else
        let (others, left) := peel switches (next :: rest)
        (known :: others, left)
    | none => ([], letter :: next :: rest)
  | short => ([], short)

/-- The letters of a word that are switches, and what is left of the word. -/
def split (switches : List Switch) (word : String) : List Switch × List Char :=
  match word.toList with
  | '-' :: tail =>
    let (known, left) := peel switches tail
    (known, '-' :: left)
  | chars => ([], chars)

end Word

/-! ## All words -/

def supply (switch : Switch) (value : String) (rest : Except Misuse Scan) : Except Misuse Scan :=
  if switch.accepts value then rest.map (Scan.give switch (some value))
  else .error (.badChoice switch value)

/-- Sort the words of a command line; `astray` tells whether an unknown switch went before. A switch
that takes a value takes the next word, whatever it is. -/
def scanFrom (switches : List Switch) : Bool → List String → Except Misuse Scan
  | _, [] => .ok {}
  | astray, word :: rest =>
    let (flags, left) := Word.split switches word
    let sorted : Except Misuse Scan :=
      match Word.read switches left with
      | .divider =>
        .ok (Scan.keep astray ((if astray then ["--"] else []) ++ rest) {})
      | .switch known =>
        if known.takesValue then
          match rest with
          | [] => .error (.missingValue known)
          | value :: rest => supply known value (scanFrom switches astray rest)
        else (scanFrom switches astray rest).map (Scan.give known none)
      | .joined known value => supply known value (scanFrom switches astray rest)
      | .stranger =>
        (scanFrom switches true rest).map (Scan.keep true [String.ofList left])
      | .plain => (scanFrom switches astray rest).map (Scan.keep astray [String.ofList left])
    sorted.map (Scan.giveAll flags)

def scan (switches : List Switch) (words : List String) : Except Misuse Scan :=
  scanFrom switches false words

end ReverseDns.CommandLine
