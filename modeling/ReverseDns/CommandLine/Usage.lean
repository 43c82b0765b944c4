import ReverseDns.Text.Distance

/-!
# Switches and their misuse

* `Switch` -- a switch of the command line, with or without a value
* `Misuse` -- what can be wrong with a command line
* `Misuse.message` -- the words for it, with a guess where a name is close
-/

namespace ReverseDns.CommandLine

/-- A switch. One with a placeholder takes a value, which has to be one of the choices if there are
any. -/
structure Switch where
  /-- The letter of the short form. -/
  short : Option Char := none
  /-- The long form. -/
  long : String
  placeholder : Option String := none
  choices : List String := []
deriving Repr, DecidableEq

namespace Switch

def forms (switch : Switch) : List String :=
  (switch.short.map fun letter => String.ofList ['-', letter]).toList ++ [switch.long]

def shown (switch : Switch) : String :=
  ", ".intercalate switch.forms ++
    match switch.placeholder with
    | some placeholder => " <" ++ placeholder ++ ">"
    | none => ""

def takesValue (switch : Switch) : Bool := switch.placeholder.isSome

def accepts (switch : Switch) (value : String) : Bool :=
  switch.choices.isEmpty || switch.choices.contains value

end Switch

/-- The forms that ask for help. -/
def helpForms : List String := ["-h", "--help"]

/-- What is wrong with a command line. -/
inductive Misuse where
  /-- A switch stands at the end without its value. -/
  | missingValue (switch : Switch)
  /-- A value is none of the choices. -/
  | badChoice (switch : Switch) (value : String)
  /-- A word looks like a switch and is none of those known. -/
  | unknownSwitch (word : String) (known : List String)
  /-- The first word is none of the commands known. -/
  | unknownCommand (word : String) (known : List String)
  /-- A command lacks an argument. -/
  | missingArgument (name : String)
deriving Repr, DecidableEq

def isLong (word : String) : Bool :=
  match word.toList with
  | '-' :: '-' :: _ => true
  | _ => false

def undashed (word : String) : String := String.ofList (word.toList.drop 2)

/-- The names that come closest to a word. The two dashes of a long form do not count; where the
word has them, the first two characters of a name count as dashes. -/
def guesses (word : String) (known : List String) : List String :=
  if isLong word then
    (Text.similar (undashed word) ((Text.distinct known).map undashed)).map ("--" ++ ·)
  else Text.similar word known

/-- A question after the names that come closest to a word. -/
def guess (word : String) (known : List String) : String :=
  match guesses word known with
  | [] => ""
  | [one] => "\n(Did you mean " ++ one ++ "?)"
  | several => "\n(Did you mean one of " ++ ", ".intercalate several ++ "?)"

/-- The words for a misuse. Only long forms are guessed at. -/
def Misuse.message : Misuse → String
  | .missingValue switch => s!"error: option '{switch.shown}' argument missing"
  | .badChoice switch value =>
    s!"error: option '{switch.shown}' argument '{value}' is invalid. " ++
      "Allowed choices are " ++ ", ".intercalate switch.choices ++ "."
  | .unknownSwitch word known =>
    s!"error: unknown option '{word}'" ++ if isLong word then guess word known else ""
  | .unknownCommand word known => s!"error: unknown command '{word}'" ++ guess word known
  | .missingArgument name => s!"error: missing required argument '{name}'"

end ReverseDns.CommandLine
