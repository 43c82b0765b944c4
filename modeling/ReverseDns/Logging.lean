/-!
# Logging

Lines for people, at four levels.

* `Level` -- the levels
* `Logger` -- who receives lines: an injected logger, or the console behind a label
* `ConsoleLine` -- what the console shows
-/

namespace ReverseDns

/-- The level of a line. -/
inductive Level where
  | debug | info | warn | error
deriving Repr, DecidableEq

def Level.name : Level → String
  | .debug => "debug"
  | .info => "info"
  | .warn => "warn"
  | .error => "error"

def Level.ofName? (text : String) : Option Level :=
  [Level.debug, .info, .warn, .error].find? fun level => level.name == text

/-- The stream of the console on which lines of a level appear. -/
def Level.stream : Level → String
  | .debug => "debug"
  | .info => "log"
  | .warn => "warn"
  | .error => "error"

/-- A line on a stream of the console. -/
structure ConsoleLine where
  stream : String
  text : String
deriving Repr, DecidableEq

/-- The label of the console logger. -/
def consoleLabel : String := "[AzureDNS:PTR]"

def labelled (label : String) (level : Level) (text : String) : ConsoleLine :=
  { stream := level.stream, text := s!"{label} {text}" }

/-- Who receives lines. -/
inductive Logger where
  /-- A logger given by the caller; without a place for debug lines it drops them. -/
  | injected (takesDebug : Bool)
  /-- The console. -/
  | console
deriving Repr, DecidableEq

def Logger.keeps : Logger → Level → Bool
  | .injected takesDebug, .debug => takesDebug
  | _, _ => true

end ReverseDns
