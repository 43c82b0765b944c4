import ReverseDns.CommandLine.Scan
import ReverseDns.Config

/-!
# Invocations

What a command line asks for.

* `Verb` -- the commands
* `Globals` -- the settings that every command takes
* `Command` -- a command with its arguments
* `Invocation.ofWords` -- what the words of a command line ask for
-/

namespace ReverseDns.CommandLine

/-- A command. -/
inductive Verb where
  /-- Make a record set what a file describes. -/
  | apply
  /-- Print the tracked record set. -/
  | inspect
  /-- Delete the tracked record set. -/
  | destroy
  /-- Track a record set that exists. -/
  | adopt
deriving Repr, DecidableEq

namespace Verb

def name : Verb → String
  | .apply => "apply"
  | .inspect => "show"
  | .destroy => "destroy"
  | .adopt => "import"

def all : List Verb := [.apply, .inspect, .destroy, .adopt]

def ofName? (word : String) : Option Verb := all.find? fun verb => verb.name == word

def argument? : Verb → Option String
  | .apply => some "config"
  | .adopt => some "id"
  | .inspect | .destroy => none

end Verb

def helpWord : String := "help"

/-! ## Switches -/

def subscriptionSwitch : Switch := { long := "--subscription", placeholder := some "id" }

def tenantSwitch : Switch := { long := "--tenant", placeholder := some "id" }

def methodSwitch : Switch :=
  { long := "--credential-method", placeholder := some "method"
    choices := CredentialMethod.all.map CredentialMethod.name }

def diagnosticsSwitch : Switch := { long := "--diagnostics" }

def verboseSwitch : Switch := { short := some 'v', long := "--verbose" }

def stateSwitch : Switch := { short := some 's', long := "--state", placeholder := some "file" }

def globalSwitches : List Switch :=
  [subscriptionSwitch, tenantSwitch, methodSwitch, diagnosticsSwitch, verboseSwitch]

def ownSwitches : List Switch := [stateSwitch]

/-- The state file where none is named. -/
def standardStatePath : String := "ptr-record.state.json"

/-! ## What is asked for -/

/-- The settings that every command takes. -/
structure Globals where
  subscription : Option String := none
  tenant : Option String := none
  method : Option String := none
  diagnostics : Bool := false
  verbose : Bool := false
deriving Repr, DecidableEq

namespace Globals

def ofScan (scan : Scan) : Globals where
  subscription := scan.value? subscriptionSwitch
  tenant := scan.value? tenantSwitch
  method := scan.value? methodSwitch
  diagnostics := scan.has diagnosticsSwitch
  verbose := scan.has verboseSwitch

def member (name : String) (value : Option String) : Members :=
  Json.optional name ((value.filter (· ≠ "")).map .str)

/-- The settings as raw settings of the configuration. Reporting all calls includes reporting the
failed ones. -/
def settings (globals : Globals) : Json :=
  .obj (member "subscriptionId" globals.subscription ++ member "tenantId" globals.tenant ++
    member "credentialMethod" globals.method ++
    Json.optional "diagnostics"
      (if globals.diagnostics || globals.verbose then
        some (.obj [("enabled", .bool true), ("verbose", .bool globals.verbose)])
      else none))

end Globals

/-- A command with its arguments, among them the path of the state file. -/
inductive Command where
  | apply (description state : String)
  | inspect (state : String)
  | destroy (state : String)
  | adopt (id state : String)
deriving Repr, DecidableEq

namespace Command

def state : Command → String
  | .apply _ state => state
  | .inspect state => state
  | .destroy state => state
  | .adopt _ state => state

def verb : Command → Verb
  | .apply _ _ => .apply
  | .inspect _ => .inspect
  | .destroy _ => .destroy
  | .adopt _ _ => .adopt

def sources : Command → List String
  | .apply description state => [description, state]
  | .inspect state => [state]
  | .destroy state => [state]
  | .adopt _ state => [state]

/-- A command from its operands and the path of the state file. Operands beyond those it needs are
ignored. -/
def ofOperands (verb : Verb) (operands : List String) (state : String) : Except Misuse Command :=
  match verb, operands with
  | .apply, description :: _ => .ok (.apply description state)
  | .adopt, id :: _ => .ok (.adopt id state)
  | .inspect, _ => .ok (.inspect state)
  | .destroy, _ => .ok (.destroy state)
  | .apply, [] | .adopt, [] => .error (.missingArgument (verb.argument?.getD ""))

end Command

/-- What a command line asks for. -/
inductive Invocation where
  /-- A command is run. -/
  | run (globals : Globals) (command : Command)
  /-- Help is given, about one command or about all. -/
  | help (about : Option Verb)
  /-- There is no command to run. -/
  | aimless
  /-- The command line is wrong. -/
  | misused (misuse : Misuse)
deriving Repr, DecidableEq

namespace Invocation

def asksHelp (words : List String) : Bool := words.any helpForms.contains

def longForms (switches : List Switch) : List String := switches.map Switch.long ++ ["--help"]

/-- Take unknown words for a call for help, or else for a misuse; `known` are the long forms that
might be meant. Without unknown words, go on. -/
def settle (about : Option Verb) (known unknown : List String) (next : Invocation) : Invocation :=
  if asksHelp unknown then .help about
  else match unknown with
    | word :: _ => .misused (.unknownSwitch word known)
    | [] => next

def ofVerb (globals : Globals) (verb : Verb) (operands unknown : List String) : Invocation :=
  match scan ownSwitches unknown with
  | .error misuse => .misused misuse
  | .ok own =>
    settle (some verb) (longForms ownSwitches ++ longForms globalSwitches) own.unknown
      (match Command.ofOperands verb (operands ++ own.operands)
          ((own.value? stateSwitch).getD standardStatePath) with
        | .ok command => .run globals command
        | .error misuse => .misused misuse)

/-- Help about the command that is named; with an unknown name there is nothing to do. -/
def ofHelp : List String → Invocation
  | [] => .help none
  | word :: _ =>
    if word = "" then .help none
    else match Verb.ofName? word with
      | some verb => .help (some verb)
      | none => .aimless

def ofWords (words : List String) : Invocation :=
  match scan globalSwitches words with
  | .error misuse => .misused misuse
  | .ok scan =>
    match scan.operands with
    | [] => settle none (longForms globalSwitches) scan.unknown .aimless
    | word :: operands =>
      match Verb.ofName? word with
      | some verb => ofVerb (Globals.ofScan scan) verb operands scan.unknown
      | none =>
        if word = helpWord then ofHelp operands
        else if asksHelp scan.unknown then .help none
        else .misused (.unknownCommand word (Verb.all.map Verb.name ++ [helpWord]))

end Invocation

end ReverseDns.CommandLine
