import ReverseDns.CommandLine.Help
import ReverseDns.Reconcile
import ReverseDns.StateFile

/-!
# Execution of a command line

Each command is a program over the service. It reads its files first; a change of what is
remembered goes to its state file at once. A failure is one line on the error level and the exit
code 1.

* `Command.program` -- the program of a command
* `Invocation.program` -- the program of a whole command line, with its exit code
* `execute` -- a run of a command line on files and a service
-/

namespace ReverseDns.CommandLine

open Program (tell printLine remember connectTo ofExcept)

/-- Connect to the service that the settings and the environment name. -/
def connect (globals : Globals) (environment : Environment) : Program Unit := do
  let config ← ofExcept (Config.resolve globals.settings environment)
  connectTo config

/-- Delete the tracked record set if the desired one lives elsewhere. -/
def replace (desired : Desired) (tracked : Tracked) : Program Tracked := do
  match tracked.usableId with
  | none => pure tracked
  | some text =>
    let id ← ofExcept (PtrRecordId.parse text)
    if id.address.same desired.address then pure tracked
    else
      tell .info s!"Replacing {text}: name, zone or resource group changed"
      Reconcile.remove tracked
      remember .empty
      pure .empty

/-- Make the record set what a file describes, and print its ID. What is remembered is brought up to
date first, so that the etag that is sent is the last one. -/
def converge (files : Files) (environment : Environment) (globals : Globals)
    (description state : String) : Program Unit := do
  let desired ← ofExcept (files.readJson description)
  let desired ← ofExcept (Desired.ofJson (some desired))
  let tracked ← ofExcept (StateFile.load files state)
  connect globals environment
  let (tracked, _) ← Reconcile.refresh tracked
  let tracked ← replace desired tracked
  let (tracked, _) ← Reconcile.write desired tracked
  printLine tracked.idText

/-- Bring the state file up to date, and print the tracked record set. -/
def present (files : Files) (environment : Environment) (globals : Globals) (state : String) :
    Program Unit := do
  let tracked ← ofExcept (StateFile.load files state)
  connect globals environment
  match ← Reconcile.refresh tracked with
  | (_, some remote) => printLine remote.toJson.pretty
  | (_, none) => printLine "DNS PTR record not found"

def discard (files : Files) (environment : Environment) (globals : Globals) (state : String) :
    Program Unit := do
  let tracked ← ofExcept (StateFile.load files state)
  match tracked.usableId with
  | none => .stop (.nothingTracked state)
  | some id =>
    connect globals environment
    Reconcile.remove tracked
    remember .empty
    printLine s!"Deleted {id}"

def takeOver (files : Files) (environment : Environment) (globals : Globals) (id state : String) :
    Program Unit := do
  let tracked ← ofExcept (StateFile.load files state)
  connect globals environment
  let (tracked, _) ← Reconcile.adopt id tracked
  match ← Reconcile.refresh tracked with
  | (_, some remote) => printLine remote.toJson.pretty
  | (_, none) => .stop (.notThere id)

/-- The program of a command. -/
def Command.program (files : Files) (environment : Environment) (globals : Globals) :
    Command → Program Unit
  | .apply description state => converge files environment globals description state
  | .inspect state => present files environment globals state
  | .destroy state => discard files environment globals state
  | .adopt id state => takeOver files environment globals id state

/-! ## Exit codes -/

def Verb.complaint : Verb → String
  | .apply => "Failed to apply DNS PTR record"
  | .inspect => "Failed to read DNS PTR record"
  | .destroy => "Failed to delete DNS PTR record"
  | .adopt => "Failed to import DNS PTR record"

def red (text : String) : String := "\x1b[31m" ++ text ++ "\x1b[0m"

/-- Turn a failure into a line and the exit code 1; success is the exit code 0. -/
def reported (verb : Verb) (program : Program Unit) : Program Nat :=
  (program.bind fun _ => .done 0).orElse fun failure =>
    .say .error (red s!"{verb.complaint}: {failure.describe}") (.done 1)

def Invocation.program (files : Files) (environment : Environment) : Invocation → Program Nat
  | .run globals command => reported command.verb (command.program files environment globals)
  | .help none => .print overview (.done 0)
  | .help (some verb) => .print verb.help (.done 0)
  | .aimless => .say .error overview (.done 1)
  | .misused misuse => .say .error misuse.message (.done 1)

/-! ## Runs -/

/-- What a run of a command line leaves. -/
structure Finished (σ : Type) where
  exitCode : Nat
  events : List Event
  files : Files
  state : σ

/-- Where a run of an invocation remembers: in the state file of its command. -/
def Invocation.home : Invocation → Home
  | .run _ command => .file command.state
  | _ => .memory

/-- Run a command line, as the run with a number, on files and a service. -/
def execute {σ : Type} (service : Service σ) (number : Nat) (environment : Environment)
    (words : List String) (files : Files) (state : σ) : Finished σ :=
  let invocation := Invocation.ofWords words
  let host : Host σ := { service, home := invocation.home, number }
  let transcript := (invocation.program files environment).run host state files
  { exitCode := match transcript.result with
      | .ok code => code
      | .error _ => 1
    events := transcript.events
    files := transcript.files
    state := transcript.state }

end ReverseDns.CommandLine
