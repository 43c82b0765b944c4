import ReverseDns.StateFile
import ReverseDns.Config
import ReverseDns.Logging

/-!
# Programs over a DNS service

An operation is a tree of what it does next: say a line, print a line, hand over what is to be
remembered, connect to a service, or call it and go on with the answer. The service is not part of
the tree, so one operation runs against every service.

* `Program` -- the trees, a monad in which a failure ends the operation
* `Service` -- a service as a state machine
* `Host` -- a service with a home for what is remembered
* `Program.run` -- a run of a program on a host
* `Transcript` -- all that happened in a run, in order
-/

namespace ReverseDns

/-- An operation over a DNS service with a result in `α`. -/
inductive Program (α : Type) where
  /-- The operation ends with a result. -/
  | done (result : α)
  /-- The operation fails. -/
  | stop (failure : Failure)
  /-- Give a line to the logger. -/
  | say (level : Level) (text : String) (next : Program α)
  /-- Print a line. -/
  | print (line : String) (next : Program α)
  /-- Remember `tracked` from now on. -/
  | save (tracked : Tracked) (next : Except Failure Unit → Program α)
  /-- Connect to the service that a configuration names. -/
  | connect (config : Config) (next : Except Failure Unit → Program α)
  /-- Call the service and go on with its answer. -/
  | ask (request : Request) (next : Answer → Program α)

namespace Program

variable {α β : Type}

/-- Run `first`, then go on with its result. -/
def bind (first : Program α) (next : α → Program β) : Program β :=
  match first with
  | .done result => next result
  | .stop failure => .stop failure
  | .say level text rest => .say level text (rest.bind next)
  | .print line rest => .print line (rest.bind next)
  | .save tracked rest => .save tracked fun outcome => (rest outcome).bind next
  | .connect config rest => .connect config fun outcome => (rest outcome).bind next
  | .ask request rest => .ask request fun answer => (rest answer).bind next

instance : Monad Program where
  pure := .done
  bind := bind

/-- Run `first`; where it fails, go on with what the failure calls for. -/
def orElse (first : Program α) (handler : Failure → Program α) : Program α :=
  match first with
  | .done result => .done result
  | .stop failure => handler failure
  | .say level text rest => .say level text (rest.orElse handler)
  | .print line rest => .print line (rest.orElse handler)
  | .save tracked rest => .save tracked fun outcome => (rest outcome).orElse handler
  | .connect config rest => .connect config fun outcome => (rest outcome).orElse handler
  | .ask request rest => .ask request fun answer => (rest answer).orElse handler

/-- End with a result, or fail. -/
def ofExcept : Except Failure α → Program α
  | .ok result => .done result
  | .error failure => .stop failure

def tell (level : Level) (text : String) : Program Unit := .say level text (.done ())

def printLine (line : String) : Program Unit := .print line (.done ())

def remember (tracked : Tracked) : Program Unit := .save tracked ofExcept

def connectTo (config : Config) : Program Unit := .connect config ofExcept

def call (request : Request) : Program Answer := .ask request .done

end Program

/-! ## Services -/

/-- A debug line that reached a logger while a call was served. Loggers are told apart by the
number of the run that they belong to. -/
structure Overheard where
  run : Nat
  text : String
deriving Repr, DecidableEq

/-- What a service does with a call. -/
structure Response (σ : Type) where
  answer : Answer
  overheard : List Overheard := []
  state : σ

/-- A DNS service whose state is in `σ`. -/
structure Service (σ : Type) where
  /-- Answer a call. -/
  serve : Request → σ → Response σ
  /-- Prepare for the calls of the run with a number, under a configuration. -/
  prepare : Nat → Config → σ → Except Failure Unit × σ := fun _ _ state => (.ok (), state)

/-- What programs run on: a service, the home of what is remembered, and the number of the run. -/
structure Host (σ : Type) where
  service : Service σ
  home : Home := .memory
  number : Nat := 0

/-! ## Runs -/

/-- Something that happened in a run. -/
inductive Event where
  | said (level : Level) (text : String)
  | printed (line : String)
  | saved (tracked : Tracked) (outcome : Except Failure Unit)
  | connected (config : Config)
  | called (request : Request) (answer : Answer)
  | overheard (line : Overheard)

/-- All that came of a run. -/
structure Transcript (σ α : Type) where
  result : Except Failure α
  events : List Event
  state : σ
  files : Files

/-- Put events in front of a transcript. -/
def Transcript.after {σ α : Type} (events : List Event) (rest : Transcript σ α) : Transcript σ α :=
  { rest with events := events ++ rest.events }

/-- Run a program on a host whose service is in a state, with files. -/
def Program.run {σ α : Type} (host : Host σ) : Program α → σ → Files → Transcript σ α
  | .done result, state, files => { result := .ok result, events := [], state, files }
  | .stop failure, state, files => { result := .error failure, events := [], state, files }
  | .say level text next, state, files => (next.run host state files).after [.said level text]
  | .print line next, state, files => (next.run host state files).after [.printed line]
  | .save tracked next, state, files =>
    let (outcome, files) := host.home.keep tracked files
    ((next outcome).run host state files).after [.saved tracked outcome]
  | .connect config next, state, files =>
    let (outcome, state) := host.service.prepare host.number config state
    ((next outcome).run host state files).after [.connected config]
  | .ask request next, state, files =>
    let response := host.service.serve request state
    ((next response.answer).run host response.state files).after
      (.called request response.answer :: response.overheard.map Event.overheard)

namespace Transcript

variable {σ α : Type}

def requests (transcript : Transcript σ α) : List Request :=
  transcript.events.filterMap fun
    | .called request _ => some request
    | _ => none

def printed (transcript : Transcript σ α) : List String :=
  transcript.events.filterMap fun
    | .printed line => some line
    | _ => none

/-- The configurations with which a run connected, in order. -/
def configs (transcript : Transcript σ α) : List Config :=
  transcript.events.filterMap fun
    | .connected config => some config
    | _ => none

def saves (transcript : Transcript σ α) : List Tracked :=
  transcript.events.filterMap fun
    | .saved tracked _ => some tracked
    | _ => none

/-- What is remembered after a run that started with `before`. -/
def trackedAfter (transcript : Transcript σ α) (before : Tracked) : Tracked :=
  transcript.saves.getLast?.getD before

end Transcript

end ReverseDns
