import ReverseDns.Record.Set

/-!
# Events of calls

What is told about a call to the DNS service once it is over.

* `CallEvent` -- the event of one call
* `CallEvent.line` -- an event as a line for people
-/

namespace ReverseDns

/-- What is done with a record set. -/
inductive Operation where
  | upsert | get | delete
deriving Repr, DecidableEq

def Operation.name : Operation → String
  | .upsert => "createOrUpdate"
  | .get => "get"
  | .delete => "delete"

/-- The operation that a call asks for. -/
def Request.operation : Request → Operation
  | .upsert _ _ _ _ => .upsert
  | .get _ => .get
  | .delete _ _ => .delete

/-- The kind of an event, by its name. -/
structure EventKind where
  name : String
deriving Repr, DecidableEq

def EventKind.call : EventKind := { name := "dns.api.call" }

def EventKind.error : EventKind := { name := "dns.api.error" }

/-- The event of one call. Times are in milliseconds. -/
structure CallEvent where
  kind : EventKind
  /-- The number of the event, counted from one. -/
  number : Nat
  timestamp : Float
  /-- The name of what was done. -/
  operation : String
  recordSet : RecordKey
  duration : Float
  status : Part Float
  /-- One line about what the call threw. -/
  error : Part String

/-- A record set as a path. -/
def RecordKey.path (key : RecordKey) : String :=
  s!"{key.resourceGroup}/{key.zoneName}/{key.recordType.name}/{key.recordName}"

namespace CallEvent

def head (event : CallEvent) : String :=
  s!"{event.kind.name} {event.operation} {event.recordSet.path} " ++
    s!"({Decimal.spell event.duration}ms)"

/-- An event as a line. The line of an error does not repeat the status. -/
def line (event : CallEvent) : String :=
  match event.error with
  | .given error => s!"{event.head}: {error}"
  | .null => s!"{event.head}: null"
  | .absent =>
    match event.status with
    | .given status => s!"{event.head} HTTP {Decimal.spell status}"
    | .null => s!"{event.head} HTTP null"
    | .absent => event.head

end CallEvent

end ReverseDns
