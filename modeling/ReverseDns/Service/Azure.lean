import ReverseDns.Program
import ReverseDns.Credential
import ReverseDns.Trace.Tracer

/-!
# The Azure DNS service

Calls go through a management client, each with a credential of the configured method. What the
client throws is a reply if it carries a status. Every call is traced.

* `Client` -- a management client
* `Azure` -- the service, with its clock, its credentials and its listeners
* `Azure.serve` -- answer a call
* `Azure.service` -- the service whose listeners are the loggers of runs
-/

namespace ReverseDns

/-- A call of the management client. A token that is absent is not sent. -/
inductive ClientCall where
  | write (key : RecordKey) (properties : Properties) (ifMatch ifNoneMatch : Option String)
  | read (key : RecordKey)
  | erase (key : RecordKey) (ifMatch : Option String)

/-- A token as it is sent: an empty one is not sent at all. -/
def token (text : String) : Option String := if text = "" then none else some text

/-- The call of the client that serves a request. -/
def ClientCall.ofRequest : Request → ClientCall
  | .upsert key properties ifMatch ifNoneMatch =>
    .write key properties (token ifMatch) (token ifNoneMatch)
  | .get key => .read key
  | .delete key ifMatch => .erase key (token ifMatch)

/-- What comes of a call of the client. -/
structure ClientReply where
  /-- How long the call took, in milliseconds. -/
  elapsed : Float := 0
  /-- The status of the response, if one arrived. -/
  status : Option Float := none
  result : Except Thrown RecordSet

/-- A management client with a state in `τ`. -/
structure Client (τ : Type) where
  /-- Call the client of a subscription with a credential. -/
  call : String → Credential → ClientCall → τ → ClientReply × τ

/-- The service for a subscription, with listeners in `ι` and a client in `τ`. -/
structure Azure (ι τ : Type) where
  subscriptionId : String
  keyring : Keyring
  environment : Environment := []
  /-- The time, in milliseconds. -/
  clock : Float := 1000
  tracer : Tracer ι := {}
  client : τ

namespace Azure

variable {ι τ : Type}

/-- A record set as it is handed on: host names are all that is kept of its entries, and no entries
are left out. -/
def handOn (found : RecordSet) : RecordSet :=
  { found with entries := found.entries.withoutNull.map fun entries =>
      entries.map fun entry => { hostname := entry.hostname } }

/-- The reply to a request that succeeded; without a status it counts as 200. -/
def success (request : Request) (status : Option Float) (found : RecordSet) : Reply :=
  let status := status.getD 200
  match request with
  | .upsert _ _ _ _ => { status, id := found.id, etag := found.etag }
  | .get _ => { status, recordSet := .given (handOn found) }
  | .delete _ _ => { status }

/-- The answer to a request. A status that was thrown makes a reply. -/
def answer (request : Request) (status : Option Float) : Except Thrown RecordSet → Answer
  | .ok found => .ok (success request status found)
  | .error thrown =>
    match thrown.status? with
    | some status => .ok { status, error := some thrown }
    | none => .error thrown

/-- Obtain a credential and call the client. A status of zero is none. -/
def perform (client : Client τ) (request : Request) (azure : Azure ι τ) :
    Work (Azure ι τ) RecordSet :=
  match azure.keyring.obtain azure.environment azure.clock azure.keyring.method with
  | (.error failure, keyring) =>
    { result := .error (Thrown.ofMessage failure.message), status := none,
      state := { azure with keyring } }
  | (.ok credential, keyring) =>
    let (reply, state) :=
      client.call azure.subscriptionId credential (ClientCall.ofRequest request) azure.client
    { result := reply.result, status := reply.status.filter isTruthy,
      state := { azure with keyring, client := state, clock := azure.clock + reply.elapsed } }

/-- A call that was answered. -/
structure Served (ι τ : Type) where
  answer : Answer
  deliveries : List (Delivery ι)
  state : Azure ι τ

/-- Answer a call. -/
def serve [DecidableEq ι] (client : Client τ) (react : ι → CallEvent → Reaction ι)
    (request : Request) (azure : Azure ι τ) : Served ι τ :=
  let traced := azure.tracer.trace react Azure.clock request.operation.name request.key
    (perform client request) azure
  { answer := answer request traced.work.status traced.work.result
    deliveries := traced.deliveries
    state := { traced.work.state with tracer := traced.tracer } }

end Azure

/-! ## Loggers as listeners -/

/-- The logger of a run as a listener: it takes failed calls, and all calls if it is verbose. Runs
have different numbers. -/
structure RunListener where
  run : Nat
  verbose : Bool
deriving Repr, DecidableEq

def RunListener.react (_ : RunListener) (_ : CallEvent) : Reaction RunListener := {}

/-- The line that the logger of a run takes from an event. -/
def RunListener.hears (listener : RunListener) (event : CallEvent) : Option Overheard :=
  if event.kind = .call ∧ !listener.verbose then none
  else some { run := listener.run, text := event.line }

/-- The subscription that is used under a configuration; an empty one is none. -/
def Config.subscription? (config : Config) : Option String :=
  (config.subscriptionId.map WideText.shown).bind token

/-- Prepare for a run: use its subscription and its credentials, and let its logger listen if calls
are reported. Listeners of earlier runs stay. -/
def Azure.prepare {τ : Type} (number : Nat) (config : Config) (azure : Azure RunListener τ) :
    Except Failure Unit × Azure RunListener τ :=
  match config.subscription? with
  | none => (.error .noSubscription, azure)
  | some subscriptionId =>
    let tracer :=
      if config.reporting.enabled then
        azure.tracer.enable.subscribe { run := number, verbose := config.reporting.verbose }
      else azure.tracer
    let keyring := Keyring.ofConfig config azure.environment azure.keyring.made
    (.ok (), { azure with subscriptionId, keyring, tracer })

/-- The service over a client. -/
def Azure.service {τ : Type} (client : Client τ) : Service (Azure RunListener τ) where
  serve request azure :=
    let served := azure.serve client RunListener.react request
    { answer := served.answer
      overheard := served.deliveries.filterMap fun delivery =>
        delivery.listener.hears delivery.event
      state := served.state }
  prepare := Azure.prepare

end ReverseDns
