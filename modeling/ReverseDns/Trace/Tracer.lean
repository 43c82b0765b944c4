import ReverseDns.Trace.Event
import ReverseDns.Logging

/-!
# Tracing of calls

Listeners are told about every call, in the order in which they subscribed. What they throw is
warned about and does not change the outcome of the call, unless it cannot be put into words: then
the way of the event ends there, and the call fails. Each may subscribe and unsubscribe listeners
while an event is on its way: one that leaves before its turn is passed over, one that joins has its
turn at the end.

* `Tracer` -- whether calls are traced, how many events there were, and the listeners
* `Reaction`, `Delivery` -- what a listener does with an event, and the record of it
* `Tracer.deliver`, `Tracer.notify` -- the way of an event through the listeners
* `Tracer.trace` -- a piece of work that is traced
-/

namespace ReverseDns

/-- What a listener does with an event: first it unsubscribes listeners, then it subscribes others,
then it may throw. -/
structure Reaction (ι : Type) where
  removes : List ι := []
  adds : List ι := []
  raises : Option Thrown := none

/-- An event that reached a listener, and what the listener threw. -/
structure Delivery (ι : Type) where
  listener : ι
  event : CallEvent
  raised : Option Thrown

/-- Whether a listener threw nothing, or something that can be put into words. -/
def Delivery.isTellable {ι : Type} (delivery : Delivery ι) : Bool :=
  delivery.raised.all Thrown.isDescribable

def Delivery.warning? {ι : Type} (delivery : Delivery ι) : Option ConsoleLine :=
  (delivery.raised.filter Thrown.isDescribable).map fun thrown =>
    labelled consoleLabel .warn s!"diagnostic listener failed: {describe (some thrown)}"

/-- What came of the way of an event. -/
structure Tour (ι : Type) where
  deliveries : List (Delivery ι)
  /-- The listeners that remain. -/
  listeners : List ι
  /-- Whether the event went all the way. -/
  complete : Bool

/-- The listeners, and how far tracing has come. -/
structure Tracer (ι : Type) where
  enabled : Bool := false
  /-- How many events there were. -/
  emitted : Nat := 0
  /-- The listeners in the order of their subscription, none of them twice. -/
  listeners : List ι := []

namespace Tracer

variable {ι σ α : Type} [DecidableEq ι]

def enable (tracer : Tracer ι) : Tracer ι := { tracer with enabled := true }

def subscribe (tracer : Tracer ι) (listener : ι) : Tracer ι :=
  if listener ∈ tracer.listeners then tracer
  else { tracer with listeners := tracer.listeners ++ [listener] }

def unsubscribe (tracer : Tracer ι) (listener : ι) : Tracer ι :=
  { tracer with listeners := tracer.listeners.filter (· ≠ listener) }

/-! ## Delivery -/

/-- Let a listener wait for its turn, unless it had its turn or waits. -/
def queue (visited waiting : List ι) (listener : ι) : List ι :=
  if listener ∈ visited ∨ listener ∈ waiting then waiting else waiting ++ [listener]

/-- Take an event to the listeners that wait, one after the other; `visited` had their turns. At
most `turns` listeners are visited. -/
def deliver (react : ι → CallEvent → Reaction ι) (event : CallEvent) :
    Nat → List ι → List ι → Tour ι
  | 0, visited, waiting => { deliveries := [], listeners := visited ++ waiting, complete := true }
  | _ + 1, visited, [] => { deliveries := [], listeners := visited, complete := true }
  | turns + 1, visited, listener :: waiting =>
    let reaction := react listener event
    let visited := (visited ++ [listener]).filter (· ∉ reaction.removes)
    let waiting := reaction.adds.foldl (queue visited) (waiting.filter (· ∉ reaction.removes))
    let delivery : Delivery ι := { listener, event, raised := reaction.raises }
    if delivery.isTellable then
      let tour := deliver react event turns visited waiting
      { tour with deliveries := delivery :: tour.deliveries }
    else { deliveries := [delivery], listeners := visited ++ waiting, complete := false }

/-- How many listeners that joined while an event was on its way have their turns. Without a limit,
a listener that leaves and joins again would be visited for ever. -/
def newcomers : Nat := 1000000

def notify (react : ι → CallEvent → Reaction ι) (tracer : Tracer ι) (event : CallEvent) :
    Tour ι × Tracer ι :=
  let tour := deliver react event (tracer.listeners.length + newcomers) [] tracer.listeners
  (tour, { tracer with emitted := event.number, listeners := tour.listeners })

end Tracer

/-! ## Work -/

/-- What a piece of work on a state in `σ` came to, with the status that was seen on the way. -/
structure Work (σ α : Type) where
  result : Except Thrown α
  status : Option Float
  state : σ

/-- What a piece of work came to, and who was told. -/
structure Traced (ι σ α : Type) where
  work : Work σ α
  deliveries : List (Delivery ι)
  tracer : Tracer ι

/-- The occasion of an event: what was done, to what, and when it started and ended. -/
structure Occasion where
  operation : String
  recordSet : RecordKey
  started : Float
  ended : Float

namespace Tracer

variable {ι σ α : Type} [DecidableEq ι]

def report (react : ι → CallEvent → Reaction ι) (occasion : Occasion) (kind : EventKind)
    (status : Option Float) (error : Option String) (tracer : Tracer ι) : Tour ι × Tracer ι :=
  tracer.notify react {
    kind := kind
    number := tracer.emitted + 1
    timestamp := occasion.ended
    operation := occasion.operation
    recordSet := occasion.recordSet
    duration := occasion.ended - occasion.started
    status := .ofOption status
    error := .ofOption error }

/-- Tell the listeners of a piece of work that threw. What was thrown brings its own status. Gives
what is thrown in the end, who was told, and the tracer. -/
def reportThrown (react : ι → CallEvent → Reaction ι) (occasion : Occasion) (thrown : Thrown)
    (tracer : Tracer ι) : Thrown × List (Delivery ι) × Tracer ι :=
  if thrown.isDescribable then
    let (tour, tracer) :=
      tracer.report react occasion .error thrown.status? (some (describe (some thrown)))
    (if tour.complete then thrown else .withoutText, tour.deliveries, tracer)
  else (.withoutText, [], tracer)

/-- Do a piece of work and, where calls are traced, tell the listeners about it. Where the telling
of a success breaks off, a failure is told in its place. -/
def trace (react : ι → CallEvent → Reaction ι) (clock : σ → Float) (operation : String)
    (recordSet : RecordKey) (perform : σ → Work σ α) (tracer : Tracer ι) (state : σ) :
    Traced ι σ α :=
  let work := perform state
  let occasion : Occasion :=
    { operation, recordSet, started := clock state, ended := clock work.state }
  if !tracer.enabled then { work, deliveries := [], tracer }
  else match work.result with
    | .error thrown =>
      let (thrown, deliveries, tracer) := tracer.reportThrown react occasion thrown
      { work := { work with result := .error thrown }, deliveries, tracer }
    | .ok _ =>
      let (tour, tracer) := tracer.report react occasion .call work.status none
      if tour.complete then { work, deliveries := tour.deliveries, tracer }
      else
        let (thrown, deliveries, tracer) := tracer.reportThrown react occasion .withoutText
        { work := { work with result := .error thrown },
          deliveries := tour.deliveries ++ deliveries, tracer }

end Tracer

end ReverseDns
