import Mathlib.Data.List.Forall2
import Mathlib.Data.List.Nodup
import ReverseDns.Proofs.Tracing

/-!
# Who is told of a call

Every call that is traced is told of once, under the next number, to the listeners in the order of
their subscription, but for those that an earlier one unsubscribed on the way. Only what cannot be
put into words comes in between: thrown by a call, nobody is told of it; thrown by a listener, it
ends the way of the event. In both cases the call fails in place of what it came to.

* `Withholds`, `Reaches` -- the listeners that an event reaches
* `deliver_eq`, `report_eq` -- the way of an event
* `Step`, `episodes` -- a tracer in use, and its calls
* `Accounts`, `exists_accounts` -- what became of one call, with the events that told of it
* `accounts_of_use` -- what became of every call, and the numbers of all events
-/

namespace ReverseDns.Tracer

variable {ι σ α : Type} {react : ι → CallEvent → Reaction ι}

/-! ## The way of an event -/

/-- Listeners may unsubscribe listeners while an event is on its way, but subscribe none. -/
def Unsubscribing (react : ι → CallEvent → Reaction ι) : Prop :=
  ∀ listener event, (react listener event).adds = []

/-- What a listener throws at an event, if anything, can be put into words. -/
def isWorded (react : ι → CallEvent → Reaction ι) (event : CallEvent) (listener : ι) : Bool :=
  (react listener event).raises.all Thrown.isDescribable

/-- A listener keeps an event from another one: it unsubscribes the other, or it throws what cannot
be put into words. -/
def Withholds (react : ι → CallEvent → Reaction ι) (event : CallEvent) (earlier later : ι) : Prop :=
  later ∈ (react earlier event).removes ∨ isWorded react event earlier = false

/-- Of these listeners an event reaches those that are told: each once, in order, and all but those
from which one that was told before keeps it. -/
structure Reaches (react : ι → CallEvent → Reaction ι) (event : CallEvent)
    (listeners told : List ι) : Prop where
  inOrder : told.Sublist listeners
  once : told.Nodup
  exact : ∀ {front listener back}, listeners = front ++ listener :: back →
    (listener ∈ told ↔ ∀ earlier ∈ front, earlier ∈ told → ¬Withholds react event earlier listener)

/-- The deliveries of an event to the listeners that are told. -/
def deliveriesTo (react : ι → CallEvent → Reaction ι) (event : CallEvent) (told : List ι) :
    List (Delivery ι) :=
  told.map fun listener => { listener, event, raised := (react listener event).raises }

/-- The listeners that are left when some were told of an event. -/
def remaining [DecidableEq ι] (react : ι → CallEvent → Reaction ι) (event : CallEvent)
    (told listeners : List ι) : List ι :=
  listeners.filter fun listener => told.all fun earlier => listener ∉ (react earlier event).removes

/-- A tracer once some of its listeners were told of an event. -/
def past [DecidableEq ι] (tracer : Tracer ι) (react : ι → CallEvent → Reaction ι)
    (event : CallEvent) (told : List ι) : Tracer ι where
  enabled := tracer.enabled
  emitted := event.number
  listeners := remaining react event told tracer.listeners

theorem Reaches.nil (react : ι → CallEvent → Reaction ι) (event : CallEvent) :
    Reaches react event [] [] where
  inOrder := .slnil
  once := .nil
  exact split := by simp at split

/-- Where a listener throws what cannot be put into words, it is the last that is told. -/
theorem Reaches.last {event : CallEvent} {listener : ι} {waiting : List ι}
    (nodup : (listener :: waiting).Nodup) (wordless : isWorded react event listener = false) :
    Reaches react event (listener :: waiting) [listener] where
  inOrder := .cons_cons _ (List.nil_sublist _)
  once := List.nodup_singleton _
  exact := by
    intro front other back split
    cases front with
    | nil =>
      obtain ⟨rfl, -⟩ := List.cons.inj split
      simp
    | cons first front =>
      simp only [List.cons_append, List.cons.injEq] at split
      obtain ⟨rfl, rfl⟩ := split
      have different : other ≠ listener := by
        rintro rfl
        simp at nodup
      simp [different, Withholds, wordless]

variable [DecidableEq ι]

/-- An event that reaches a listener goes on to those that are left. -/
theorem Reaches.cons {event : CallEvent} {listener : ι} {waiting told : List ι}
    (nodup : (listener :: waiting).Nodup) (worded : isWorded react event listener = true)
    (reaches : Reaches react event
      (waiting.filter (· ∉ (react listener event).removes)) told) :
    Reaches react event (listener :: waiting) (listener :: told) := by
  have waits {other : ι} (member : other ∈ told) :
      other ∈ waiting ∧ other ∉ (react listener event).removes := by
    simpa using reaches.inOrder.subset member
  have absent : listener ∉ waiting := (List.nodup_cons.mp nodup).1
  refine ⟨.cons_cons _ (reaches.inOrder.trans List.filter_sublist),
    List.nodup_cons.mpr ⟨fun member => absent (waits member).1, reaches.once⟩, ?_⟩
  intro front other back split
  cases front with
  | nil =>
    obtain ⟨rfl, -⟩ := List.cons.inj split
    simp
  | cons first front =>
    simp only [List.cons_append, List.cons.injEq] at split
    obtain ⟨rfl, rfl⟩ := split
    have different : other ≠ listener := by
      rintro rfl
      simp at absent
    by_cases removed : other ∈ (react listener event).removes
    · -- the first listener unsubscribes this one
      have untold : other ∉ told := fun member => (waits member).2 removed
      simp [different, untold, Withholds, removed]
    · have kept : (front ++ other :: back).filter (· ∉ (react listener event).removes) =
          front.filter (· ∉ (react listener event).removes) ++
            other :: back.filter (· ∉ (react listener event).removes) := by
        simp [removed]
      rw [List.mem_cons, or_iff_right different, reaches.exact kept]
      constructor
      · intro free earlier inFront isTold
        rcases List.mem_cons.mp inFront with equal | later
        · simp [equal, Withholds, removed, worded]
        · have apart : earlier ≠ listener := fun equal =>
            absent (equal ▸ List.mem_append_left _ later)
          have toldLater := (List.mem_cons.mp isTold).resolve_left apart
          exact free earlier (by simp [later, (waits toldLater).2]) toldLater
      · intro free earlier inFront isTold
        have inFront := (List.mem_filter.mp inFront).1
        exact free earlier (List.mem_cons_of_mem _ inFront) (List.mem_cons_of_mem _ isTold)

/-- Who is left after a first listener, and then some others, were told. -/
theorem remaining_cons (event : CallEvent) (listener : ι) (told visited waiting : List ι) :
    remaining react event (listener :: told) (visited ++ listener :: waiting) =
      remaining react event told
        ((visited ++ [listener]).filter (· ∉ (react listener event).removes) ++
          waiting.filter (· ∉ (react listener event).removes)) := by
  rw [← List.filter_append, List.append_assoc, List.singleton_append, remaining, remaining,
    List.filter_filter]
  simp [Bool.and_comm]

/-- The way of an event through listeners that subscribe nobody. -/
theorem deliver_eq (unsubscribing : Unsubscribing react) (event : CallEvent) (turns : Nat)
    (visited waiting : List ι) (enough : waiting.length ≤ turns) (nodup : waiting.Nodup) :
    ∃ told, Reaches react event waiting told ∧ deliver react event turns visited waiting =
      { deliveries := deliveriesTo react event told
        listeners := remaining react event told (visited ++ waiting)
        complete := told.all (isWorded react event) } := by
  induction turns generalizing visited waiting with
  | zero =>
    obtain rfl := List.eq_nil_of_length_eq_zero (Nat.le_zero.mp enough)
    exact ⟨[], .nil react event, by simp [deliver, deliveriesTo, remaining]⟩
  | succ turns inductionHypothesis =>
    cases waiting with
    | nil => exact ⟨[], .nil react event, by simp [deliver, deliveriesTo, remaining]⟩
    | cons listener waiting =>
      simp only [deliver, unsubscribing listener event, List.foldl_nil]
      cases worded : isWorded react event listener with
      | false =>
        -- the way ends here, and the listener is the last of those that were told
        refine ⟨[listener], .last nodup worded, ?_⟩
        have broken : Delivery.isTellable
            { listener, event, raised := (react listener event).raises } = false := worded
        rw [if_neg (by simp [broken]), remaining_cons]
        simp [deliveriesTo, remaining, worded]
      | true =>
        have told : Delivery.isTellable
            { listener, event, raised := (react listener event).raises } = true := worded
        obtain ⟨others, reaches, tour⟩ := inductionHypothesis
          ((visited ++ [listener]).filter (· ∉ (react listener event).removes))
          (waiting.filter (· ∉ (react listener event).removes))
          (Nat.le_trans (List.length_filter_le _ _) (Nat.le_of_succ_le_succ enough))
          ((List.nodup_cons.mp nodup).2.filter _)
        refine ⟨listener :: others, .cons nodup worded reaches, ?_⟩
        rw [if_pos told, tour, remaining_cons]
        simp [deliveriesTo, worded]

/-- An event on its way through the listeners of a tracer. -/
theorem report_eq (unsubscribing : Unsubscribing react) (tracer : Tracer ι)
    (nodup : tracer.listeners.Nodup) (occasion : Occasion) (kind : EventKind)
    (status : Option Float) (error : Option String) :
    let event := eventOf occasion kind status error (tracer.emitted + 1)
    ∃ told, Reaches react event tracer.listeners told ∧
      tracer.report react occasion kind status error =
        ({ deliveries := deliveriesTo react event told
           listeners := remaining react event told tracer.listeners
           complete := told.all (isWorded react event) }, tracer.past react event told) := by
  intro event
  obtain ⟨told, reaches, tour⟩ := deliver_eq unsubscribing event
    (tracer.listeners.length + newcomers) [] tracer.listeners (Nat.le_add_right ..) nodup
  refine ⟨told, reaches, ?_⟩
  have notified : tracer.report react occasion kind status error = tracer.notify react event := rfl
  rw [notified, notify, tour]
  rfl

theorem reportThrown_eq (unsubscribing : Unsubscribing react) (tracer : Tracer ι)
    (nodup : tracer.listeners.Nodup) (occasion : Occasion) {thrown : Thrown}
    (describable : thrown.isDescribable = true) :
    let event := eventOf occasion .error thrown.status? (some (describe (some thrown)))
      (tracer.emitted + 1)
    ∃ told, Reaches react event tracer.listeners told ∧
      tracer.reportThrown react occasion thrown =
        (if told.all (isWorded react event) then thrown else .withoutText,
          deliveriesTo react event told, tracer.past react event told) := by
  intro event
  obtain ⟨told, reaches, reported⟩ := report_eq unsubscribing tracer nodup occasion .error
    thrown.status? (some (describe (some thrown)))
  refine ⟨told, reaches, ?_⟩
  rw [reportThrown, if_pos describable, reported]

/-! ## Calls -/

/-- A call that may be traced: what is done, and to what. -/
structure Call (σ α : Type) where
  operation : String
  recordSet : RecordKey
  perform : σ → Work σ α

/-- A call with the tracer and the state that it finds. -/
structure Episode (ι σ α : Type) where
  call : Call σ α
  tracer : Tracer ι
  state : σ

namespace Episode

variable (episode : Episode ι σ α)

/-- All that comes of the call. -/
def traced (react : ι → CallEvent → Reaction ι) (clock : σ → Float) : Traced ι σ α :=
  episode.tracer.trace react clock episode.call.operation episode.call.recordSet
    episode.call.perform episode.state

/-- What the call comes to by itself. -/
def work : Work σ α := episode.call.perform episode.state

/-- The call when it fails because something cannot be put into words. -/
def lost : Work σ α := { episode.work with result := .error .withoutText }

def occasion (clock : σ → Float) : Occasion :=
  occasionOf clock episode.call.operation episode.call.recordSet episode.call.perform episode.state

/-- The event that tells of the call: `dns.api.call` with the status that was seen if it returned,
and `dns.api.error` with the status that was thrown if it threw. -/
def event (clock : σ → Float) : CallEvent :=
  match episode.work.result with
  | .ok _ => eventOf (episode.occasion clock) .call episode.work.status none
      (episode.tracer.emitted + 1)
  | .error thrown => eventOf (episode.occasion clock) .error thrown.status?
      (some (describe (some thrown))) (episode.tracer.emitted + 1)

/-- The event that takes back what was told of a call that returned. -/
def retraction (clock : σ → Float) : CallEvent :=
  eventOf (episode.occasion clock) .error Thrown.withoutText.status?
    (some (describe (some .withoutText))) (episode.tracer.emitted + 2)

end Episode

/-- What becomes of a call, with the events that tell of it. -/
inductive Accounts (react : ι → CallEvent → Reaction ι) (clock : σ → Float)
    (episode : Episode ι σ α) : List CallEvent → Prop where
  /-- Calls are not traced: nobody is told, and nothing is counted. -/
  | untraced (off : episode.tracer.enabled = false)
      (came : episode.traced react clock =
        { work := episode.work, deliveries := [], tracer := episode.tracer }) :
      Accounts react clock episode []
  /-- The listeners are told, and the call comes to what it comes to by itself. -/
  | told (told : List ι) (on : episode.tracer.enabled = true)
      (describable : ∀ thrown, episode.work.result = .error thrown → thrown.isDescribable = true)
      (reaches : Reaches react (episode.event clock) episode.tracer.listeners told)
      (worded : ∀ listener ∈ told, isWorded react (episode.event clock) listener = true)
      (came : episode.traced react clock =
        { work := episode.work
          deliveries := deliveriesTo react (episode.event clock) told
          tracer := episode.tracer.past react (episode.event clock) told }) :
      Accounts react clock episode [episode.event clock]
  /-- What the call throws cannot be put into words: it fails otherwise, and nobody is told. -/
  | unspeakable (thrown : Thrown) (on : episode.tracer.enabled = true)
      (threw : episode.work.result = .error thrown) (wordless : thrown.isDescribable = false)
      (came : episode.traced react clock =
        { work := episode.lost, deliveries := [], tracer := episode.tracer }) :
      Accounts react clock episode []
  /-- What a listener throws at a failure cannot be put into words: the call fails otherwise. -/
  | broken (told : List ι) (thrown : Thrown) (on : episode.tracer.enabled = true)
      (threw : episode.work.result = .error thrown) (describable : thrown.isDescribable = true)
      (reaches : Reaches react (episode.event clock) episode.tracer.listeners told)
      (wordless : ∃ listener ∈ told, isWorded react (episode.event clock) listener = false)
      (came : episode.traced react clock =
        { work := episode.lost
          deliveries := deliveriesTo react (episode.event clock) told
          tracer := episode.tracer.past react (episode.event clock) told }) :
      Accounts react clock episode [episode.event clock]
  /-- What a listener throws at a success cannot be put into words: the call fails, and the
  listeners that are left are told so. -/
  | retracted (told others : List ι) (found : α) (on : episode.tracer.enabled = true)
      (returned : episode.work.result = .ok found)
      (reaches : Reaches react (episode.event clock) episode.tracer.listeners told)
      (wordless : ∃ listener ∈ told, isWorded react (episode.event clock) listener = false)
      (reachesOthers : Reaches react (episode.retraction clock)
        (episode.tracer.past react (episode.event clock) told).listeners others)
      (came : episode.traced react clock =
        { work := episode.lost
          deliveries := deliveriesTo react (episode.event clock) told ++
            deliveriesTo react (episode.retraction clock) others
          tracer := (episode.tracer.past react (episode.event clock) told).past react
            (episode.retraction clock) others }) :
      Accounts react clock episode [episode.event clock, episode.retraction clock]

theorem describable_withoutText : Thrown.withoutText.isDescribable = true := by decide

omit [DecidableEq ι] in
theorem not_all_worded {event : CallEvent} {told : List ι}
    (broken : told.all (isWorded react event) = false) :
    ∃ listener ∈ told, isWorded react event listener = false := by
  simpa using broken

/-- A call that throws is told of, unless what it throws cannot be put into words. -/
theorem exists_accounts_of_error (unsubscribing : Unsubscribing react) (clock : σ → Float)
    {episode : Episode ι σ α} (nodup : episode.tracer.listeners.Nodup)
    (enabled : episode.tracer.enabled = true) {thrown : Thrown}
    (came : episode.work.result = .error thrown) :
    ∃ events, Accounts react clock episode events := by
  cases describable : thrown.isDescribable with
  | false =>
    refine ⟨[], .unspeakable thrown enabled came describable (trace_of_error enabled came ?_)⟩
    rw [reportThrown, if_neg (by simp [describable])]
  | true =>
    have event : episode.event clock = eventOf (episode.occasion clock) .error thrown.status?
        (some (describe (some thrown))) (episode.tracer.emitted + 1) := by
      simp only [Episode.event, came]
    obtain ⟨told, reaches, reported⟩ := reportThrown_eq unsubscribing episode.tracer nodup
      (episode.occasion clock) describable
    rw [← event] at reaches reported
    cases worded : told.all (isWorded react (episode.event clock)) with
    | false =>
      rw [if_neg (by simp [worded])] at reported
      exact ⟨_, .broken told thrown enabled came describable reaches (not_all_worded worded)
        (trace_of_error enabled came reported)⟩
    | true =>
      rw [if_pos worded] at reported
      have traced := trace_of_error enabled came reported
      -- what the call threw is what it is said to throw
      refine ⟨_, .told told enabled (fun other again => ?_) reaches
        (List.all_eq_true.mp worded) (traced.trans ?_)⟩
      · cases came.symm.trans again
        exact describable
      · exact congrArg (Traced.mk · _ _) (congrArg (Work.mk · _ _) came.symm)

/-- A call that returns is told of; where a listener throws what cannot be put into words, this is
taken back. -/
theorem exists_accounts_of_ok (unsubscribing : Unsubscribing react) (clock : σ → Float)
    {episode : Episode ι σ α} (nodup : episode.tracer.listeners.Nodup)
    (enabled : episode.tracer.enabled = true) {found : α}
    (came : episode.work.result = .ok found) : ∃ events, Accounts react clock episode events := by
  have event : episode.event clock = eventOf (episode.occasion clock) .call
      episode.work.status none (episode.tracer.emitted + 1) := by
    simp only [Episode.event, came]
  obtain ⟨told, reaches, reported⟩ := report_eq unsubscribing episode.tracer nodup
    (episode.occasion clock) .call episode.work.status none
  rw [← event] at reaches reported
  cases worded : told.all (isWorded react (episode.event clock)) with
  | true =>
    refine ⟨_, .told told enabled (fun thrown threw => ?_) reaches
      (List.all_eq_true.mp worded) (trace_of_ok enabled came reported worded)⟩
    cases came.symm.trans threw
  | false =>
    -- the listeners that are left are told of a failure
    obtain ⟨others, reachesOthers, retracted⟩ := reportThrown_eq unsubscribing
      (episode.tracer.past react (episode.event clock) told) (nodup.filter _)
      (episode.occasion clock) describable_withoutText
    have number : (episode.tracer.past react (episode.event clock) told).emitted =
        episode.tracer.emitted + 1 := by rw [past, event, eventOf]
    rw [number, ite_self] at retracted
    rw [number] at reachesOthers
    exact ⟨_, .retracted told others found enabled came reaches (not_all_worded worded)
      reachesOthers (trace_of_broken enabled came reported worded retracted)⟩

/-- There is such an account of every call. -/
theorem exists_accounts (unsubscribing : Unsubscribing react) (clock : σ → Float)
    (episode : Episode ι σ α) (nodup : episode.tracer.listeners.Nodup) :
    ∃ events, Accounts react clock episode events := by
  cases enabled : episode.tracer.enabled with
  | false => exact ⟨[], .untraced enabled (trace_of_disabled _ _ _ _ _ _ enabled)⟩
  | true =>
    cases came : episode.work.result with
    | error thrown => exact exists_accounts_of_error unsubscribing clock nodup enabled came
    | ok found => exact exists_accounts_of_ok unsubscribing clock nodup enabled came

namespace Accounts

variable {clock : σ → Float} {episode : Episode ι σ α} {events : List CallEvent}

/-- The events of a call have the next numbers, and the tracer goes on from there. -/
theorem numbers (accounts : Accounts react clock episode events) :
    events.map (·.number) = List.range' (episode.tracer.emitted + 1) events.length ∧
      (episode.traced react clock).tracer.emitted = episode.tracer.emitted + events.length := by
  have first : (episode.event clock).number = episode.tracer.emitted + 1 := by
    unfold Episode.event
    split <;> rfl
  cases accounts with
  | untraced _ came => simp [came]
  | told _ _ _ _ _ came => simp [came, past, first]
  | unspeakable _ _ _ _ came => simp [came]
  | broken _ _ _ _ _ _ _ came => simp [came, past, first]
  | retracted _ _ _ _ _ _ _ _ came =>
    simp [came, past, first, Episode.retraction, eventOf, List.range']

/-- No listener is subscribed twice afterwards. -/
theorem nodup (accounts : Accounts react clock episode events)
    (nodup : episode.tracer.listeners.Nodup) :
    (episode.traced react clock).tracer.listeners.Nodup := by
  cases accounts with
  | untraced _ came | unspeakable _ _ _ _ came => rwa [came]
  | told _ _ _ _ _ came | broken _ _ _ _ _ _ _ came =>
    rw [came]
    exact nodup.filter _
  | retracted _ _ _ _ _ _ _ _ came =>
    rw [came]
    exact (nodup.filter _).filter _

end Accounts

/-! ## A tracer in use -/

/-- What happens to a tracer. -/
inductive Step (ι σ α : Type) where
  | enable
  | subscribe (listener : ι)
  | unsubscribe (listener : ι)
  | call (call : Call σ α)

/-- The calls of a tracer in use, one after the other. -/
def episodes (react : ι → CallEvent → Reaction ι) (clock : σ → Float) :
    List (Step ι σ α) → Tracer ι → σ → List (Episode ι σ α)
  | [], _, _ => []
  | .enable :: steps, tracer, state => episodes react clock steps tracer.enable state
  | .subscribe listener :: steps, tracer, state =>
    episodes react clock steps (tracer.subscribe listener) state
  | .unsubscribe listener :: steps, tracer, state =>
    episodes react clock steps (tracer.unsubscribe listener) state
  | .call call :: steps, tracer, state =>
    let episode : Episode ι σ α := { call, tracer, state }
    let traced := episode.traced react clock
    episode :: episodes react clock steps traced.tracer traced.work.state

theorem nodup_subscribe {tracer : Tracer ι} (nodup : tracer.listeners.Nodup) (listener : ι) :
    (tracer.subscribe listener).listeners.Nodup := by
  unfold subscribe
  split
  next => exact nodup
  next fresh => simpa using (List.nodup_concat _ _).mpr ⟨fresh, nodup⟩

theorem emitted_subscribe (tracer : Tracer ι) (listener : ι) :
    (tracer.subscribe listener).emitted = tracer.emitted := by
  unfold subscribe
  split <;> rfl

/-- From any tracer on, every call is accounted for, and the events have the next numbers. -/
theorem accounts_from (unsubscribing : Unsubscribing react) (clock : σ → Float)
    (steps : List (Step ι σ α)) (tracer : Tracer ι) (nodup : tracer.listeners.Nodup) (state : σ) :
    ∃ events : List (List CallEvent),
      List.Forall₂ (Accounts react clock) (episodes react clock steps tracer state) events ∧
      events.flatten.map (·.number) =
        List.range' (tracer.emitted + 1) events.flatten.length := by
  induction steps generalizing tracer state with
  | nil => exact ⟨[], .nil, rfl⟩
  | cons step steps inductionHypothesis =>
    cases step with
    | enable => exact inductionHypothesis tracer.enable nodup state
    | subscribe listener =>
      have later := inductionHypothesis (tracer.subscribe listener)
        (nodup_subscribe nodup listener) state
      rwa [emitted_subscribe] at later
    | unsubscribe listener =>
      exact inductionHypothesis (tracer.unsubscribe listener) (nodup.filter _) state
    | call call =>
      let episode : Episode ι σ α := { call, tracer, state }
      obtain ⟨events, accounts⟩ := exists_accounts unsubscribing clock episode nodup
      obtain ⟨first, emitted⟩ := accounts.numbers
      obtain ⟨others, rest, numbers⟩ := inductionHypothesis (episode.traced react clock).tracer
        (accounts.nodup nodup) (episode.traced react clock).work.state
      refine ⟨events :: others, .cons accounts rest, ?_⟩
      -- the numbers of the later events start where those of this call end
      rw [List.flatten_cons, List.map_append, first, numbers, emitted, List.length_append,
        Nat.add_right_comm, List.range'_append_1]

/-- Of a tracer in use from the start, where listeners subscribe nobody while an event is on its
way: every call is accounted for, and the n-th of all events has the number n. -/
theorem accounts_of_use (unsubscribing : Unsubscribing react) (clock : σ → Float)
    (steps : List (Step ι σ α)) (state : σ) :
    ∃ events : List (List CallEvent),
      List.Forall₂ (Accounts react clock) (episodes react clock steps {} state) events ∧
      events.flatten.map (·.number) = List.range' 1 events.flatten.length :=
  accounts_from unsubscribing clock steps {} .nil state

/-- A listener `first` that unsubscribes `second` and throws; the others only listen. -/
def quarrelsome (listener : String) (_ : CallEvent) : Reaction String :=
  if listener = "first" then
    { removes := ["second"], raises := some (.ofMessage "broken") }
  else {}

/-- A tracer that three listeners observe, through a call that returns and one that throws. -/
def observed : List (Step String Float Unit) :=
  let call (result : Except Thrown Unit) : Step String Float Unit :=
    .call {
      operation := "get"
      recordSet := { resourceGroup := "g", zoneName := "z", recordName := "a", recordType := .ptr }
      perform := fun time => { result, status := some 200, state := time } }
  [.subscribe "first", .subscribe "second", .enable, .subscribe "third", call (.ok ()),
    call (.error (.ofMessage "lost"))]

theorem accounts_of_quarrel :
    Unsubscribing quarrelsome ∧ ∃ events : List (List CallEvent),
      List.Forall₂ (Accounts quarrelsome id) (episodes quarrelsome id observed {} 1000) events ∧
      events.flatten.map (·.number) = List.range' 1 events.flatten.length := by
  have unsubscribing : Unsubscribing quarrelsome := by
    intro listener event
    unfold quarrelsome
    split <;> rfl
  exact ⟨unsubscribing, accounts_of_use unsubscribing id observed 1000⟩

end ReverseDns.Tracer
