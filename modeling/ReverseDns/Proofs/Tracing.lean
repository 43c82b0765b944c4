import ReverseDns.Trace.Tracer

/-!
# What tracing leaves alone

Listeners see every call, and a call comes to what it would come to without them, as long as what
they throw can be put into words.

* `Tracer.Tellable` -- whatever listeners throw can be put into words
* `Tracer.complete_deliver` -- then every event goes all the way
* `Tracer.trace_of_disabled`, `Tracer.trace_of_error`, `Tracer.trace_of_ok`,
  `Tracer.trace_of_broken` -- the telling of a piece of work
* `Tracer.work_trace` -- and traced work comes to what the work comes to
-/

namespace ReverseDns.Tracer

variable {ι σ α : Type} [DecidableEq ι]

/-- What listeners throw can be put into words. -/
def Tellable (react : ι → CallEvent → Reaction ι) : Prop :=
  ∀ listener event, (react listener event).raises.all Thrown.isDescribable = true

/-- The event of an occasion. -/
def eventOf (occasion : Occasion) (kind : EventKind) (status : Option Float)
    (error : Option String) (number : Nat) : CallEvent where
  kind := kind
  number := number
  timestamp := occasion.ended
  operation := occasion.operation
  recordSet := occasion.recordSet
  duration := occasion.ended - occasion.started
  status := .ofOption status
  error := .ofOption error

variable {react : ι → CallEvent → Reaction ι}

/-- An event goes all the way, whoever joins or leaves meanwhile. -/
theorem complete_deliver (tellable : Tellable react) (event : CallEvent) (turns : Nat)
    (visited waiting : List ι) : (deliver react event turns visited waiting).complete = true := by
  induction turns generalizing visited waiting with
  | zero => rfl
  | succ turns inductionHypothesis =>
    cases waiting with
    | nil => rfl
    | cons listener waiting =>
      have told : Delivery.isTellable
          { listener, event, raised := (react listener event).raises } = true :=
        tellable listener event
      simp only [deliver, told, if_true]
      exact inductionHypothesis _ _

theorem complete_report (tellable : Tellable react) (tracer : Tracer ι) (occasion : Occasion)
    (kind : EventKind) (status : Option Float) (error : Option String) :
    (tracer.report react occasion kind status error).1.complete = true := by
  simp only [report, notify]
  exact complete_deliver tellable _ _ _ _

/-- What is thrown is thrown on. -/
theorem reportThrown_fst (tellable : Tellable react) (tracer : Tracer ι) (occasion : Occasion)
    {thrown : Thrown} (describable : thrown.isDescribable = true) :
    (tracer.reportThrown react occasion thrown).1 = thrown := by
  have complete := complete_report tellable tracer occasion .error thrown.status?
    (some (describe (some thrown)))
  unfold reportThrown
  rw [if_pos describable]
  -- the tour is left as it is: computing it would count its turns
  generalize tracer.report react occasion .error thrown.status? (some (describe (some thrown))) =
    outcome at complete
  obtain ⟨tour, after⟩ := outcome
  exact if_pos complete

/-! ## Work -/

section Work

variable (react) (clock : σ → Float) (operation : String) (recordSet : RecordKey)
  (perform : σ → Work σ α) {tracer : Tracer ι} (state : σ)

/-- The occasion of the event about a piece of work. -/
def occasionOf : Occasion where
  operation := operation
  recordSet := recordSet
  started := clock state
  ended := clock (perform state).state

/-- Where calls are not traced, nobody is told. -/
theorem trace_of_disabled (disabled : tracer.enabled = false) :
    tracer.trace react clock operation recordSet perform state =
      { work := perform state, deliveries := [], tracer } := by
  unfold trace
  extract_lets work occasion
  exact if_pos (by simp [disabled])

variable {react clock operation recordSet perform state}

/-- Work that threw. -/
theorem trace_of_error {thrown raised : Thrown} {deliveries : List (Delivery ι)}
    {after : Tracer ι} (enabled : tracer.enabled = true)
    (threw : (perform state).result = .error thrown)
    (told : tracer.reportThrown react (occasionOf clock operation recordSet perform state) thrown =
      (raised, deliveries, after)) :
    tracer.trace react clock operation recordSet perform state =
      { work := { perform state with result := .error raised }, deliveries, tracer := after } := by
  unfold trace
  extract_lets work occasion
  rw [if_neg (by simp [enabled])]
  split
  next other again =>
    cases threw.symm.trans again
    rw [show occasion = occasionOf clock operation recordSet perform state from rfl, told]
  next found returned => cases threw.symm.trans returned

/-- Work that came to something, where the event went all the way. -/
theorem trace_of_ok {found : α} {tour : Tour ι} {after : Tracer ι} (enabled : tracer.enabled = true)
    (returned : (perform state).result = .ok found)
    (reported : tracer.report react (occasionOf clock operation recordSet perform state) .call
      (perform state).status none = (tour, after)) (complete : tour.complete = true) :
    tracer.trace react clock operation recordSet perform state =
      { work := perform state, deliveries := tour.deliveries, tracer := after } := by
  unfold trace
  extract_lets work occasion
  rw [if_neg (by simp [enabled])]
  split
  next thrown threw => cases returned.symm.trans threw
  next =>
    rw [show occasion = occasionOf clock operation recordSet perform state from rfl,
      show work = perform state from rfl, reported]
    exact if_pos complete

/-- Work that came to something, where the event broke off: a failure is told in its place. -/
theorem trace_of_broken {found : α} {tour : Tour ι} {raised : Thrown}
    {deliveries : List (Delivery ι)} {after last : Tracer ι} (enabled : tracer.enabled = true)
    (returned : (perform state).result = .ok found)
    (reported : tracer.report react (occasionOf clock operation recordSet perform state) .call
      (perform state).status none = (tour, after)) (broken : tour.complete = false)
    (told : after.reportThrown react (occasionOf clock operation recordSet perform state)
      .withoutText = (raised, deliveries, last)) :
    tracer.trace react clock operation recordSet perform state =
      { work := { perform state with result := .error raised }
        deliveries := tour.deliveries ++ deliveries
        tracer := last } := by
  unfold trace
  extract_lets work occasion
  rw [if_neg (by simp [enabled])]
  split
  next thrown threw => cases returned.symm.trans threw
  next =>
    rw [show occasion = occasionOf clock operation recordSet perform state from rfl,
      show work = perform state from rfl, reported]
    -- rewriting inside the branch would have the way of the event computed: its turns are too many
    refine (if_neg (by simp [broken])).trans ?_
    rw [told]

end Work

/-- Traced work comes to what the work comes to. -/
theorem work_trace (tellable : Tellable react) (clock : σ → Float) (operation : String)
    (recordSet : RecordKey) (perform : σ → Work σ α) (tracer : Tracer ι) (state : σ)
    (describable : ∀ thrown, (perform state).result = .error thrown →
      thrown.isDescribable = true) :
    (tracer.trace react clock operation recordSet perform state).work = perform state := by
  let occasion := occasionOf clock operation recordSet perform state
  cases enabled : tracer.enabled with
  | false => rw [trace_of_disabled react clock operation recordSet perform state enabled]
  | true =>
    cases came : (perform state).result with
    | error thrown =>
      have same := reportThrown_fst tellable tracer occasion (describable thrown came)
      generalize told : tracer.reportThrown react occasion thrown = outcome at same
      obtain ⟨raised, deliveries, after⟩ := outcome
      obtain rfl : raised = thrown := same
      rw [trace_of_error enabled came told, ← came]
    | ok found =>
      have complete := complete_report tellable tracer occasion .call (perform state).status none
      generalize reported : tracer.report react occasion .call (perform state).status none =
        outcome at complete
      obtain ⟨tour, after⟩ := outcome
      rw [trace_of_ok enabled came reported complete]

end ReverseDns.Tracer
