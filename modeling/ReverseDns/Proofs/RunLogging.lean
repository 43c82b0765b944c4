import Mathlib.Data.List.Induction
import ReverseDns.Proofs.FailedImports
import ReverseDns.Proofs.Monitors
import ReverseDns.Proofs.ServiceAgreement
import ReverseDns.Proofs.Settings

/-!
# Which loggers hear of a call

The logger of a run starts to listen when the run connects, if its settings ask for reports, and
from then on it never stops. A call is reported to the loggers of all runs up to now, to each of
them as its own settings ask: the settings of the run that makes the call decide only about its own
logger.

* `Tracer.deliver_of_passive` -- listeners that only listen are all told, in order
* `Told`, `Untold`, `heard_of_serve` -- what listeners hear of a call of the service
* `listenersOf`, `heardBy_listenersOf` -- the loggers that listen after a number of runs, and what
  they take from an event
* `servedCalls` -- the calls of a run, each with what was overheard of it
* `Ran`, `listeners_of_ran` -- every number of runs leaves these loggers
* `overheard_of_run` -- what every logger overhears of the calls of a run
-/

namespace ReverseDns

variable {ι σ τ : Type}

/-! ## Listeners that only listen -/

/-- What a piece of work threw, if it did. -/
def Work.thrown? {α : Type} (work : Work σ α) : Option Thrown :=
  match work.result with
  | .ok _ => none
  | .error thrown => some thrown

/-- An event that tells what was done, to what, and what that threw. -/
structure CallEvent.About (event : CallEvent) (operation : String) (recordSet : RecordKey)
    (thrown : Option Thrown) : Prop where
  operation : event.operation = operation
  recordSet : event.recordSet = recordSet
  kind : event.kind = if thrown.isSome then .error else .call
  error : event.error = .ofOption (thrown.map fun thrown => describe (some thrown))

theorem CallEvent.exists_about (operation : String) (recordSet : RecordKey)
    (thrown : Option Thrown) : ∃ event : CallEvent, event.About operation recordSet thrown :=
  ⟨{ kind := _, number := 0, timestamp := 0, operation, recordSet, duration := 0,
     status := .absent, error := _ }, ⟨rfl, rfl, rfl, rfl⟩⟩

namespace Tracer

variable [DecidableEq ι] {react : ι → CallEvent → Reaction ι} {α : Type}

/-- The deliveries of an event to listeners that only listen. -/
def told (listeners : List ι) (event : CallEvent) : List (Delivery ι) :=
  listeners.map fun listener => { listener, event, raised := none }

/-- Listeners that only listen have their turns one after the other, and stay. -/
theorem deliver_of_passive (passive : ∀ listener event, react listener event = {})
    (event : CallEvent) (turns : Nat) (visited waiting : List ι)
    (enough : waiting.length ≤ turns) :
    deliver react event turns visited waiting =
      { deliveries := told waiting event, listeners := visited ++ waiting, complete := true } := by
  induction waiting generalizing turns visited with
  | nil => cases turns <;> simp [deliver, told]
  | cons listener waiting inductionHypothesis =>
    cases turns with
    | zero => cases enough
    | succ turns =>
      have rest := inductionHypothesis turns (visited ++ [listener]) (Nat.le_of_succ_le_succ enough)
      simp [deliver, passive, Delivery.isTellable, rest, told]

theorem notify_of_passive (passive : ∀ listener event, react listener event = {})
    (tracer : Tracer ι) (event : CallEvent) :
    tracer.notify react event =
      ({ deliveries := told tracer.listeners event, listeners := tracer.listeners,
         complete := true }, { tracer with emitted := event.number }) := by
  rw [notify, deliver_of_passive passive _ _ _ _ (Nat.le_add_right ..)]
  rfl

theorem about_error (occasion : Occasion) (thrown : Thrown) (number : Nat) :
    (eventOf occasion .error thrown.status? (some (describe (some thrown))) number).About
      occasion.operation occasion.recordSet (some thrown) :=
  ⟨rfl, rfl, rfl, rfl⟩

theorem about_call (occasion : Occasion) (status : Option Float) (number : Nat) :
    (eventOf occasion .call status none number).About occasion.operation occasion.recordSet none :=
  ⟨rfl, rfl, rfl, rfl⟩

theorem report_of_passive (passive : ∀ listener event, react listener event = {})
    (occasion : Occasion) (kind : EventKind) (status : Option Float) (error : Option String)
    (tracer : Tracer ι) :
    let event := eventOf occasion kind status error (tracer.emitted + 1)
    tracer.report react occasion kind status error =
      ({ deliveries := told tracer.listeners event, listeners := tracer.listeners,
         complete := true }, { tracer with emitted := event.number }) :=
  notify_of_passive passive tracer _

theorem reportThrown_of_passive (passive : ∀ listener event, react listener event = {})
    (occasion : Occasion) {thrown : Thrown} (describable : thrown.isDescribable = true)
    (tracer : Tracer ι) :
    let event := eventOf occasion .error thrown.status? (some (describe (some thrown)))
      (tracer.emitted + 1)
    tracer.reportThrown react occasion thrown =
      (thrown, told tracer.listeners event, { tracer with emitted := event.number }) := by
  unfold reportThrown
  rw [if_pos describable, report_of_passive passive]
  rfl

variable (react) in
/-- What is told about a piece of work to listeners that only listen, if calls are traced: one
event, about what the work came to. -/
theorem trace_of_passive (passive : ∀ listener event, react listener event = {})
    (clock : σ → Float) (operation : String) (recordSet : RecordKey) (perform : σ → Work σ α)
    (tracer : Tracer ι) (state : σ) (enabled : tracer.enabled = true)
    (describable : ∀ thrown, (perform state).result = .error thrown →
      thrown.isDescribable = true) :
    ∃ event : CallEvent, event.About operation recordSet (perform state).thrown? ∧
      tracer.trace react clock operation recordSet perform state =
        { work := perform state, deliveries := told tracer.listeners event,
          tracer := { tracer with emitted := event.number } } := by
  let occasion := occasionOf clock operation recordSet perform state
  rw [Work.thrown?]
  cases came : (perform state).result with
  | error thrown =>
    refine ⟨_, about_error occasion thrown (tracer.emitted + 1), ?_⟩
    rw [trace_of_error enabled came
      (reportThrown_of_passive passive occasion (describable thrown came) tracer), ← came]
  | ok found =>
    refine ⟨_, about_call occasion (perform state).status (tracer.emitted + 1), ?_⟩
    rw [trace_of_ok enabled came (report_of_passive passive occasion .call _ none tracer) rfl]

/-- Nobody is told of something thrown that cannot be put into words, and something else is thrown
in its place. -/
theorem trace_of_wordless (clock : σ → Float) (operation : String) (recordSet : RecordKey)
    (perform : σ → Work σ α) (tracer : Tracer ι) (state : σ) (enabled : tracer.enabled = true)
    {thrown : Thrown} (threw : (perform state).result = .error thrown)
    (wordless : thrown.isDescribable = false) :
    tracer.trace react clock operation recordSet perform state =
      { work := { perform state with result := .error .withoutText }, deliveries := [],
        tracer } := by
  refine trace_of_error enabled threw ?_
  rw [reportThrown, if_neg (by simp [wordless])]

end Tracer

/-! ## Calls of the service -/

/-- What a call threw, as its answer tells. -/
def thrownOf : Answer → Option Thrown
  | .ok reply => reply.error
  | .error thrown => some thrown

theorem thrownOf_answer {α : Type} (request : Request) (status : Option Float)
    (work : Work α RecordSet) :
    thrownOf (Azure.answer request status work.result) = work.thrown? := by
  unfold Work.thrown?
  cases work.result with
  | ok found => cases request <;> rfl
  | error thrown => cases known : thrown.status? <;> simp [Azure.answer, known, thrownOf]

/-- What these loggers overhear of a call: the line of its event, each if it takes such events. -/
def Told (listeners : List RunListener) (request : Request) (answer : Answer)
    (overheard : List Overheard) : Prop :=
  ∃ event : CallEvent, event.About request.operation.name request.key (thrownOf answer) ∧
    overheard = listeners.filterMap (·.hears event)

/-- What a client throws can be put into words. -/
def Client.Describable (client : Client τ) : Prop :=
  ∀ subscription credential call state thrown,
    (client.call subscription credential call state).1.result = .error thrown →
      thrown.isDescribable = true

/-- A call that nobody was told of, since it threw something that cannot be put into words. There is
none if all that the client throws can be. -/
structure Untold (client : Client τ) (answer : Answer) (overheard : List Overheard) : Prop where
  wordless : ¬client.Describable
  answer : answer = .error .withoutText
  silent : overheard = []

/-- What these loggers overhear of a call of a client. -/
def Heard (client : Client τ) (listeners : List RunListener) (request : Request) (answer : Answer)
    (overheard : List Overheard) : Prop :=
  Told listeners request answer overheard ∨ Untold client answer overheard

/-- These are the listeners of a tracer, and calls are traced if there are any. -/
structure Tracer.Attends (tracer : Tracer ι) (listeners : List ι) : Prop where
  present : tracer.listeners = listeners
  enabled : tracer.enabled = true ∨ listeners = []

theorem Azure.describable_perform {client : Client τ} (describable : client.Describable)
    (request : Request) (azure : Azure ι τ) {thrown : Thrown}
    (threw : (Azure.perform client request azure).result = .error thrown) :
    thrown.isDescribable = true := by
  unfold Azure.perform at threw
  split at threw
  next failure keyring _ =>
    cases threw
    exact Memory.isTellable_ofMessage failure.message
  next credential keyring _ => exact describable _ _ _ _ _ threw

/-- Every listener of the service is told about a call, unless what was thrown cannot be put into
words, and stays. -/
theorem heard_of_serve (client : Client τ) {azure : Azure RunListener τ}
    {listeners : List RunListener} (attends : azure.tracer.Attends listeners) (request : Request) :
    let response := (Azure.service client).serve request azure
    Heard client listeners request response.answer response.overheard ∧
      response.state.tracer.Attends listeners := by
  obtain ⟨rfl, enabled⟩ := attends
  dsimp only [Azure.service, Azure.serve]
  cases traced : azure.tracer.enabled with
  | true =>
    by_cases describable : ∀ thrown, (Azure.perform client request azure).result = .error thrown →
        thrown.isDescribable = true
    · obtain ⟨event, about, trace⟩ := Tracer.trace_of_passive RunListener.react (fun _ _ => rfl)
        Azure.clock request.operation.name request.key (Azure.perform client request) azure.tracer
        azure traced describable
      rw [trace]
      refine ⟨.inl ⟨event, ?_, ?_⟩, rfl, .inl traced⟩
      · rw [thrownOf_answer]
        exact about
      · simp [Tracer.told, List.filterMap_map]
    · push Not at describable
      obtain ⟨thrown, threw, wordless⟩ := describable
      rw [Tracer.trace_of_wordless _ _ _ _ _ _ traced threw (Bool.eq_false_iff.mpr wordless)]
      refine ⟨.inr ⟨fun describable => ?_, rfl, rfl⟩, rfl, .inl traced⟩
      exact wordless (Azure.describable_perform describable request azure threw)
  | false =>
    have nobody : azure.tracer.listeners = [] :=
      enabled.resolve_left (by simp [traced])
    rw [Tracer.trace_of_disabled _ _ _ _ _ _ traced]
    obtain ⟨event, about⟩ := CallEvent.exists_about request.operation.name request.key (thrownOf _)
    exact ⟨.inl ⟨event, about, by simp [nobody]⟩, rfl, .inr nobody⟩

namespace CommandLine

variable {τ : Type}

/-! ## Loggers of runs -/

/-- What the switches ask to be reported. -/
def Globals.reporting (globals : Globals) : Reporting where
  enabled := globals.diagnostics || globals.verbose
  verbose := globals.verbose

theorem reporting_of_resolve {globals : Globals} {environment : Environment} {config : Config}
    (resolved : Config.resolve globals.settings environment = .ok config) :
    config.reporting = globals.reporting := by
  unfold Config.resolve at resolved
  split at resolved
  next =>
    cases resolved
    simp only [Config.fill, Config.flag, Globals.settings, Globals.member, Json.get?,
      Keyed.get?_append, Schema.get?_optional, String.reduceEq, if_false, if_true, Option.none_or]
    obtain ⟨_, _, _, diagnostics, verbose⟩ := globals
    cases diagnostics <;> cases verbose <;> rfl
  next => cases resolved

/-- Whether calls of a kind are reported: all with one of the switches, failed ones with either. -/
def Globals.reports (globals : Globals) (kind : EventKind) : Bool :=
  globals.verbose || (globals.diagnostics && kind ≠ .call)

/-- The logger of a run, if it listens. -/
def Globals.listener? (globals : Globals) (number : Nat) : Option RunListener :=
  if globals.reporting.enabled then some { run := number, verbose := globals.reporting.verbose }
  else none

/-- The line that a run with these settings has its logger take from an event. -/
def linesFor (settings : Option Globals) (event : CallEvent) : List String :=
  if settings.any (·.reports event.kind) then [event.line] else []

/-- The lines that the logger of one run overheard. -/
def heardBy (number : Nat) (overheard : List Overheard) : List String :=
  (overheard.filter (·.run = number)).map (·.text)

/-- The loggers that listen after runs with these settings. -/
def listenersOf (history : List (Option Globals)) : List RunListener :=
  history.zipIdx.filterMap fun run => run.1.bind (·.listener? run.2)

theorem heardBy_append (number : Nat) (first second : List Overheard) :
    heardBy number (first ++ second) = heardBy number first ++ heardBy number second := by
  simp [heardBy]

theorem listenersOf_concat (history : List (Option Globals)) (settings : Option Globals) :
    listenersOf (history ++ [settings]) =
      listenersOf history ++ (settings.bind (·.listener? history.length)).toList := by
  simp only [listenersOf, List.zipIdx_append, List.filterMap_append, List.zipIdx_singleton,
    List.filterMap_cons, List.filterMap_nil, Nat.zero_add]
  cases settings.bind (·.listener? history.length) <;> rfl

theorem heardBy_listener (settings : Option Globals) (run number : Nat) (event : CallEvent) :
    heardBy number ((settings.bind (·.listener? run)).toList.filterMap (·.hears event)) =
      if run = number then linesFor settings event else [] := by
  cases settings with
  | none => simp [heardBy, linesFor]
  | some globals =>
    obtain ⟨_, _, _, diagnostics, verbose⟩ := globals
    by_cases kind : event.kind = .call <;> by_cases same : run = number <;>
      cases diagnostics <;> cases verbose <;>
      simp [heardBy, linesFor, Globals.listener?, Globals.reporting, Globals.reports,
        RunListener.hears, kind, same]

/-- Every logger takes from an event what the settings of its own run ask for. -/
theorem heardBy_listenersOf (history : List (Option Globals)) (event : CallEvent) (number : Nat) :
    heardBy number ((listenersOf history).filterMap (·.hears event)) =
      linesFor history[number]?.join event := by
  induction history using List.reverseRecOn with
  | nil => rfl
  | append_singleton history settings inductionHypothesis =>
    rw [listenersOf_concat, List.filterMap_append, heardBy_append, inductionHypothesis,
      heardBy_listener]
    rcases Nat.lt_trichotomy number history.length with earlier | rfl | later
    · simp [List.getElem?_append_left earlier, Nat.ne_of_gt earlier]
    · simp [linesFor]
    · have none : (history ++ [settings])[number]? = none :=
        List.getElem?_eq_none (by simpa using Nat.succ_le_of_lt later)
      rw [List.getElem?_eq_none (Nat.le_of_lt later), none, if_neg (Nat.ne_of_lt later)]
      rfl

theorem run_lt_of_mem_listenersOf {history : List (Option Globals)} {listener : RunListener}
    (member : listener ∈ listenersOf history) : listener.run < history.length := by
  obtain ⟨⟨settings, number⟩, run, listens⟩ := List.mem_filterMap.mp member
  obtain ⟨globals, -, listens⟩ := Option.bind_eq_some_iff.mp listens
  unfold Globals.listener? at listens
  split at listens
  · cases listens
    exact List.snd_lt_of_mem_zipIdx run
  · cases listens

/-! ## What is heard in a run -/

/-- A call that was answered, with what loggers overheard of it. -/
structure ServedCall where
  request : Request
  answer : Answer
  overheard : List Overheard

/-- The lines that loggers overhear first. -/
def overheardNext : List Event → List Overheard
  | .overheard line :: events => line :: overheardNext events
  | _ => []

/-- The calls of a run, each with the lines that loggers overhear right after it. -/
def servedCalls : List Event → List ServedCall
  | [] => []
  | .called request answer :: events =>
    { request, answer, overheard := overheardNext events } :: servedCalls events
  | _ :: events => servedCalls events

def overheard? : Event → Option Overheard
  | .overheard line => some line
  | _ => none

theorem servedCalls_overheard (overheard : List Overheard) (events : List Event) :
    servedCalls (overheard.map Event.overheard ++ events) = servedCalls events := by
  induction overheard with
  | nil => rfl
  | cons line overheard inductionHypothesis => exact inductionHypothesis

theorem overheardNext_overheard (overheard : List Overheard) (events : List Event) :
    overheardNext (overheard.map Event.overheard ++ events) =
      overheard ++ overheardNext events := by
  induction overheard with
  | nil => rfl
  | cons line overheard inductionHypothesis =>
    exact congrArg (line :: ·) inductionHypothesis

/-- In a run that a monitor accepts, lines are overheard right after calls only. -/
theorem overheardNext_of_leads {monitor : Monitor τ} {now later : τ} {events : List Event}
    (leads : monitor.Leads now events later) : overheardNext events = [] := by
  cases leads <;> rfl

theorem overheard_of_leads {monitor : Monitor τ} {now later : τ} {events : List Event}
    (leads : monitor.Leads now events later) :
    events.filterMap overheard? = (servedCalls events).flatMap (·.overheard) := by
  induction leads with
  | nil => rfl
  | said _ _ _ inductionHypothesis | printed _ _ inductionHypothesis
  | saved _ _ _ _ inductionHypothesis | connected _ _ _ _ _ inductionHypothesis =>
    exact inductionHypothesis
  | called request answer overheard _ _ _ leads inductionHypothesis =>
    have lines : (overheard.map Event.overheard).filterMap overheard? = overheard := by
      simp [List.filterMap_map, Function.comp_def, overheard?]
    rw [List.cons_append, List.filterMap_cons_none rfl, List.filterMap_append, lines, servedCalls,
      List.flatMap_cons, overheardNext_overheard, overheardNext_of_leads leads, List.append_nil,
      servedCalls_overheard, inductionHypothesis]

/-- Whether a run connects with a subscription. -/
def connects : Event → Bool
  | .connected config => config.subscription?.isSome
  | _ => false

/-- The settings with which a run connected to the service, if it did. -/
def settingsUsed (words : List String) (events : List Event) : Option Globals :=
  match Invocation.ofWords words with
  | .run globals _ => if events.any connects then some globals else none
  | _ => none

/-- The monitor of a run with these settings: the run connects once and calls nothing before that.
Then its calls are reported to these loggers. -/
def hearing (client : Client τ) (globals : Globals) (listeners : List RunListener) :
    Monitor Bool where
  connects now config := now = false ∧ config.reporting = globals.reporting
  accepts _ config outcome := outcome.isOk = config.subscription?.isSome
  connected _ _ outcome := outcome.isOk
  calls now _ := now = true
  hears _ := Heard client listeners

theorem heard_of_leads {client : Client τ} {globals : Globals} {listeners : List RunListener}
    {now later : Bool} {events : List Event}
    (leads : (hearing client globals listeners).Leads now events later) :
    later = (now || events.any connects) ∧ ∀ call ∈ servedCalls events,
      Heard client listeners call.request call.answer call.overheard := by
  induction leads with
  | nil now => simp [servedCalls]
  | said _ _ _ inductionHypothesis | printed _ _ inductionHypothesis
  | saved _ _ _ _ inductionHypothesis => exact inductionHypothesis
  | connected config outcome may accepted _ inductionHypothesis =>
    obtain ⟨rfl, -⟩ := may
    obtain ⟨ended, heard⟩ := inductionHypothesis
    have accepted : outcome.isOk = connects (.connected config) := accepted
    refine ⟨?_, heard⟩
    rw [ended, List.any_cons, Bool.false_or, ← accepted]
    rfl
  | @called now _ _ request answer overheard may _ told leads inductionHypothesis =>
    obtain ⟨ended, heard⟩ := inductionHypothesis
    obtain rfl : now = true := may
    refine ⟨ended, ?_⟩
    rw [List.cons_append, servedCalls, overheardNext_overheard, overheardNext_of_leads leads,
      List.append_nil, servedCalls_overheard]
    rintro call (_ | ⟨_, member⟩)
    · exact told
    · exact heard call member

theorem steady_hearing (client : Client τ) (globals : Globals) (listeners : List RunListener) :
    Steady (hearing client globals listeners) true fun _ => True where
  calls _ := rfl
  called _ _ := rfl
  saves _ _ := trivial
  saved _ := rfl
  empty := trivial
  identified _ _ _ := trivial
  refreshed _ _ _ _ _ _ _ := trivial

/-- The loggers that listen in a run, before it connects and after. -/
def listening (globals : Globals) (history : List (Option Globals)) (connected : Bool) :
    List RunListener :=
  listenersOf (history ++ [if connected then some globals else none])

theorem listening_false (globals : Globals) (history : List (Option Globals)) :
    listening globals history false = listenersOf history := by
  rw [listening, if_neg Bool.false_ne_true, listenersOf_concat]
  exact List.append_nil _

theorem listening_true (globals : Globals) (history : List (Option Globals)) :
    listening globals history true =
      listenersOf history ++ (globals.listener? history.length).toList := by
  rw [listening, if_pos rfl, listenersOf_concat]
  rfl

/-- When a run connects, its logger starts to listen if its settings ask for that. -/
theorem attends_prepare {globals : Globals} {history : List (Option Globals)} {config : Config}
    (reporting : config.reporting = globals.reporting) {azure : Azure RunListener τ}
    (attends : azure.tracer.Attends (listening globals history false)) :
    let prepared := Azure.prepare history.length config azure
    prepared.1.isOk = config.subscription?.isSome ∧
      prepared.2.tracer.Attends (listening globals history prepared.1.isOk) := by
  unfold Azure.prepare
  cases config.subscription? with
  | none => exact ⟨rfl, attends⟩
  | some subscription =>
    refine ⟨rfl, ?_⟩
    rw [listening_false] at attends
    obtain ⟨present, enabled⟩ := attends
    show Tracer.Attends _ (listening globals history true)
    rw [listening_true]
    dsimp only
    rw [reporting, Globals.listener?]
    -- a run has a number that no listener has yet, so its logger is not taken for one of them
    by_cases reports : globals.reporting.enabled
    · have newcomer :
          (⟨history.length, globals.reporting.verbose⟩ : RunListener) ∉ azure.tracer.listeners := by
        rw [present]
        exact fun member => Nat.lt_irrefl _ (run_lt_of_mem_listenersOf member)
      simp only [reports, if_true, Tracer.subscribe, Tracer.enable, newcomer, if_false]
      exact ⟨congrArg (· ++ _) present, .inl rfl⟩
    · simp only [reports]
      exact ⟨present.trans (List.append_nil _).symm, by simpa using enabled⟩

theorem hearing_keepsUp (client : Client τ) (globals : Globals) (history : List (Option Globals))
    (home : Home) :
    (hearing client globals (listening globals history true)).KeepsUp
      { service := Azure.service client, home, number := history.length }
      fun connected azure => azure.tracer.Attends (listening globals history connected) where
  remember _ _ _ _ attends _ := attends
  prepare now config azure attends may := by
    obtain ⟨rfl, reporting⟩ := may
    exact attends_prepare reporting attends
  serve now request azure attends may := by
    obtain rfl : now = true := may
    obtain ⟨heard, attends⟩ := heard_of_serve client attends request
    exact ⟨trivial, heard, attends⟩

/-! ## Runs in one process -/

/-- The service in a process after these runs: for each of them, the settings with which it
connected to the service, if it did. Between runs everything may change but what is traced. -/
inductive Ran : List (Option Globals) → Azure RunListener τ → Prop where
  | fresh {azure : Azure RunListener τ} (untraced : azure.tracer = {}) : Ran [] azure
  | run {history : List (Option Globals)} {azure : Azure RunListener τ}
      {finished : Finished (Azure RunListener τ)} (ran : Ran history azure) (client : Client τ)
      (environment : Environment) (words : List String) (files : Files)
      (finishes :
        execute (Azure.service client) history.length environment words files azure = finished) :
      Ran (history ++ [settingsUsed words finished.events]) finished.state
  | changed {history : List (Option Globals)} {azure other : Azure RunListener τ}
      (ran : Ran history azure) (same : other.tracer = azure.tracer) : Ran history other

/-- A run makes its logger listen if it connects, and its calls are reported to all that listen. -/
theorem attends_of_run (client : Client τ) {history : List (Option Globals)}
    {azure : Azure RunListener τ} (attends : azure.tracer.Attends (listenersOf history))
    {words : List String} {globals : Globals} {command : Command}
    (invoked : Invocation.ofWords words = .run globals command) (environment : Environment)
    (files : Files) :
    let finished := execute (Azure.service client) history.length environment words files azure
    finished.state.tracer.Attends (listenersOf (history ++ [settingsUsed words finished.events])) ∧
      finished.events.filterMap overheard? =
        (servedCalls finished.events).flatMap (·.overheard) ∧
      ∀ call ∈ servedCalls finished.events,
        Heard client (listenersOf (history ++ [some globals])) call.request call.answer
          call.overheard := by
  intro finished
  have obeys := (steady_hearing client globals (listening globals history true)).program files
    environment globals command
    (fun config resolved => ⟨⟨rfl, reporting_of_resolve resolved⟩, fun _ => rfl⟩) fun _ _ => trivial
  rw [← listening_false globals] at attends
  obtain ⟨later, leads, ended⟩ := leads_of_run invoked obeys
    (hearing_keepsUp client globals history (.file command.state)) azure attends
  obtain ⟨same, heard⟩ := heard_of_leads leads
  refine ⟨?_, overheard_of_leads leads, heard⟩
  rw [settingsUsed, invoked]
  rw [same] at ended
  exact ended

theorem listeners_of_ran {history : List (Option Globals)} {azure : Azure RunListener τ}
    (ran : Ran history azure) :
    azure.tracer.Attends (listenersOf history) := by
  -- a command line that runs no command calls nothing and leaves the service as it was
  induction ran with
  | fresh untraced =>
    rw [untraced]
    exact ⟨rfl, .inr rfl⟩
  | changed _ same attends =>
    rw [same]
    exact attends
  | @run history azure _ _ client environment words files finishes attends =>
    subst finishes
    cases invoked : Invocation.ofWords words with
    | run globals command => exact (attends_of_run client attends invoked environment files).1
    | help about =>
      rw [settingsUsed, invoked, listenersOf_concat]
      cases about <;>
        simpa [execute, invoked, Invocation.program, Program.run, Transcript.after] using attends
    | aimless | misused misuse =>
      rw [settingsUsed, invoked, listenersOf_concat]
      simpa [execute, invoked, Invocation.program, Program.run, Transcript.after] using attends

/-- A call of a run with these settings was reported by one event, from which each logger took what
the settings of its own run ask for, whichever run made the call. -/
structure ServedCall.Reported (history : List (Option Globals)) (globals : Globals)
    (call : ServedCall) (event : CallEvent) : Prop where
  about : event.About call.request.operation.name call.request.key (thrownOf call.answer)
  own : heardBy history.length call.overheard = linesFor (some globals) event
  earlier : ∀ number settings, history[number]? = some settings →
    heardBy number call.overheard = linesFor settings event
  later : ∀ number, history.length < number → heardBy number call.overheard = []

/-- After any number of runs in one process, every call of a run is reported to the loggers of all
runs that asked for reports of such calls, and nothing else is; but nobody is told of a call that
threw something without a text. -/
theorem overheard_of_run {history : List (Option Globals)} {azure : Azure RunListener τ}
    (ran : Ran history azure) {words : List String} {globals : Globals} {command : Command}
    (invoked : Invocation.ofWords words = .run globals command) (client : Client τ)
    (environment : Environment) (files : Files) :
    let finished := execute (Azure.service client) history.length environment words files azure
    finished.events.filterMap overheard? = (servedCalls finished.events).flatMap (·.overheard) ∧
      ∀ call ∈ servedCalls finished.events,
        (∃ event, call.Reported history globals event) ∨
          Untold client call.answer call.overheard := by
  obtain ⟨-, overheard, heard⟩ :=
    attends_of_run client (listeners_of_ran ran) invoked environment files
  refine ⟨overheard, fun call member => (heard call member).imp_left fun told => ?_⟩
  obtain ⟨event, about, lines⟩ := told
  have taken (number : Nat) := lines ▸ heardBy_listenersOf (history ++ [some globals]) event number
  refine ⟨event, about, ?_, fun number settings found => ?_, fun number later => ?_⟩
  · simpa using taken history.length
  · have inside := (List.getElem?_eq_some_iff.mp found).1
    simpa [List.getElem?_append_left inside, found] using taken number
  · have none : (history ++ [some globals])[number]? = none :=
      List.getElem?_eq_none (by simpa using Nat.succ_le_of_lt later)
    simpa [none, linesFor] using taken number

/-- A client whose calls all fail. -/
def refusing : Client Unit where
  call _ _ _ state := ({ result := .error (.ofMessage "unreachable") }, state)

theorem describable_refusing : refusing.Describable := by
  rintro subscription credential call state thrown ⟨⟩
  exact Memory.isTellable_ofMessage "unreachable"

def subscribed : Environment := [("AZURE_SUBSCRIPTION_ID", "s")]

def unused : Azure RunListener Unit :=
  { subscriptionId := "", keyring := { tenantId := none }, client := () }

/-- The words of a run that asks for reports. -/
def reportingWords : List String := "--diagnostics" :: importWords

def reportingRun : Finished (Azure RunListener Unit) :=
  execute (Azure.service refusing) 0 subscribed reportingWords {} unused

/-- The run after it, which does not ask for them. -/
def quietRun : Finished (Azure RunListener Unit) :=
  execute (Azure.service refusing) 1 subscribed importWords {} reportingRun.state

/-- The logger of the first run overhears what the second one calls, as it asked for. -/
theorem overheard_by_earlier_run :
    settingsUsed reportingWords reportingRun.events = some { diagnostics := true } ∧
      (servedCalls quietRun.events).isEmpty = false ∧
      ∀ call ∈ servedCalls quietRun.events,
        ∃ event, call.Reported [some { diagnostics := true }] {} event := by
  have used : settingsUsed reportingWords reportingRun.events = some { diagnostics := true } := by
    decide +kernel
  have ran : Ran ([] ++ [settingsUsed reportingWords reportingRun.events]) reportingRun.state :=
    .run (.fresh rfl) refusing subscribed reportingWords {} rfl
  rw [used] at ran
  have invoked : Invocation.ofWords importWords =
      .run {} (.adopt "/subscriptions/s/resourceGroups/g/dnszones/z/PTR/b" "s") := by decide +kernel
  refine ⟨used, by decide +kernel, fun call member => ?_⟩
  exact ((overheard_of_run ran invoked refusing subscribed {}).2 call member).resolve_right
    fun untold => untold.wordless describable_refusing

/-- Of the call of the quiet run, the logger of the run before it takes a line, and its own takes
none. -/
example : ((servedCalls quietRun.events).map fun call =>
    ((heardBy 0 call.overheard).length, (heardBy 1 call.overheard).length)) = [(1, 0)] := by
  decide +kernel

end CommandLine

end ReverseDns
