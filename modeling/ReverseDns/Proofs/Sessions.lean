import ReverseDns.Proofs.Operations

/-!
# Sessions

Actions that follow each other on one store: each starts with what is remembered after the one
before, whether that one failed or not.

* `Action` -- the actions
* `Session`, `Session.perform`, `Session.performAll` -- runs of actions, one after the other
* `Transcript.trackedAfter_eq_or_saved` -- where what is remembered comes from
* `Session.performAll_induction` -- what every action preserves holds after all of them
-/

namespace ReverseDns

variable {σ : Type}

/-- An action on the record set under management. -/
inductive Action where
  | createOrUpdate (description : Option Json)
  | read
  | delete
  | adopt (id : String)

/-- The program of an action, whose result is left aside. -/
def Action.program (tracked : Tracked) : Action → Program Unit
  | .createOrUpdate description =>
    (Reconcile.createOrUpdate description tracked).bind fun _ => .done ()
  | .read => (Reconcile.refresh tracked).bind fun _ => .done ()
  | .delete => Reconcile.remove tracked
  | .adopt id => (Reconcile.adopt id tracked).bind fun _ => .done ()

/-- Where a session stands: the service, the files, what is remembered, and all that happened. -/
structure Session (σ : Type) where
  state : σ
  files : Files := {}
  tracked : Tracked := .empty
  events : List Event := []

namespace Session

/-- The run of an action in a session. -/
def runOf (session : Session σ) (host : Host σ) (action : Action) : Transcript σ Unit :=
  (action.program session.tracked).run host session.state session.files

/-- Go on with an action. What was remembered before a failure stays. -/
def perform (host : Host σ) (session : Session σ) (action : Action) : Session σ :=
  let transcript := session.runOf host action
  { state := transcript.state
    files := transcript.files
    tracked := transcript.trackedAfter session.tracked
    events := session.events ++ transcript.events }

/-- Go on with actions, one after the other. -/
def performAll (host : Host σ) (session : Session σ) (actions : List Action) : Session σ :=
  actions.foldl (perform host) session

/-- What every action preserves holds after all of them. -/
theorem performAll_induction {motive : Session σ → Prop} (host : Host σ)
    (step : ∀ session action, motive session → motive (session.perform host action))
    {session : Session σ} (start : motive session) (actions : List Action) :
    motive (session.performAll host actions) := by
  induction actions generalizing session with
  | nil => exact start
  | cons action rest inductionHypothesis => exact inductionHypothesis (step _ action start)

end Session

/-! ## What is remembered -/

namespace Transcript

variable {α β : Type}

theorem mem_saves {transcript : Transcript σ α} {tracked : Tracked} :
    tracked ∈ transcript.saves ↔ ∃ outcome, .saved tracked outcome ∈ transcript.events := by
  rw [saves, List.mem_filterMap]
  constructor
  · rintro ⟨event, member, found⟩
    split at found
    · cases found
      exact ⟨_, member⟩
    · cases found
  · rintro ⟨outcome, member⟩
    exact ⟨_, member, rfl⟩

theorem mem_requests {transcript : Transcript σ α} {request : Request} :
    request ∈ transcript.requests ↔ ∃ answer, .called request answer ∈ transcript.events := by
  rw [requests, List.mem_filterMap]
  constructor
  · rintro ⟨event, member, found⟩
    split at found
    · cases found
      exact ⟨_, member⟩
    · cases found
  · rintro ⟨answer, member⟩
    exact ⟨_, member, rfl⟩

/-- What is remembered after a run was remembered before it, or it was saved in it. -/
theorem trackedAfter_eq_or_saved (transcript : Transcript σ α) (before : Tracked) :
    transcript.trackedAfter before = before ∨
      ∃ outcome, .saved (transcript.trackedAfter before) outcome ∈ transcript.events := by
  unfold trackedAfter
  cases last : transcript.saves.getLast? with
  | none => exact .inl rfl
  | some tracked => exact .inr (mem_saves.mp (List.mem_of_getLast? last))

/-- The events of a run that goes on are those of the run, then those of what follows. -/
theorem events_andThen (first : Transcript σ α) (next : α → σ → Files → Transcript σ β) :
    (first.andThen next).events = first.events ∨
      ∃ result, first.result = .ok result ∧
        (first.andThen next).events =
          first.events ++ (next result first.state first.files).events := by
  obtain ⟨result, events, state, files⟩ := first
  cases result with
  | error failure => exact .inl rfl
  | ok result => exact .inr ⟨result, rfl, rfl⟩

end Transcript

/-- The result that an action hands out does not show in its events. -/
theorem Program.events_run_bind_done {α : Type} (host : Host σ) (program : Program α) (state : σ)
    (files : Files) :
    ((program.bind fun _ => .done ()).run host state files).events =
      (program.run host state files).events := by
  rw [Program.run_bind]
  rcases program.run host state files with ⟨_ | _, events, state, files⟩ <;> simp

end ReverseDns
