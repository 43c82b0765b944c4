import ReverseDns.Program

/-!
# Runs of programs

A run of two programs in sequence is a run of the first followed by a run of the second, so that
what an operation does can be said once and cited wherever the operation is used.

* `Transcript.andThen` -- go on after a run, unless it failed
* `Program.run_bind`, `Program.run_orElse` -- runs of composed programs
* `Program.run_tell` and its companions -- runs of single steps
* `callEvents` -- what a run records about one call
-/

namespace ReverseDns

variable {σ α β γ : Type}

/-- The events of one call: the call itself, then what loggers overheard. -/
def callEvents (request : Request) (response : Response σ) : List Event :=
  .called request response.answer :: response.overheard.map Event.overheard

namespace Transcript

/-- Go on with the result of a run; a run that failed is the end. -/
def andThen (first : Transcript σ α) (next : α → σ → Files → Transcript σ β) : Transcript σ β :=
  match first.result with
  | .ok result => (next result first.state first.files).after first.events
  | .error failure =>
    { result := .error failure, events := first.events, state := first.state, files := first.files }

@[simp] theorem andThen_ok (result : α) (events : List Event) (state : σ) (files : Files)
    (next : α → σ → Files → Transcript σ β) :
    andThen ⟨.ok result, events, state, files⟩ next = (next result state files).after events := rfl

@[simp] theorem andThen_error (failure : Failure) (events : List Event) (state : σ) (files : Files)
    (next : α → σ → Files → Transcript σ β) :
    andThen ⟨.error failure, events, state, files⟩ next =
      ⟨.error failure, events, state, files⟩ := rfl

theorem andThen_congr {first : Transcript σ α} {next other : α → σ → Files → Transcript σ β}
    (equal : ∀ result state files, next result state files = other result state files) :
    first.andThen next = first.andThen other := by
  have same : next = other := funext fun result => funext fun state => funext (equal result state)
  rw [same]

theorem andThen_andThen (first : Transcript σ α) (next : α → σ → Files → Transcript σ β)
    (last : β → σ → Files → Transcript σ γ) :
    (first.andThen next).andThen last =
      first.andThen fun result state files => (next result state files).andThen last := by
  obtain ⟨result, events, state, files⟩ := first
  cases result with
  | error failure => rfl
  | ok result =>
    simp only [andThen, after]
    cases (next result state files).result with
    | error failure => rfl
    | ok result => simp

@[simp] theorem after_mk (events later : List Event) (result : Except Failure α) (state : σ)
    (files : Files) :
    after events (⟨result, later, state, files⟩ : Transcript σ α) =
      ⟨result, events ++ later, state, files⟩ := rfl

@[simp] theorem after_nil (transcript : Transcript σ α) : after [] transcript = transcript := rfl

@[simp] theorem after_after (first second : List Event) (transcript : Transcript σ α) :
    after first (after second transcript) = after (first ++ second) transcript := by
  simp [after]

@[simp] theorem result_after (events : List Event) (transcript : Transcript σ α) :
    (after events transcript).result = transcript.result := rfl

@[simp] theorem events_after (events : List Event) (transcript : Transcript σ α) :
    (after events transcript).events = events ++ transcript.events := rfl

@[simp] theorem state_after (events : List Event) (transcript : Transcript σ α) :
    (after events transcript).state = transcript.state := rfl

@[simp] theorem files_after (events : List Event) (transcript : Transcript σ α) :
    (after events transcript).files = transcript.files := rfl

@[simp] theorem after_andThen (events : List Event) (first : Transcript σ α)
    (next : α → σ → Files → Transcript σ β) :
    (after events first).andThen next = after events (first.andThen next) := by
  obtain ⟨result, later, state, files⟩ := first
  cases result <;> simp

/-! ## Calls and saves -/

section Calls

variable (request : Request) (response : Response σ)

/-- A call saves nothing. -/
theorem saves_callEvents (result : Except Failure α) (state : σ) (files : Files) :
    (mk result (callEvents request response) state files).saves = [] := by
  simp [saves, callEvents]

variable (level : Level) (text : String) (rest : Transcript σ α)

theorem requests_called :
    (rest.after (.said level text :: callEvents request response)).requests =
      request :: rest.requests := by
  simp [requests, callEvents]

theorem saves_called :
    (rest.after (.said level text :: callEvents request response)).saves = rest.saves := by
  simp [saves, callEvents]

end Calls

end Transcript

namespace Program

/-! ## Composed programs -/

/-- A run of a sequence runs its parts one after the other. -/
theorem run_bind (host : Host σ) (first : Program α) (next : α → Program β) (state : σ)
    (files : Files) :
    (first.bind next).run host state files =
      (first.run host state files).andThen fun result => (next result).run host := by
  induction first generalizing state files with
  | done result => rfl
  | stop failure => rfl
  | say level text rest inductionHypothesis => simp [bind, run, inductionHypothesis]
  | print line rest inductionHypothesis => simp [bind, run, inductionHypothesis]
  | save tracked rest inductionHypothesis => simp [bind, run, inductionHypothesis]
  | connect config rest inductionHypothesis => simp [bind, run, inductionHypothesis]
  | ask request rest inductionHypothesis => simp [bind, run, inductionHypothesis]

/-- A run of a program with a handler is a run of the program; only where that fails, a run of the
handler follows. -/
theorem run_orElse (host : Host σ) (first : Program α) (handler : Failure → Program α) (state : σ)
    (files : Files) :
    (first.orElse handler).run host state files =
      match first.run host state files with
      | ⟨.ok result, events, state, files⟩ => ⟨.ok result, events, state, files⟩
      | ⟨.error failure, events, state, files⟩ =>
        ((handler failure).run host state files).after events := by
  induction first generalizing state files with
  | done result => rfl
  | stop failure => rfl
  | say level text rest inductionHypothesis =>
    simp only [orElse, run, inductionHypothesis]
    rcases rest.run host state files with ⟨_ | _, events, state, files⟩ <;> simp
  | print line rest inductionHypothesis =>
    simp only [orElse, run, inductionHypothesis]
    rcases rest.run host state files with ⟨_ | _, events, state, files⟩ <;> simp
  | save tracked rest inductionHypothesis =>
    simp only [orElse, run, inductionHypothesis]
    rcases (rest _).run host state _ with ⟨_ | _, events, state, files⟩ <;> simp
  | connect config rest inductionHypothesis =>
    simp only [orElse, run, inductionHypothesis]
    rcases (rest _).run host _ files with ⟨_ | _, events, state, files⟩ <;> simp
  | ask request rest inductionHypothesis =>
    simp only [orElse, run, inductionHypothesis]
    rcases (rest _).run host _ files with ⟨_ | _, events, state, files⟩ <;> simp

theorem bind_eq (first : Program α) (next : α → Program β) : (first >>= next) = first.bind next :=
  rfl

theorem pure_eq (result : α) : (pure result : Program α) = .done result := rfl

/-! ## Single steps -/

variable (host : Host σ) (state : σ) (files : Files)

@[simp] theorem run_done (result : α) :
    (done result).run host state files = ⟨.ok result, [], state, files⟩ := rfl

@[simp] theorem run_stop (failure : Failure) :
    (stop failure : Program α).run host state files = ⟨.error failure, [], state, files⟩ := rfl

@[simp] theorem run_ofExcept (outcome : Except Failure α) :
    (ofExcept outcome).run host state files = ⟨outcome, [], state, files⟩ := by
  cases outcome <;> rfl

@[simp] theorem run_tell (level : Level) (text : String) :
    (tell level text).run host state files = ⟨.ok (), [.said level text], state, files⟩ := rfl

@[simp] theorem run_printLine (line : String) :
    (printLine line).run host state files = ⟨.ok (), [.printed line], state, files⟩ := rfl

@[simp] theorem run_remember (tracked : Tracked) :
    (remember tracked).run host state files =
      ⟨(host.home.keep tracked files).1, [.saved tracked (host.home.keep tracked files).1], state,
        (host.home.keep tracked files).2⟩ := by
  simp [remember, run]

@[simp] theorem run_connectTo (config : Config) :
    (connectTo config).run host state files =
      ⟨(host.service.prepare host.number config state).1, [.connected config],
        (host.service.prepare host.number config state).2, files⟩ := by
  simp [connectTo, run]

@[simp] theorem run_call (request : Request) :
    (call request).run host state files =
      ⟨.ok (host.service.serve request state).answer,
        callEvents request (host.service.serve request state),
        (host.service.serve request state).state, files⟩ := by
  simp [call, run, callEvents]

end Program

end ReverseDns
