import ReverseDns.Proofs.Convergence
import ReverseDns.Proofs.ServiceAgreement
import ReverseDns.Proofs.StatusTexts

/-!
# Failed calls

What an operation tells of a call that failed. It stops at the call, fails because of it and logs
that once. The failure has the status and the cause; the message shows the status, unless the cause
carries another one.

* `errorsIn` -- the lines on the error level
* `Transcript.Candid` -- a run that stops at a call that fails and tells of it
* `candid_errand` -- the runs of all operations
* `Account`, `accounts_for_failed_call` -- all that comes of a call that failed
-/

namespace ReverseDns

open CommandLine (printedIn)
open Reconcile (callFailure complaints complaintsOf readingLine writingLine deletingLine
  importingLine goneLine)

variable {σ α β : Type}

/-! ## Lines on the error level -/

/-- The lines on the error level. -/
def errorsIn (events : List Event) : List String :=
  events.filterMap fun
    | .said .error text => some text
    | _ => none

@[simp] theorem errorsIn_nil : errorsIn [] = [] := rfl

@[simp] theorem errorsIn_append (first second : List Event) :
    errorsIn (first ++ second) = errorsIn first ++ errorsIn second :=
  List.filterMap_append

@[simp] theorem errorsIn_said (level : Level) (text : String) (rest : List Event) :
    errorsIn (.said level text :: rest) =
      if level = .error then text :: errorsIn rest else errorsIn rest := by
  cases level <;> rfl

@[simp] theorem errorsIn_printed (line : String) (rest : List Event) :
    errorsIn (.printed line :: rest) = errorsIn rest := rfl

@[simp] theorem errorsIn_saved (tracked : Tracked) (outcome : Except Failure Unit)
    (rest : List Event) : errorsIn (.saved tracked outcome :: rest) = errorsIn rest := rfl

@[simp] theorem errorsIn_connected (config : Config) (rest : List Event) :
    errorsIn (.connected config :: rest) = errorsIn rest := rfl

@[simp] theorem errorsIn_callEvents (request : Request) (response : Response σ) :
    errorsIn (callEvents request response) = [] := by
  simp [errorsIn, callEvents]

@[simp] theorem printedIn_callEvents (request : Request) (response : Response σ) :
    printedIn (callEvents request response) = [] := by
  simp [printedIn, callEvents]

/-! ## Runs that tell of failed calls -/

/-- A run that prints nothing, logs no error unless it fails, and stops at the first call that
fails: it fails because of that call and logs that once. -/
structure Transcript.Candid (transcript : Transcript σ α) : Prop where
  printed : printedIn transcript.events = []
  silent : ∀ result, transcript.result = .ok result → errorsIn transcript.events = []
  tells : ∀ request answer, .called request answer ∈ transcript.events → Failed request answer →
    transcript.result = .error (failureOf request answer) ∧
      errorsIn transcript.events = errorsIn (complaints (failureOf request answer))

/-- Events among which nothing is printed, no error is logged, and nothing is called. -/
structure Quiet (events : List Event) : Prop where
  printed : printedIn events = []
  silent : errorsIn events = []
  uncalled : ∀ request answer, .called request answer ∉ events

theorem called_mem_callEvents {request other : Request} {response : Response σ} {answer : Answer} :
    .called other answer ∈ callEvents request response ↔
      other = request ∧ answer = response.answer := by
  simp [callEvents]

theorem quiet_nil : Quiet [] := ⟨rfl, rfl, by simp⟩

theorem quiet_said {level : Level} (below : level ≠ .error) (text : String) :
    Quiet [.said level text] where
  printed := rfl
  silent := by simp [below]
  uncalled := by simp

theorem quiet_saved (tracked : Tracked) (outcome : Except Failure Unit) :
    Quiet [.saved tracked outcome] := ⟨rfl, rfl, by simp⟩

theorem Quiet.append {first second : List Event} (one : Quiet first) (other : Quiet second) :
    Quiet (first ++ second) where
  printed := by simp [one.printed, other.printed]
  silent := by simp [one.silent, other.silent]
  uncalled request answer called :=
    (List.mem_append.mp called).elim (one.uncalled request answer) (other.uncalled request answer)

namespace Transcript

theorem candid_of_quiet {transcript : Transcript σ α} (quiet : Quiet transcript.events) :
    transcript.Candid where
  printed := quiet.printed
  silent _ _ := quiet.silent
  tells request answer called := absurd called (quiet.uncalled request answer)

theorem candid_silent (outcome : Except Failure α) (state : σ) (files : Files) :
    (mk outcome [] state files).Candid := candid_of_quiet quiet_nil

/-- A run that ends with a failure and says no more than that. -/
theorem candid_complaintsOf (outcome : Except Failure α) (state : σ) (files : Files) :
    (mk outcome (complaintsOf outcome) state files).Candid where
  printed := by cases outcome with
    | ok result => rfl
    | error failure => cases failure <;> rfl
  silent _ := by rintro rfl; rfl
  tells request answer called := by
    cases outcome with
    | ok result => cases called
    | error failure =>
      obtain ⟨_, _, same⟩ := Reconcile.said_of_mem_complaints called
      cases same

theorem Candid.andThen {first : Transcript σ α} {next : α → σ → Files → Transcript σ β}
    (candid : first.Candid) (rest : ∀ result state files, (next result state files).Candid) :
    (first.andThen next).Candid := by
  obtain ⟨result, events, state, files⟩ := first
  cases result with
  | error failure =>
    refine ⟨candid.printed, nofun, fun request answer called failed => ?_⟩
    obtain ⟨same, logged⟩ := candid.tells request answer called failed
    exact ⟨by rw [← Except.error.inj same]; rfl, logged⟩
  | ok result =>
    have quiet : errorsIn events = [] := candid.silent result rfl
    have rest := rest result state files
    refine ⟨?_, fun last ended => ?_, fun request answer called failed => ?_⟩
    · simp [candid.printed, rest.printed]
    · simp [quiet, rest.silent last ended]
    · rcases List.mem_append.mp called with called | called
      · -- a call that failed would have ended the first run
        cases (candid.tells request answer called failed).1
      · obtain ⟨ended, logged⟩ := rest.tells request answer called failed
        exact ⟨ended, by simp [quiet, logged]⟩

theorem Candid.after {rest : Transcript σ α} (candid : rest.Candid) {lines : List Event}
    (quiet : Quiet lines) : (rest.after lines).Candid := by
  refine ⟨?_, fun result ended => ?_, fun request answer called failed => ?_⟩
  · simp [quiet.printed, candid.printed]
  · simp [quiet.silent, candid.silent result ended]
  · rcases List.mem_append.mp called with called | called
    · exact absurd called (quiet.uncalled request answer)
    · obtain ⟨ended, logged⟩ := candid.tells request answer called failed
      exact ⟨ended, by simp [quiet.silent, logged]⟩

/-- What follows a call is candid if it heeds the answer. -/
theorem Candid.after_call {rest : Transcript σ α} (candid : rest.Candid) (lines : List Event)
    (quiet : Quiet lines) {request : Request} {response : Response σ}
    (heeds : Failed request response.answer →
      rest.result = .error (failureOf request response.answer) ∧
        rest.events = complaints (failureOf request response.answer)) :
    (rest.after (lines ++ callEvents request response)).Candid := by
  rw [← after_after]
  refine Candid.after ⟨?_, fun result ended => ?_, fun other answer called failed => ?_⟩ quiet
  · simp [candid.printed]
  · simp [candid.silent result ended]
  · simp only [result_after, events_after, errorsIn_append, errorsIn_callEvents, List.nil_append]
    rcases List.mem_append.mp called with called | called
    · obtain ⟨rfl, rfl⟩ := called_mem_callEvents.mp called
      obtain ⟨ended, logged⟩ := heeds failed
      exact ⟨ended, by rw [logged]⟩
    · exact candid.tells other answer called failed

/-- A call is all that is done, and its answer decides what comes of it. -/
theorem candid_call (lines : List Event) (quiet : Quiet lines) {request : Request}
    {response : Response σ} {outcome : Except Failure α} (files : Files)
    (heeds : Failed request response.answer →
      outcome = .error (failureOf request response.answer)) :
    (mk outcome (lines ++ callEvents request response ++ complaintsOf outcome) response.state
      files).Candid := by
  refine (candid_complaintsOf outcome response.state files).after_call lines quiet fun failed => ?_
  rw [heeds failed]
  exact ⟨rfl, rfl⟩

end Transcript

/-! ## The operations -/

section Operations

variable (host : Host σ) (state : σ) (files : Files)

theorem candid_lookUp (address : Address) :
    ((Reconcile.lookUp address).run host state files).Candid := by
  rw [Reconcile.run_lookUp]
  exact Transcript.candid_call [] quiet_nil files Failed.readAnswer_eq

theorem candid_refresh (tracked : Tracked) :
    ((Reconcile.refresh tracked).run host state files).Candid := by
  rw [Reconcile.run_refresh]
  split
  next => exact Transcript.candid_silent _ state files
  next text _ =>
    split
    next => exact Transcript.candid_silent _ state files
    next id _ =>
      refine Transcript.Candid.after_call ?_ [readingLine id]
        (quiet_said (by decide) _) fun failed => ?_
      · unfold Reconcile.refreshEnd
        split
        next failure _ => exact Transcript.candid_complaintsOf (.error failure) _ _
        next =>
          exact Transcript.candid_of_quiet ((quiet_said (by decide) _).append (quiet_saved _ _))
        next => exact Transcript.candid_of_quiet (quiet_saved _ _)
      · rw [Reconcile.refreshEnd, failed.readAnswer_eq]
        exact ⟨rfl, rfl⟩

theorem candid_write (desired : Desired) (tracked : Tracked) :
    ((Reconcile.write desired tracked).run host state files).Candid := by
  rw [Reconcile.run_write]
  split
  next => exact Transcript.candid_silent _ state files
  next ifMatch _ =>
    refine Transcript.Candid.after_call ?_ [writingLine desired]
      (quiet_said (by decide) _) fun failed => ?_
    · unfold Reconcile.writeEnd
      split
      next failure _ => exact Transcript.candid_complaintsOf (.error failure) _ _
      next text id _ =>
        refine (Transcript.candid_of_quiet (quiet_saved _ _)).andThen fun _ state files => ?_
        exact (candid_refresh host state files _).andThen fun found state files =>
          Transcript.candid_silent _ state files
    · rw [Reconcile.writeEnd, failed.writeAnswer_eq]
      exact ⟨rfl, rfl⟩

theorem candid_createOrUpdate (description : Option Json) (tracked : Tracked) :
    ((Reconcile.createOrUpdate description tracked).run host state files).Candid := by
  rw [Reconcile.run_createOrUpdate]
  split
  next => exact Transcript.candid_silent _ state files
  next desired _ => exact candid_write host state files desired tracked

theorem candid_remove (tracked : Tracked) :
    ((Reconcile.remove tracked).run host state files).Candid := by
  rw [Reconcile.run_remove]
  split
  next => exact Transcript.candid_silent _ state files
  next id _ =>
    exact Transcript.candid_call [deletingLine id] (quiet_said (by decide) _) files
      Failed.deleteAnswer_eq

theorem candid_adopt (text : String) (tracked : Tracked) :
    ((Reconcile.adopt text tracked).run host state files).Candid := by
  rw [Reconcile.run_adopt]
  split
  next => exact Transcript.candid_silent _ state files
  next => exact Transcript.candid_of_quiet ((quiet_said (by decide) _).append (quiet_saved _ _))

/-- Every operation is candid about its calls. -/
theorem candid_errand (tracked : Tracked) (errand : Errand) :
    ((errand.program tracked).run host state files).Candid := by
  have done (finding : Finding) (state : σ) (files : Files) :
      ((Program.done finding).run host state files).Candid :=
    Transcript.candid_silent (.ok finding) state files
  cases errand <;> rw [Errand.program, Program.run_bind]
  case createOrUpdate description =>
    exact (candid_createOrUpdate host state files description tracked).andThen fun _ => done _
  case lookUp address => exact (candid_lookUp host state files address).andThen fun _ => done _
  case refresh => exact (candid_refresh host state files tracked).andThen fun _ => done _
  case remove => exact (candid_remove host state files tracked).andThen fun _ => done _
  case adopt id => exact (candid_adopt host state files id tracked).andThen fun _ => done _

end Operations

/-! ## What comes of a failed call -/

/-- The status that an answer tells of: the one that was reported, or else the one that what was
thrown carries. -/
def statusOf : Answer → Option Float
  | .ok reply => some reply.status
  | .error thrown => thrown.status?

theorem remoteStatus_eq (answer : Answer) :
    remoteStatus (reportedStatus answer) (causeOf answer) = statusOf answer := by
  cases answer <;> rfl

/-- What comes of an operation that made a call which failed with an answer. -/
inductive Account (request : Request) (answer : Answer) (transcript : Transcript σ α) : Prop where
  /-- The operation fails with the status and the cause of the answer, and logs its message once. A
  status can be read in the message in one way at most, and it is that of the answer if and only if
  the cause carries no other status, nor zero. -/
  | told (failure : Failure) (line : String) (shown : Option String)
      (tellable : isTellable (causeOf answer) = true)
      (ended : transcript.result = .error failure)
      (kind : failure.report.kind = "RemoteError")
      (statusCode : failure.report.statusCode = .ofOption (statusOf answer))
      (cause : failure.report.cause = causeOf answer)
      (message : failure.report.message = headed (attemptOf request).complaint line)
      (logged : errorsIn transcript.events = [failure.report.message])
      (shows : ∀ number, Detail (causeOf answer) number line ↔ number = shown)
      (accurate : shown = (statusOf answer).map Decimal.spell ↔
        ∀ carried, (causeOf answer).bind Thrown.status? = some carried →
          isTruthy carried = true ∧
            some (Decimal.spell carried) = (statusOf answer).map Decimal.spell) :
      Account request answer transcript
  /-- The cause cannot be put into words: the operation fails because of that, and logs nothing. -/
  | wordless (untellable : isTellable (causeOf answer) = false)
      (ended : transcript.result = .error .indescribable)
      (silent : errorsIn transcript.events = []) : Account request answer transcript

/-- Whatever a service answers, an operation gives an account of a call that failed. -/
theorem accounts_for_failed_call (host : Host σ) (state : σ) (files : Files) (tracked : Tracked)
    (errand : Errand) {request : Request} {answer : Answer}
    (called : .called request answer ∈ ((errand.program tracked).run host state files).events)
    (failed : Failed request answer) :
    Account request answer ((errand.program tracked).run host state files) := by
  have candid := candid_errand host state files tracked errand
  obtain ⟨ended, logged⟩ := candid.tells request answer called failed
  cases tellable : isTellable (causeOf answer) with
  | true =>
    have same : failureOf request answer =
        .remote (attemptOf request) (reportedStatus answer) (causeOf answer) := by
      rw [failureOf, callFailure, if_pos tellable]
    rw [same] at ended logged
    have detail := detail_remoteDetail (reportedStatus answer) (causeOf answer)
    refine .told _ _ ((shownStatus (reportedStatus answer) (causeOf answer)).map Decimal.spell)
      tellable ended rfl ?_ rfl (remoteMessage_eq ..) logged ?_ ?_
    · rw [← remoteStatus_eq]
      rfl
    · exact fun number => ⟨fun other => other.unique detail, fun equal => equal ▸ detail⟩
    · rw [← remoteStatus_eq]
      exact map_shownStatus_eq_iff
  | false =>
    have same : failureOf request answer = .indescribable := by
      simp [failureOf, callFailure, tellable]
    rw [same] at ended logged
    exact .wordless tellable ended logged

/-- A service that reports the status 500 beside an error that carries another one. -/
def contrary (carried : Float) : Service Unit where
  serve _ _ := {
    answer := .ok {
      status := 500
      error := some (.error [("message", .str "boom"), ("statusCode", .num carried)]) }
    state := () }

/-- What a deletion logs when it fails on this service. -/
def loggedOn (carried : Float) : List String :=
  let tracked : Tracked := { id := some "/subscriptions/s/resourceGroups/g/dnszones/z/PTR/a" }
  errorsIn ((Errand.remove.program tracked).run { service := contrary carried } () {}).events

/-- The message about a call that failed with 500 shows no status beside a status of zero, and it
shows 503 beside that. -/
theorem account_of_two_statuses :
    let tracked : Tracked := { id := some "/subscriptions/s/resourceGroups/g/dnszones/z/PTR/a" }
    let address : Address := { resourceGroup := "g", zoneName := "z", recordName := "a" }
    let answer := ((contrary 0).serve (.delete address.ptr "") ()).answer
    Account (.delete address.ptr "") answer
        ((Errand.remove.program tracked).run { service := contrary 0 } () {}) ∧
      statusOf answer = some 500 ∧
      loggedOn 0 = ["Error deleting DNS PTR Record a: boom"] ∧
      loggedOn 503 = ["Error deleting DNS PTR Record a: (HTTP 503) boom"] := by
  refine ⟨accounts_for_failed_call { service := contrary 0 } () {}
    { id := some "/subscriptions/s/resourceGroups/g/dnszones/z/PTR/a" } .remove ?_ ?_, rfl, ?_⟩
  · exact .tail _ (.head _)
  · exact .refused _ (by decide) nofun
  · decide +kernel

end ReverseDns
