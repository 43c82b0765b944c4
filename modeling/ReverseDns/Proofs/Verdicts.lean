import ReverseDns.Proofs.FailedCalls
import ReverseDns.Proofs.FailedImports
import ReverseDns.Proofs.Monitors

/-!
# Verdicts of commands

The exit code of a command, what it prints and what it logs always agree. A command that succeeds
prints one line and logs no error; one that fails prints nothing, and its last error is about its
failure.

* `Concludes` -- the two ways in which a run of a command ends
* `candid_connect`, `candid_replace` -- the parts of commands that are no operations
* `concludes` -- the runs of all commands
* `Succeeds`, `Fails`, `verdict` -- what others see of a command line that runs a command
-/

namespace ReverseDns.CommandLine

variable {σ α : Type}

/-- The two ways in which a run of a command ends: it prints one line, or it fails and prints
nothing. An error is logged only where it fails. -/
inductive Concludes (transcript : Transcript σ Unit) : Prop where
  | succeeded (line : String) (ended : transcript.result = .ok ())
      (printed : printedIn transcript.events = [line]) (silent : errorsIn transcript.events = [])
  | failed (failure : Failure) (ended : transcript.result = .error failure)
      (printed : printedIn transcript.events = [])

section Concludes

variable (state : σ) (files : Files)

theorem concludes_failed (failure : Failure) :
    Concludes (.mk (.error failure) [] state files) := .failed failure rfl rfl

theorem concludes_printed (line : String) :
    Concludes (.mk (.ok ()) [.printed line] state files) := .succeeded line rfl rfl rfl

end Concludes

/-- A candid run before the rest changes nothing of how a command ends, unless it fails itself. -/
theorem concludes_andThen {first : Transcript σ α} {next : α → σ → Files → Transcript σ Unit}
    (candid : first.Candid) (rest : ∀ result state files, Concludes (next result state files)) :
    Concludes (first.andThen next) := by
  obtain ⟨result, events, state, files⟩ := first
  cases result with
  | error failure => exact .failed failure rfl candid.printed
  | ok result =>
    have quiet : errorsIn events = [] := candid.silent result rfl
    have mute : printedIn events = [] := candid.printed
    cases rest result state files with
    | succeeded line ended printed silent =>
      exact .succeeded line ended (by simp [mute, printed]) (by simp [quiet, silent])
    | failed failure ended printed => exact .failed failure ended (by simp [mute, printed])

/-! ## Commands -/

section Commands

variable (host : Host σ) (state : σ) (source files : Files) (environment : Environment)
  (globals : Globals)

theorem candid_connect : ((connect globals environment).run host state files).Candid := by
  rw [run_connect]
  split
  next => exact Transcript.candid_silent _ state files
  next => exact Transcript.candid_of_quiet ⟨rfl, rfl, by simp⟩

theorem candid_replace (desired : Desired) (tracked : Tracked) :
    ((replace desired tracked).run host state files).Candid := by
  rw [run_replace]
  split
  next => exact Transcript.candid_silent _ state files
  next =>
    split
    next => exact Transcript.candid_silent _ state files
    next =>
      split
      next => exact Transcript.candid_silent _ state files
      next =>
        refine Transcript.Candid.after ?_ (quiet_said (by decide) _)
        exact (candid_remove host state files tracked).andThen fun _ state files =>
          Transcript.candid_of_quiet (quiet_saved _ _)

theorem concludes_converge (description path : String) :
    Concludes ((converge source environment globals description path).run host state files) := by
  by_cases valid : ∃ value desired tracked, source.readJson description = .ok value ∧
      Desired.ofJson (some value) = .ok desired ∧ StateFile.load source path = .ok tracked
  · obtain ⟨value, desired, tracked, described, accepted, loaded⟩ := valid
    rw [run_converge host source files environment globals described accepted loaded]
    exact concludes_andThen (candid_connect host state files environment globals)
      fun _ state files => concludes_andThen (candid_refresh host state files tracked)
      fun found state files => concludes_andThen (candid_replace host state files desired found.1)
      fun kept state files => concludes_andThen (candid_write host state files desired kept)
      fun done state files => concludes_printed state files done.1.idText
  · obtain ⟨failure, stops⟩ := converge_eq_stop environment globals valid
    rw [stops]
    exact concludes_failed state files failure

theorem concludes_present (path : String) :
    Concludes ((present source environment globals path).run host state files) := by
  rw [run_present]
  split
  next failure _ => exact concludes_failed state files failure
  next tracked _ =>
    exact concludes_andThen (candid_connect host state files environment globals)
      fun _ state files => concludes_andThen (candid_refresh host state files tracked)
      fun found state files => concludes_printed state files (presented found)

theorem concludes_discard (path : String) :
    Concludes ((discard source environment globals path).run host state files) := by
  rw [run_discard]
  split
  next failure _ => exact concludes_failed state files failure
  next tracked _ =>
    split
    next => exact concludes_failed state files _
    next id _ =>
      exact concludes_andThen (candid_connect host state files environment globals)
        fun _ state files => concludes_andThen (candid_remove host state files tracked)
        fun _ state files => concludes_andThen (Transcript.candid_of_quiet (quiet_saved _ _))
        fun _ state files => concludes_printed state files s!"Deleted {id}"

theorem concludes_takeOver (id path : String) :
    Concludes ((takeOver source environment globals id path).run host state files) := by
  rw [run_takeOver]
  split
  next failure _ => exact concludes_failed state files failure
  next tracked _ =>
    refine concludes_andThen (candid_connect host state files environment globals)
      fun _ state files => concludes_andThen (candid_adopt host state files id tracked)
      fun adopted state files => concludes_andThen (candid_refresh host state files adopted.1)
      fun found state files => ?_
    obtain ⟨_, _ | remote⟩ := found
    · exact concludes_failed state files (.notThere id)
    · exact concludes_printed state files remote.toJson.pretty

/-- Every command concludes, whatever its files hold and the service answers. -/
theorem concludes (command : Command) :
    Concludes ((command.program source environment globals).run host state files) := by
  cases command with
  | apply description path =>
    exact concludes_converge host state source files environment globals description path
  | inspect path => exact concludes_present host state source files environment globals path
  | destroy path => exact concludes_discard host state source files environment globals path
  | adopt id path => exact concludes_takeOver host state source files environment globals id path

end Commands

/-! ## What others see -/

/-- A command line that succeeded: it printed one line and logged no error. -/
structure Succeeds (finished : Finished σ) : Prop where
  exitCode : finished.exitCode = 0
  printed : ∃ line, printedIn finished.events = [line]
  silent : errorsIn finished.events = []

/-- A command line that failed: it printed nothing, and its last error says what failed, and why. -/
structure Fails (verb : Verb) (failure : Failure) (finished : Finished σ) : Prop where
  exitCode : finished.exitCode = 1
  printed : printedIn finished.events = []
  complains : ∃ earlier, errorsIn finished.events =
    earlier ++ [red s!"{verb.complaint}: {failure.describe}"]

/-- What others see of a command follows from how it ends. -/
theorem xor_of_concludes (verb : Verb) {transcript : Transcript σ Unit}
    (ends : Concludes transcript) :
    Xor (Succeeds (finishedOf verb transcript))
      (∃ failure, transcript.result = .error failure ∧
        Fails verb failure (finishedOf verb transcript)) := by
  obtain ⟨result, events, state, files⟩ := transcript
  cases ends with
  | succeeded line ended printed silent =>
    cases ended
    refine .inl ⟨⟨rfl, ⟨line, ?_⟩, ?_⟩, ?_⟩
    · simpa [lastLine] using printed
    · simpa [lastLine] using silent
    · rintro ⟨failure, contrary, -⟩
      cases contrary
  | failed failure ended printed =>
    cases ended
    refine .inr ⟨⟨failure, rfl, rfl, ?_, errorsIn events, ?_⟩, ?_⟩
    · simpa [lastLine, complaintLine] using printed
    · simp [lastLine, complaintLine]
    · intro succeeds
      have contrary : (1 : Nat) = 0 := succeeds.exitCode
      contradiction

/-- A command line that runs a command either succeeds or fails, with the exit code, the output and
the errors of one of the two. Where it fails, the failure is that of the command. -/
theorem verdict {words : List String} {globals : Globals} {command : Command}
    (invoked : Invocation.ofWords words = .run globals command) (service : Service σ)
    (number : Nat) (environment : Environment) (files : Files) (state : σ) :
    let finished := execute service number environment words files state
    let ended := ((command.program files environment globals).run
      (hostOf service number command) state files).result
    Xor (Succeeds finished)
      (∃ failure, ended = .error failure ∧ Fails command.verb failure finished) := by
  rw [execute_of_run invoked]
  exact xor_of_concludes command.verb
    (concludes (hostOf service number command) state files files environment globals command)

/-- The import of a record set that does not exist fails, with one error about that. -/
theorem verdict_on_absent_record :
    let finished := execute Memory.service 0 [] importWords trackingFiles {}
    let id := "/subscriptions/s/resourceGroups/g/dnszones/z/PTR/b"
    let ended := (((Command.adopt id "s").program trackingFiles [] {}).run
      (hostOf Memory.service 0 (.adopt id "s")) {} trackingFiles).result
    Xor (Succeeds finished)
        (∃ failure, ended = .error failure ∧ Fails .adopt failure finished) ∧
      errorsIn finished.events =
        [red ("Failed to import DNS PTR record: DNS PTR record " ++ id ++ " does not exist")] := by
  have invoked : Invocation.ofWords importWords =
      .run {} (.adopt "/subscriptions/s/resourceGroups/g/dnszones/z/PTR/b" "s") := by decide +kernel
  exact ⟨verdict invoked Memory.service 0 [] trackingFiles {}, by decide +kernel⟩

end ReverseDns.CommandLine
