import ReverseDns.CommandLine.Execution
import ReverseDns.Proofs.Operations

/-!
# Runs of commands

A command that fails exits with 1 after one line on the error level; one that does not exits with 0.
What a command does to the service and the files is what its program does.

* `run_reported` -- runs of programs with their exit code
* `execute_of_run` -- runs of command lines that run a command
* `run_connect`, `run_replace`, `run_converge`, `run_present`, `run_discard`, `run_takeOver` -- runs
  of commands and their parts
-/

namespace ReverseDns.CommandLine

open Program (run_bind bind_eq pure_eq)
open Reconcile (run_remove run_refresh run_adopt run_write)

variable {σ : Type}

/-! ## Exit codes -/

/-- The line about a command that failed. -/
def complaintLine (verb : Verb) (failure : Failure) : Event :=
  .said .error (red s!"{verb.complaint}: {failure.describe}")

/-- The exit code of a result. -/
def exitCodeOf {α : Type} : Except Failure α → Nat
  | .ok _ => 0
  | .error _ => 1

/-- The last line of a command: one about its failure, if it failed. -/
def lastLine {α : Type} (verb : Verb) : Except Failure α → List Event
  | .ok _ => []
  | .error failure => [complaintLine verb failure]

theorem run_reported (host : Host σ) (verb : Verb) (program : Program Unit) (state : σ)
    (files : Files) :
    (reported verb program).run host state files =
      let transcript := program.run host state files
      ⟨.ok (exitCodeOf transcript.result),
        transcript.events ++ lastLine verb transcript.result, transcript.state,
        transcript.files⟩ := by
  rw [reported, Program.run_orElse, run_bind]
  rcases program.run host state files with ⟨_ | _, events, state, files⟩ <;>
    simp [Program.run, exitCodeOf, lastLine, complaintLine]

/-- The host on which a command runs. -/
def hostOf (service : Service σ) (number : Nat) (command : Command) : Host σ :=
  { service, home := .file command.state, number }

/-- What others see of a command, from its run. -/
abbrev finishedOf (verb : Verb) (transcript : Transcript σ Unit) : Finished σ where
  exitCode := exitCodeOf transcript.result
  events := transcript.events ++ lastLine verb transcript.result
  files := transcript.files
  state := transcript.state

theorem execute_of_run {words : List String} {globals : Globals} {command : Command}
    (invoked : Invocation.ofWords words = .run globals command) (service : Service σ)
    (number : Nat) (environment : Environment) (files : Files) (state : σ) :
    execute service number environment words files state =
      finishedOf command.verb ((command.program files environment globals).run
        (hostOf service number command) state files) := by
  simp only [execute, invoked, Invocation.program, run_reported]
  rfl

/-! ## Parts of commands -/

theorem run_connect (host : Host σ) (globals : Globals) (environment : Environment) (state : σ)
    (files : Files) :
    (connect globals environment).run host state files =
      match Config.resolve globals.settings environment with
      | .error failure => ⟨.error failure, [], state, files⟩
      | .ok config =>
        ⟨(host.service.prepare host.number config state).1, [.connected config],
          (host.service.prepare host.number config state).2, files⟩ := by
  rw [connect, bind_eq, run_bind, Program.run_ofExcept]
  cases Config.resolve globals.settings environment <;> simp

theorem connect_calls_nothing (host : Host σ) (globals : Globals) (environment : Environment)
    (state : σ) (files : Files) :
    ((connect globals environment).run host state files).files = files ∧
      ∀ request answer, .called request answer ∉
        ((connect globals environment).run host state files).events := by
  rw [run_connect]
  cases Config.resolve globals.settings environment <;> simp

/-- The line about a record set that is replaced. -/
def replacingLine (text : String) : Event :=
  .said .info s!"Replacing {text}: name, zone or resource group changed"

theorem run_replace (host : Host σ) (desired : Desired) (tracked : Tracked) (state : σ)
    (files : Files) :
    (replace desired tracked).run host state files =
      match tracked.usableId with
      | none => ⟨.ok tracked, [], state, files⟩
      | some text =>
        match PtrRecordId.parse text with
        | .error failure => ⟨.error failure, [], state, files⟩
        | .ok id =>
          if id.address.same desired.address then ⟨.ok tracked, [], state, files⟩
          else ((Reconcile.remove tracked).run host state files).andThen (fun _ state files =>
            ⟨(host.home.keep .empty files).1.map fun _ => .empty,
              [.saved .empty (host.home.keep .empty files).1], state,
              (host.home.keep .empty files).2⟩) |>.after [replacingLine text] := by
  cases usable : tracked.usableId with
  | none => simp [replace, usable, pure_eq]
  | some text =>
    simp only [replace, usable, bind_eq, run_bind, Program.run_ofExcept]
    cases PtrRecordId.parse text with
    | error failure => simp
    | ok id =>
      simp only [Transcript.andThen_ok, Transcript.after_nil]
      split
      · simp [pure_eq]
      · simp only [run_bind, Program.run_tell, Transcript.andThen_ok, replacingLine]
        refine congrArg _ (Transcript.andThen_congr fun _ state files => ?_)
        rw [run_bind, Program.run_remember]
        cases (host.home.keep .empty files).1 <;> simp [pure_eq, Except.map]

/-- A run of `apply` once its files were read. -/
theorem run_converge (host : Host σ) (source files : Files) (environment : Environment)
    (globals : Globals) {file path : String} {description : Json} {desired : Desired}
    {tracked : Tracked} (described : source.readJson file = .ok description)
    (accepted : Desired.ofJson (some description) = .ok desired)
    (loaded : StateFile.load source path = .ok tracked) (state : σ) :
    (converge source environment globals file path).run host state files =
      ((connect globals environment).run host state files).andThen fun _ state files =>
        ((Reconcile.refresh tracked).run host state files).andThen fun found state files =>
          ((replace desired found.1).run host state files).andThen fun kept state files =>
            ((Reconcile.write desired kept).run host state files).andThen fun done state files =>
              ⟨.ok (), [.printed done.1.idText], state, files⟩ := by
  rw [converge, described, bind_eq, run_bind, Program.run_ofExcept, Transcript.andThen_ok,
    Transcript.after_nil, accepted, bind_eq, run_bind, Program.run_ofExcept,
    Transcript.andThen_ok, Transcript.after_nil, loaded, bind_eq, run_bind, Program.run_ofExcept,
    Transcript.andThen_ok, Transcript.after_nil, bind_eq, run_bind]
  refine Transcript.andThen_congr fun _ state files => ?_
  rw [bind_eq, run_bind]
  refine Transcript.andThen_congr fun found state files => ?_
  obtain ⟨found, _⟩ := found
  dsimp only
  rw [bind_eq, run_bind]
  refine Transcript.andThen_congr fun kept state files => ?_
  rw [bind_eq, run_bind]
  refine Transcript.andThen_congr fun done state files => ?_
  rfl

/-- What `show` prints once the record set was looked up. -/
def presented : Tracked × Option Remote → String
  | (_, some remote) => remote.toJson.pretty
  | (_, none) => "DNS PTR record not found"

theorem run_present (host : Host σ) (source files : Files) (environment : Environment)
    (globals : Globals) (path : String) (state : σ) :
    (present source environment globals path).run host state files =
      match StateFile.load source path with
      | .error failure => ⟨.error failure, [], state, files⟩
      | .ok tracked =>
        ((connect globals environment).run host state files).andThen fun _ state files =>
          ((Reconcile.refresh tracked).run host state files).andThen fun found state files =>
            ⟨.ok (), [.printed (presented found)], state, files⟩ := by
  rw [present, bind_eq, run_bind, Program.run_ofExcept]
  cases StateFile.load source path with
  | error failure => simp
  | ok tracked =>
    rw [Transcript.andThen_ok, Transcript.after_nil, bind_eq, run_bind]
    refine Transcript.andThen_congr fun _ state files => ?_
    rw [bind_eq, run_bind]
    refine Transcript.andThen_congr fun found state files => ?_
    obtain ⟨tracked, _ | remote⟩ := found <;> rfl

theorem run_discard (host : Host σ) (source files : Files) (environment : Environment)
    (globals : Globals) (path : String) (state : σ) :
    (discard source environment globals path).run host state files =
      match StateFile.load source path with
      | .error failure => ⟨.error failure, [], state, files⟩
      | .ok tracked =>
        match tracked.usableId with
        | none => ⟨.error (.nothingTracked path), [], state, files⟩
        | some id =>
          ((connect globals environment).run host state files).andThen fun _ state files =>
            ((Reconcile.remove tracked).run host state files).andThen fun _ state files =>
              (Transcript.mk (host.home.keep .empty files).1
                [.saved .empty (host.home.keep .empty files).1] state
                (host.home.keep .empty files).2).andThen fun _ state files =>
                  ⟨.ok (), [.printed s!"Deleted {id}"], state, files⟩ := by
  rw [discard, bind_eq, run_bind, Program.run_ofExcept]
  cases StateFile.load source path with
  | error failure => simp
  | ok tracked =>
    rw [Transcript.andThen_ok, Transcript.after_nil]
    cases usable : tracked.usableId with
    | none => simp [usable]
    | some id =>
      dsimp only
      rw [usable, bind_eq, run_bind]
      refine Transcript.andThen_congr fun _ state files => ?_
      rw [bind_eq, run_bind]
      refine Transcript.andThen_congr fun _ state files => ?_
      rw [bind_eq, run_bind, Program.run_remember]
      rfl

/-- What an import prints, or why it fails, once the record set was looked up. -/
def shown (id : String) : Tracked × Option Remote → Except Failure Unit × List Event
  | (_, some remote) => (.ok (), [.printed remote.toJson.pretty])
  | (_, none) => (.error (.notThere id), [])

theorem run_takeOver (host : Host σ) (source files : Files) (environment : Environment)
    (globals : Globals) (id path : String) (state : σ) :
    (takeOver source environment globals id path).run host state files =
      match StateFile.load source path with
      | .error failure => ⟨.error failure, [], state, files⟩
      | .ok tracked =>
        ((connect globals environment).run host state files).andThen fun _ state files =>
          ((Reconcile.adopt id tracked).run host state files).andThen fun adopted state files =>
            ((Reconcile.refresh adopted.1).run host state files).andThen fun found state files =>
              ⟨(shown id found).1, (shown id found).2, state, files⟩ := by
  rw [takeOver, bind_eq, run_bind, Program.run_ofExcept]
  cases StateFile.load source path with
  | error failure => simp
  | ok tracked =>
    rw [Transcript.andThen_ok, Transcript.after_nil, bind_eq, run_bind]
    refine Transcript.andThen_congr fun _ state files => ?_
    rw [bind_eq, run_bind]
    refine Transcript.andThen_congr fun adopted state files => ?_
    obtain ⟨adopted, _⟩ := adopted
    dsimp only
    rw [bind_eq, run_bind]
    refine Transcript.andThen_congr fun found state files => ?_
    obtain ⟨tracked, _ | remote⟩ := found <;> rfl

end ReverseDns.CommandLine
