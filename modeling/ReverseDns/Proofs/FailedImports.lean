import ReverseDns.Service.Memory
import ReverseDns.Proofs.Commands
import ReverseDns.Proofs.RecordIds
import ReverseDns.Proofs.Saving

/-!
# Imports that fail

An import writes the ID that it is given into the state file before it looks the record set up. It
is not taken back: an import that fails before the look-up is answered leaves the state file as it
was, one that fails afterwards leaves the new ID, or nothing where the record set does not exist.

* `Leftover` -- what an import that failed leaves in its state file
* `takeOver_leftover` -- the program of an import
* `leftover_of_failed_import` -- every command line that runs an import
-/

namespace ReverseDns.CommandLine

open Reconcile (identified refreshed readAnswer run_adopt run_refresh)

variable {σ : Type}

/-- What an import of `id` that failed leaves in the state file at `path`. -/
inductive Leftover (before after : Files) (path id : String) (events : List Event) : Prop where
  /-- No call was answered, and the state file is as it was. -/
  | unchanged (uncalled : ∀ request answer, .called request answer ∉ events)
      (text : after.text? path = before.text? path)
  /-- The record set does not exist, and nothing is tracked. -/
  | forgotten (parsed : PtrRecordId) (answer : Answer) (accepted : PtrRecordId.parse id = .ok parsed)
      (called : .called (.get parsed.address.ptr) answer ∈ events)
      (missing : readAnswer parsed.address answer = .ok none)
      (text : after.text? path = some (StateFile.render .empty))
  /-- The look-up failed, and the ID is tracked beside the attributes that were there. -/
  | adopted (tracked : Tracked) (parsed : PtrRecordId) (answer : Answer) (failure : Failure)
      (loaded : StateFile.load before path = .ok tracked)
      (accepted : PtrRecordId.parse id = .ok parsed)
      (called : .called (.get parsed.address.ptr) answer ∈ events)
      (refused : readAnswer parsed.address answer = .error failure)
      (text : after.text? path = some (StateFile.render (identified tracked id)))

/-- Of the events only the calls matter. -/
theorem Leftover.of_calls {before after : Files} {path id : String} {events others : List Event}
    (left : Leftover before after path id events)
    (same : ∀ request answer, .called request answer ∈ others ↔ .called request answer ∈ events) :
    Leftover before after path id others := by
  cases left with
  | unchanged uncalled text =>
    exact .unchanged (fun request answer => mt (same request answer).mp (uncalled request answer)) text
  | forgotten parsed answer accepted called missing text =>
    exact .forgotten parsed answer accepted ((same _ _).mpr called) missing text
  | adopted tracked parsed answer failure loaded accepted called refused text =>
    exact .adopted tracked parsed answer failure loaded accepted ((same _ _).mpr called) refused text

/-- The look-up of an ID that was just written into a state file: it succeeds, or it leaves the
state file without the ID or with it. -/
theorem refresh_leftover (host : Host σ) {before files : Files} {path id : String}
    {tracked : Tracked} {parsed : PtrRecordId} (home : host.home = .file path)
    (loaded : StateFile.load before path = .ok tracked)
    (accepted : PtrRecordId.parse id = .ok parsed)
    (text : files.text? path = some (StateFile.render (identified tracked id)))
    (writable : files.Accepts path) (state : σ) {failure : Failure}
    (failed : (((Reconcile.refresh (identified tracked id)).run host state files).andThen
      fun found state files => ⟨(shown id found).1, (shown id found).2, state, files⟩).result =
        .error failure) :
    let transcript := ((Reconcile.refresh (identified tracked id)).run host state files).andThen
      fun found state files => ⟨(shown id found).1, (shown id found).2, state, files⟩
    Leftover before transcript.files path id transcript.events := by
  have usable := Reconcile.usableId_identified tracked (PtrRecordId.ne_empty_of_parse accepted)
  rw [run_refresh, usable] at failed ⊢
  simp only [accepted, Reconcile.refreshEnd, home] at failed ⊢
  cases read : readAnswer parsed.address (host.service.serve (.get parsed.address.ptr) state).answer with
  | error reason =>
    simp only [Transcript.after_mk, Transcript.andThen_error]
    exact .adopted tracked parsed _ reason loaded accepted (by simp [callEvents]) read text
  | ok found =>
    cases found with
    | none =>
      obtain ⟨after, kept, rendered, -⟩ := StateFile.keep_of_accepts writable .empty
      simp only [kept, Except.map, Transcript.after_mk, Transcript.andThen_ok]
      exact .forgotten parsed _ accepted (by simp [callEvents]) read rendered
    | some remote =>
      obtain ⟨after, kept, -⟩ :=
        StateFile.keep_of_accepts writable (refreshed (identified tracked id) remote)
      rw [read] at failed
      simp only [kept, Except.map, Transcript.after_mk, Transcript.andThen_ok, shown] at failed
      cases failed

/-- What the program of an import that failed leaves. -/
theorem takeOver_leftover (host : Host σ) (files : Files) (environment : Environment)
    (globals : Globals) (id path : String) (home : host.home = .file path) (state : σ)
    {failure : Failure} (failed : ((takeOver files environment globals id path).run host state
      files).result = .error failure) :
    let transcript := (takeOver files environment globals id path).run host state files
    Leftover files transcript.files path id transcript.events := by
  rw [run_takeOver] at failed ⊢
  cases loaded : StateFile.load files path with
  | error reason => exact .unchanged (by simp) rfl
  | ok tracked =>
    rw [loaded] at failed
    obtain ⟨same, uncalled⟩ := connect_calls_nothing host globals environment state files
    rcases connected : (connect globals environment).run host state files with
      ⟨result, events, later, between⟩
    rw [connected] at same uncalled
    subst same
    cases result with
    | error reason => exact .unchanged uncalled rfl
    | ok done =>
      simp only [connected, Transcript.andThen_ok, run_adopt] at failed ⊢
      cases accepted : PtrRecordId.parse id with
      | error reason => exact .unchanged (by simpa using uncalled) rfl
      | ok parsed =>
        simp only [accepted, home] at failed ⊢
        rcases kept : (Home.file path).keep (identified tracked id) between with ⟨outcome, after⟩
        rw [kept] at failed
        cases outcome with
        | error reason =>
          -- what cannot be written had no text before
          obtain ⟨before, later⟩ := StateFile.text?_of_failed_keep kept
          simp only [Except.map, Transcript.andThen_error]
          refine .unchanged (fun request answer member => ?_) (later.trans before.symm)
          rcases List.mem_append.mp member with member | member
          · exact uncalled request answer member
          · simp [Reconcile.importingLine] at member
        | ok done =>
          obtain ⟨text, writable⟩ := StateFile.accepts_of_keep kept
          simp only [Except.map, Transcript.andThen_ok, Transcript.result_after] at failed ⊢
          have left := refresh_leftover host home loaded accepted text writable later failed
          refine left.of_calls fun request answer => ?_
          simp [uncalled request answer, Reconcile.importingLine]

/-- A command line that runs an import and exits with a code other than 0 leaves the state file as
it was, unless the look-up of the accepted ID was answered: with the record set's absence, then
nothing is tracked, or with another failure, then the ID is tracked beside the attributes that were
there. -/
theorem leftover_of_failed_import {words : List String} {globals : Globals} {id path : String}
    (invoked : Invocation.ofWords words = .run globals (.adopt id path)) (service : Service σ)
    (number : Nat) (environment : Environment) (files : Files) (state : σ)
    (failed : (execute service number environment words files state).exitCode ≠ 0) :
    let finished := execute service number environment words files state
    Leftover files finished.files path id finished.events := by
  rw [execute_of_run invoked] at failed ⊢
  dsimp only at failed ⊢
  cases result : ((Command.adopt id path).program files environment globals |>.run
      (hostOf service number (.adopt id path)) state files).result with
  | ok done =>
    rw [result] at failed
    exact absurd rfl failed
  | error failure =>
    have left := takeOver_leftover (hostOf service number (.adopt id path)) files environment
      globals id path rfl state result
    refine left.of_calls fun request answer => ?_
    simp [lastLine, complaintLine, Command.program]

/-- A working directory in which the state file `s` tracks a record set `a`. -/
def trackingFiles : Files :=
  { nodes := [(["s"], .text (StateFile.render
      { id := some "/subscriptions/s/resourceGroups/g/dnszones/z/PTR/a" }))] }

/-- The words that import a record set `b`. -/
def importWords : List String :=
  ["import", "/subscriptions/s/resourceGroups/g/dnszones/z/PTR/b", "-s", "s"]

/-- The import of a record set that does not exist fails, and what was left is known. -/
theorem leftover_of_absent_record :
    let finished := execute Memory.service 0 [] importWords trackingFiles {}
    Leftover trackingFiles finished.files "s"
      "/subscriptions/s/resourceGroups/g/dnszones/z/PTR/b" finished.events :=
  have invoked : Invocation.ofWords importWords =
      .run {} (.adopt "/subscriptions/s/resourceGroups/g/dnszones/z/PTR/b" "s") := by decide +kernel
  leftover_of_failed_import invoked Memory.service 0 [] trackingFiles {} (by decide +kernel)

/-- The import of a record set that does not exist forgets the one that was tracked. -/
theorem failed_import_forgets :
    (execute Memory.service 0 [] importWords trackingFiles {}).exitCode ≠ 0 ∧
      (StateFile.load trackingFiles "s").toOption.map Tracked.idText =
        some "/subscriptions/s/resourceGroups/g/dnszones/z/PTR/a" ∧
      (StateFile.load (execute Memory.service 0 [] importWords trackingFiles {}).files
        "s").toOption.map Tracked.idText = some "" := by
  decide +kernel

end ReverseDns.CommandLine
