import ReverseDns.Proofs.Replacement
import ReverseDns.Proofs.Snapshots

/-!
# Deletions from the command line

A run of `destroy` forgets what is tracked if and only if the service confirmed the deletion. It
makes one call at most, a deletion of the tracked record set whatever its etag; where that is not
confirmed, no file changes.

* `Discarded` -- the two ways in which a run ends
* `discarded` -- every run on every service ends in one of them
* `discarded_memory` -- on the memory, the tracked record set goes and the others stay
* `forgets_if_confirmed` -- both
-/

namespace ReverseDns.CommandLine

open Reconcile (deleteAnswer deletingLine deleteAnswer_eq_ok)

variable {σ : Type}

/-! ## Two ways to end -/

/-- How a run of `destroy` ends, with a state file at `path`. -/
inductive Discarded (files : Files) (path : String) (finished : Finished σ) : Prop where
  /-- The service confirmed the deletion of the tracked record set, the only call that was made, and
  the state file tracks nothing any more. -/
  | forgotten (tracked : Tracked) (id : PtrRecordId) (reply : Reply)
      (loaded : StateFile.load files path = .ok tracked)
      (parsed : PtrRecordId.parse tracked.idText = .ok id)
      (exitCode : finished.exitCode = 0)
      (calls : exchanges finished.events = [(.delete id.address.ptr "", .ok reply)])
      (confirmed : isSuccess reply.status = true)
      (text : finished.files.text? path = some (StateFile.render .empty))
      (empty : StateFile.load finished.files path = .ok .empty)
  /-- The service confirmed nothing, and all files are as they were. -/
  | kept (exitCode : finished.exitCode = 1) (same : finished.files = files)
      (unconfirmed : ∀ request reply, (request, .ok reply) ∈ exchanges finished.events →
        isSuccess reply.status = false)

theorem discarded_of_uncalled {files : Files} {path : String} {failure : Failure}
    {events : List Event} (uncalled : exchanges events = []) (state : σ) :
    Discarded files path (finishedOf .destroy ⟨.error failure, events, state, files⟩) :=
  .kept rfl rfl (by simp [uncalled])

/-! ## Runs -/

/-- Once a run is connected, the answer to its call decides. -/
theorem discarded_of_connected {host : Host σ} {files : Files} {path : String} {tracked : Tracked}
    (home : host.home = .file path) (loaded : StateFile.load files path = .ok tracked)
    (config : Config) (line : String) (state : σ) :
    Discarded files path (finishedOf .destroy
      ((((Reconcile.remove tracked).run host state files).andThen fun _ state files =>
        (Transcript.mk (host.home.keep .empty files).1
          [.saved .empty (host.home.keep .empty files).1] state
          (host.home.keep .empty files).2).andThen fun _ state files =>
            ⟨.ok (), [.printed line], state, files⟩).after [.connected config])) := by
  rw [Reconcile.run_remove]
  cases parsed : PtrRecordId.parse tracked.idText with
  | error failure => exact discarded_of_uncalled rfl state
  | ok id =>
    obtain ⟨after, kept, text, -⟩ :=
      StateFile.keep_of_accepts (accepts_of_parse loaded parsed) .empty
    dsimp only
    cases deleted : deleteAnswer id.recordName
        (host.service.serve (.delete id.address.ptr "") state).answer with
    | error failure =>
      rw [Transcript.andThen_error, Transcript.after_mk]
      refine .kept rfl rfl fun request reply called => ?_
      have answered :
          (host.service.serve (.delete id.address.ptr "") state).answer = .ok reply := by
        simp only [exchanges_append, List.cons_append, List.nil_append, exchanges_connected,
          deletingLine, exchanges_said, exchanges_callEvents, Reconcile.complaintsOf_error,
          exchanges_complaints, exchanges_lastLine, List.append_nil, List.mem_singleton,
          Prod.mk.injEq] at called
        exact called.2.symm
      rw [answered] at deleted
      -- a success would have let the run go on
      cases confirmed : isSuccess reply.status with
      | true => cases deleted.symm.trans (deleteAnswer_eq_ok.mpr ⟨reply, rfl, confirmed⟩)
      | false => rfl
    | ok done =>
      obtain ⟨reply, answered, confirmed⟩ := deleteAnswer_eq_ok.mp deleted
      rw [home, Transcript.andThen_ok, kept, Transcript.andThen_ok]
      refine .forgotten tracked id reply loaded parsed rfl ?_ confirmed text
        (StateFile.load_of_text Tracked.storable_empty text)
      simp [deletingLine, answered]

/-- A run of `destroy` forgets what is tracked if and only if the service confirmed its deletion. -/
theorem discarded {words : List String} {globals : Globals} {path : String}
    (invoked : Invocation.ofWords words = .run globals (.destroy path)) (service : Service σ)
    (number : Nat) (environment : Environment) (files : Files) (state : σ) :
    Discarded files path (execute service number environment words files state) := by
  rw [execute_of_run invoked]
  show Discarded files path (finishedOf .destroy ((discard files environment globals path).run
    (hostOf service number (.destroy path)) state files))
  rw [run_discard]
  cases loaded : StateFile.load files path with
  | error failure => exact discarded_of_uncalled rfl state
  | ok tracked =>
    dsimp only
    cases tracked.usableId with
    | none => exact discarded_of_uncalled rfl state
    | some id =>
      dsimp only
      rw [run_connect]
      cases Config.resolve globals.settings environment with
      | error failure => exact discarded_of_uncalled rfl state
      | ok config =>
        dsimp only
        rcases (hostOf service number (.destroy path)).service.prepare
          (hostOf service number (.destroy path)).number config state with ⟨failure | _, state⟩
        · exact discarded_of_uncalled rfl state
        · exact discarded_of_connected rfl loaded config _ state

/-- On the memory a record set that is tracked is deleted, and no other one changes. -/
theorem discarded_memory {words : List String} {globals : Globals} {path : String}
    (invoked : Invocation.ofWords words = .run globals (.destroy path)) (number : Nat)
    (environment : Environment) {files : Files} {tracked : Tracked} {id : PtrRecordId}
    (loaded : StateFile.load files path = .ok tracked)
    (parsed : PtrRecordId.parse tracked.idText = .ok id) (memory : Memory) :
    let finished := execute Memory.service number environment words files memory
    finished.exitCode = 0 ∧ finished.state.find? id.address.ptr = none ∧
      ∀ key, Memory.recordKey key ≠ Memory.recordKey id.address.ptr →
        finished.state.find? key = memory.find? key := by
  obtain ⟨config, resolved⟩ := resolve_of_run invoked environment
  obtain ⟨status, after, deleted, success, -, -, found⟩ :=
    memory.delete_unconditional id.address.ptr
  obtain ⟨between, kept, -⟩ := StateFile.keep_of_accepts (accepts_of_parse loaded parsed) .empty
  have usable : tracked.usableId = some tracked.idText :=
    Reconcile.usableId_eq_some.mpr ⟨rfl, PtrRecordId.ne_empty_of_parse parsed⟩
  have connected : (connect globals environment).run (memoryHost path number) memory files =
      ⟨.ok (), [.connected config], memory, files⟩ := by
    rw [run_connect, resolved]
    rfl
  have ran := run_discard (memoryHost path number) files files environment globals path memory
  rw [loaded] at ran
  simp only [usable, connected, Transcript.andThen_ok,
    run_remove_memory number path files parsed deleted success, kept] at ran
  rw [execute_of_run invoked]
  intro finished
  have same : finished = finishedOf .destroy ((discard files environment globals path).run
    (memoryHost path number) memory files) := rfl
  rw [same, ran]
  refine ⟨rfl, (found _).trans (if_pos rfl), fun key other => (found key).trans (if_neg other)⟩

/-- A run of `destroy` forgets what is tracked if and only if the service confirmed the deletion of
it, and on the memory it always succeeds: the tracked record set goes and the others stay. -/
theorem forgets_if_confirmed {words : List String} {globals : Globals} {path : String}
    (invoked : Invocation.ofWords words = .run globals (.destroy path)) (service : Service σ)
    (number : Nat) (environment : Environment) (files : Files) (state : σ) :
    Discarded files path (execute service number environment words files state) ∧
      ∀ memory tracked id, StateFile.load files path = .ok tracked →
        PtrRecordId.parse tracked.idText = .ok id →
        let finished := execute Memory.service number environment words files memory
        finished.exitCode = 0 ∧ finished.state.find? id.address.ptr = none ∧
          ∀ key, Memory.recordKey key ≠ Memory.recordKey id.address.ptr →
            finished.state.find? key = memory.find? key :=
  ⟨discarded invoked service number environment files state, fun memory _ _ loaded parsed =>
    discarded_memory invoked number environment loaded parsed memory⟩

/-- A record set that is tracked is deleted and forgotten. -/
theorem forgets_b :
    let finished := execute Memory.service 0 [] ["destroy", "-s", "s"] describedFiles holdingB
    (holdingB.find? idB.address.ptr).isSome = true ∧ Discarded describedFiles "s" finished ∧
      finished.exitCode = 0 ∧ finished.state.find? idB.address.ptr = none := by
  have invoked : Invocation.ofWords ["destroy", "-s", "s"] = .run {} (.destroy "s") := by
    decide +kernel
  have parsed : PtrRecordId.parse trackedB.idText = .ok idB := by
    rw [described_evaluated.2.2.1.2.2]
    rfl
  obtain ⟨ends, onMemory⟩ :=
    forgets_if_confirmed invoked Memory.service 0 [] describedFiles holdingB
  obtain ⟨exitCode, gone, -⟩ := onMemory holdingB trackedB idB applicable_trackedB.loaded parsed
  exact ⟨by decide +kernel, ends, exitCode, gone⟩

end ReverseDns.CommandLine
