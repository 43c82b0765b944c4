import ReverseDns.Reconcile
import ReverseDns.Proofs.Runs

/-!
# What the operations do

Each operation on a record set makes one call and decides on its answer alone. The decisions are
functions of the answer; a run of an operation is given by one equation, over every service.

* `readAnswer`, `writeAnswer`, `deleteAnswer` -- what an operation makes of an answer
* `run_lookUp`, `run_refresh`, `run_write`, `run_createOrUpdate`, `run_remove`, `run_adopt` -- the
  runs of the operations
-/

namespace ReverseDns.Reconcile

open Program (run_bind bind_eq pure_eq)

variable {σ : Type}

/-! ## Failed calls -/

/-- Why an operation fails whose call failed. -/
def callFailure (attempt : Attempt) (status : Option Float) (cause : Option Thrown) : Failure :=
  if isTellable cause then .remote attempt status cause else .indescribable

/-- What is logged where an operation fails: only a failed call is. -/
def complaints : Failure → List Event
  | .remote attempt status cause => [.said .error (Failure.remote attempt status cause).message]
  | _ => []

theorem said_of_mem_complaints {failure : Failure} {event : Event}
    (member : event ∈ complaints failure) : ∃ level text, event = .said level text := by
  cases failure <;> simp only [complaints, List.mem_singleton, List.not_mem_nil] at member
  exact ⟨_, _, member⟩

/-- What is logged at the end of an operation. -/
def complaintsOf {α : Type} : Except Failure α → List Event
  | .ok _ => []
  | .error failure => complaints failure

@[simp] theorem complaintsOf_ok {α : Type} (result : α) :
    complaintsOf (.ok result : Except Failure α) = [] := rfl

@[simp] theorem complaintsOf_error {α : Type} (failure : Failure) :
    complaintsOf (.error failure : Except Failure α) = complaints failure := rfl

theorem run_failRemote {α : Type} (host : Host σ) (attempt : Attempt) (status : Option Float)
    (cause : Option Thrown) (state : σ) (files : Files) :
    (failRemote attempt status cause : Program α).run host state files =
      ⟨.error (callFailure attempt status cause), complaints (callFailure attempt status cause),
        state, files⟩ := by
  unfold failRemote callFailure
  split
  · simp [bind_eq, run_bind, complaints]
  · simp [complaints]

/-- The reply of an answer; what was thrown fails the attempt. -/
def replyOf (attempt : Attempt) : Answer → Except Failure Reply
  | .ok reply => .ok reply
  | .error thrown => .error (callFailure attempt none (some thrown))

theorem run_reply (host : Host σ) (attempt : Attempt) (request : Request) (state : σ)
    (files : Files) :
    (reply attempt request).run host state files =
      let response := host.service.serve request state
      ⟨replyOf attempt response.answer,
        callEvents request response ++ complaintsOf (replyOf attempt response.answer),
        response.state, files⟩ := by
  simp only [reply, bind_eq, run_bind, Program.run_call, Transcript.andThen_ok]
  cases (host.service.serve request state).answer with
  | ok answer => simp [replyOf, pure_eq]
  | error thrown => simp [replyOf, run_failRemote]

/-! ## Decisions -/

/-- What a look-up makes of an answer: a record set, or none where the status is 404. -/
def readAnswer (address : Address) (answer : Answer) : Except Failure (Option Remote) :=
  match replyOf (.reading address.recordName) answer with
  | .error failure => .error failure
  | .ok reply =>
    if reply.status == 404 then .ok none
    else if isSuccess reply.status then (remoteOf address reply.recordSet.get?).map some
    else .error (callFailure (.reading address.recordName) (some reply.status) reply.error)

/-- What a write makes of an answer: the ID of the record set, as it is written and as it is
read. -/
def writeAnswer (desired : Desired) (answer : Answer) : Except Failure (String × PtrRecordId) :=
  match replyOf (.writing desired.name) answer with
  | .error failure => .error failure
  | .ok reply =>
    if isSuccess reply.status then
      if reply.id.get?.getD "" = "" then
        .error (.badAnswer (.noIdAfterWrite desired.name desired.resourceGroupName))
      else (PtrRecordId.parse (reply.id.get?.getD "")).map fun id => (reply.id.get?.getD "", id)
    else .error (callFailure (.writing desired.name) (some reply.status) reply.error)

/-- What a deletion makes of an answer. -/
def deleteAnswer (recordName : String) (answer : Answer) : Except Failure Unit :=
  match replyOf (.deleting recordName) answer with
  | .error failure => .error failure
  | .ok reply =>
    if isSuccess reply.status then .ok ()
    else .error (callFailure (.deleting recordName) (some reply.status) reply.error)

/-- An answer that is of no use is not logged. -/
theorem complaintsOf_remoteOf (address : Address) (found : Option RecordSet) :
    complaintsOf (remoteOf address found) = [] := by
  unfold remoteOf
  split
  · rfl
  · split
    · rfl
    · split
      · rfl
      · split
        next failure flattened =>
          unfold Hostnames.flatten at flattened
          split at flattened
          · cases flattened
          · cases flattened
            rfl
        next => rfl

/-- A text that is no ID is not logged. -/
theorem complaintsOf_parse (text : String) : complaintsOf (PtrRecordId.parse text) = [] := by
  unfold PtrRecordId.parse ResourceId.parse
  split
  next failure parsed =>
    split at parsed
    · cases parsed
    · cases parsed
      rfl
  next => split <;> rfl

theorem complaintsOf_map {α β : Type} (outcome : Except Failure α) (f : α → β) :
    complaintsOf (outcome.map f) = complaintsOf outcome := by
  cases outcome <;> rfl

/-! ## Runs -/

theorem run_lookUp (host : Host σ) (address : Address) (state : σ) (files : Files) :
    (lookUp address).run host state files =
      let response := host.service.serve (.get address.ptr) state
      ⟨readAnswer address response.answer,
        callEvents (.get address.ptr) response ++
          complaintsOf (readAnswer address response.answer),
        response.state, files⟩ := by
  simp only [lookUp, bind_eq, run_bind, run_reply, readAnswer]
  cases replyOf (.reading address.recordName)
      (host.service.serve (.get address.ptr) state).answer with
  | error failure => simp
  | ok reply =>
    simp only [Transcript.andThen_ok, complaintsOf_ok, List.append_nil]
    split
    · simp [pure_eq]
    · split
      · have silent := complaintsOf_remoteOf address reply.recordSet.get?
        simp only [run_bind, Program.run_ofExcept, complaintsOf_map, silent]
        cases remoteOf address reply.recordSet.get? <;> simp [pure_eq, Except.map]
      · simp [run_failRemote]

/-- The line about a look-up. -/
def readingLine (id : PtrRecordId) : Event :=
  .said .debug s!"Reading DNS PTR record {id.recordName} in zone {id.zoneName}"

/-- The line about a record set that is gone. -/
def goneLine (id : PtrRecordId) : Event :=
  .said .warn (s!"DNS PTR record {id.recordName} (resource group {id.resourceGroup}) " ++
    "not found, removing from state")

/-- What is remembered once a record set was read. -/
def refreshed (tracked : Tracked) (remote : Remote) : Tracked :=
  { tracked with attributes := some (Attributes.ofRemote remote) }

/-- The run of a refresh whose call had an answer: the answer decides what is remembered. -/
def refreshEnd (host : Host σ) (tracked : Tracked) (id : PtrRecordId)
    (response : Response σ) (files : Files) : Transcript σ (Tracked × Option Remote) :=
  match readAnswer id.address response.answer with
  | .error failure => ⟨.error failure, complaints failure, response.state, files⟩
  | .ok none =>
    ⟨(host.home.keep .empty files).1.map fun _ => (.empty, none),
      [goneLine id, .saved .empty (host.home.keep .empty files).1],
      response.state, (host.home.keep .empty files).2⟩
  | .ok (some remote) =>
    ⟨(host.home.keep (refreshed tracked remote) files).1.map fun _ =>
        (refreshed tracked remote, some remote),
      [.saved (refreshed tracked remote) (host.home.keep (refreshed tracked remote) files).1],
      response.state, (host.home.keep (refreshed tracked remote) files).2⟩

theorem run_refresh (host : Host σ) (tracked : Tracked) (state : σ) (files : Files) :
    (refresh tracked).run host state files =
      match tracked.usableId with
      | none => ⟨.ok (tracked, none), [], state, files⟩
      | some text =>
        match PtrRecordId.parse text with
        | .error failure => ⟨.error failure, [], state, files⟩
        | .ok id =>
          let response := host.service.serve (.get id.address.ptr) state
          (refreshEnd host tracked id response files).after
            (readingLine id :: callEvents (.get id.address.ptr) response) := by
  cases usable : tracked.usableId with
  | none => simp [refresh, usable, pure_eq]
  | some text =>
    simp only [refresh, usable, bind_eq, run_bind, Program.run_ofExcept]
    cases parsed : PtrRecordId.parse text with
    | error failure => simp
    | ok id =>
      -- the answer decides alone: a failure, nothing, or a record set
      simp only [Transcript.andThen_ok, Program.run_tell, run_bind, run_lookUp, refreshEnd]
      cases readAnswer id.address (host.service.serve (.get id.address.ptr) state).answer with
      | error failure => simp [readingLine]
      | ok found =>
        cases found with
        | none =>
          simp only [Transcript.andThen_ok, Program.run_tell, run_bind, Program.run_remember]
          cases (host.home.keep .empty files).1 <;>
            simp [pure_eq, Except.map, readingLine, goneLine]
        | some remote =>
          simp only [Transcript.andThen_ok, run_bind, Program.run_remember, refreshed]
          cases (host.home.keep
            { tracked with attributes := some (Attributes.ofRemote remote) } files).1 <;>
            simp [pure_eq, Except.map, readingLine]

/-- The line about a write. -/
def writingLine (desired : Desired) : Event :=
  .said .info (s!"Creating or updating DNS PTR Record {desired.name} in zone {desired.zoneName} " ++
    s!"(resource group {desired.resourceGroupName})")

/-- The call that writes a record set. -/
def writeRequest (desired : Desired) (ifMatch : String) : Request :=
  .upsert desired.address.ptr desired.properties ifMatch ""

/-- What is remembered once a record set has an ID. -/
def identified (tracked : Tracked) (text : String) : Tracked := { tracked with id := some text }

theorem usableId_eq_some {tracked : Tracked} {text : String} :
    tracked.usableId = some text ↔ tracked.idText = text ∧ text ≠ "" := by
  rw [Tracked.usableId]
  split
  next empty =>
    constructor
    · exact fun found => nomatch found
    · rintro ⟨same, nonempty⟩
      exact absurd (same.symm.trans empty) nonempty
  next nonempty =>
    constructor
    · rintro ⟨⟩
      exact ⟨rfl, nonempty⟩
    · rintro ⟨rfl, -⟩
      rfl

theorem usableId_identified (tracked : Tracked) {text : String} (nonempty : text ≠ "") :
    (identified tracked text).usableId = some text :=
  usableId_eq_some.mpr ⟨rfl, nonempty⟩

/-- What a write makes of what was read back. -/
def readBack (desired : Desired) (id : PtrRecordId) :
    Tracked × Option Remote → Except Failure (Tracked × PtrRecordId)
  | (_, none) => .error (.badAnswer (.goneAfterWrite desired.name desired.resourceGroupName))
  | (tracked, some _) => .ok (tracked, id)

/-- The run of a write whose call had an answer: it remembers the ID and reads the record set back,
or fails. -/
def writeEnd (host : Host σ) (desired : Desired) (tracked : Tracked) (response : Response σ)
    (files : Files) : Transcript σ (Tracked × PtrRecordId) :=
  match writeAnswer desired response.answer with
  | .error failure => ⟨.error failure, complaints failure, response.state, files⟩
  | .ok (text, id) =>
    let kept := host.home.keep (identified tracked text) files
    (Transcript.mk kept.1 [.saved (identified tracked text) kept.1] response.state kept.2).andThen
      fun _ state files =>
        ((refresh (identified tracked text)).run host state files).andThen fun found state files =>
          ⟨readBack desired id found, [], state, files⟩

theorem run_write (host : Host σ) (desired : Desired) (tracked : Tracked) (state : σ)
    (files : Files) :
    (write desired tracked).run host state files =
      match expectedEtag desired tracked with
      | .error failure => ⟨.error failure, [], state, files⟩
      | .ok ifMatch =>
        let response := host.service.serve (writeRequest desired ifMatch) state
        (writeEnd host desired tracked response files).after
          (writingLine desired :: callEvents (writeRequest desired ifMatch) response) := by
  simp only [write, bind_eq, run_bind, Program.run_ofExcept]
  cases expectedEtag desired tracked with
  | error failure => simp
  | ok ifMatch =>
    simp only [Transcript.andThen_ok, Program.run_tell, run_bind, run_reply, writeEnd, writeAnswer,
      writeRequest]
    cases replyOf (.writing desired.name) (host.service.serve
        (.upsert desired.address.ptr desired.properties ifMatch "") state).answer with
    | error failure => simp [writingLine]
    | ok reply =>
      simp only [Transcript.andThen_ok, complaintsOf_ok, List.append_nil]
      split
      · split
        · simp [writingLine, complaints]
        · have silent := complaintsOf_parse (reply.id.get?.getD "")
          simp only [run_bind, Program.run_ofExcept]
          cases parsed : PtrRecordId.parse (reply.id.get?.getD "") with
          | error failure =>
            rw [parsed] at silent
            simp only [complaintsOf_error] at silent
            simp [writingLine, Except.map, silent]
          | ok id =>
            simp only [Transcript.andThen_ok, run_bind, Program.run_remember, Except.map]
            simp only [List.cons_append, List.nil_append, List.append_nil, Transcript.after_after, writingLine,
              identified]
            -- both sides now save the ID and refresh; they differ in how the read-back is written
            refine congrArg (Transcript.after _) (Transcript.andThen_congr fun _ state files => ?_)
            rw [run_bind]
            refine Transcript.andThen_congr fun found state files => ?_
            obtain ⟨tracked, _ | remote⟩ := found <;> rfl
      · simp [run_failRemote, writingLine]

theorem run_createOrUpdate (host : Host σ) (description : Option Json) (tracked : Tracked)
    (state : σ) (files : Files) :
    (createOrUpdate description tracked).run host state files =
      match Desired.ofJson description with
      | .error failure => ⟨.error failure, [], state, files⟩
      | .ok desired => (write desired tracked).run host state files := by
  simp only [createOrUpdate, bind_eq, run_bind, Program.run_ofExcept]
  cases Desired.ofJson description <;> simp

/-- The line about a deletion. -/
def deletingLine (id : PtrRecordId) : Event :=
  .said .info
    s!"Deleting DNS PTR Record {id.recordName} in zone {id.zoneName} (resource group {id.resourceGroup})"

theorem run_remove (host : Host σ) (tracked : Tracked) (state : σ) (files : Files) :
    (remove tracked).run host state files =
      match PtrRecordId.parse tracked.idText with
      | .error failure => ⟨.error failure, [], state, files⟩
      | .ok id =>
        let response := host.service.serve (.delete id.address.ptr "") state
        let outcome := deleteAnswer id.recordName response.answer
        ⟨outcome, deletingLine id :: callEvents (.delete id.address.ptr "") response ++
          complaintsOf outcome, response.state, files⟩ := by
  simp only [remove, bind_eq, run_bind, Program.run_ofExcept]
  cases PtrRecordId.parse tracked.idText with
  | error failure => simp
  | ok id =>
    simp only [Transcript.andThen_ok, Program.run_tell, run_bind, run_reply, deleteAnswer]
    cases replyOf (.deleting id.recordName)
        (host.service.serve (.delete id.address.ptr "") state).answer with
    | error failure => simp [deletingLine]
    | ok reply =>
      simp only [Transcript.andThen_ok, complaintsOf_ok, List.append_nil]
      split
      · simp [pure_eq, deletingLine]
      · simp [run_failRemote, deletingLine]

/-- The line about an import. -/
def importingLine (id : PtrRecordId) : Event :=
  .said .info s!"Importing DNS PTR Record {id.recordName} from zone {id.zoneName}"

theorem run_adopt (host : Host σ) (text : String) (tracked : Tracked) (state : σ) (files : Files) :
    (adopt text tracked).run host state files =
      match PtrRecordId.parse text with
      | .error failure => ⟨.error failure, [], state, files⟩
      | .ok id =>
        let kept := host.home.keep (identified tracked text) files
        ⟨kept.1.map fun _ => (identified tracked text, id),
          [importingLine id, .saved (identified tracked text) kept.1], state, kept.2⟩ := by
  simp only [adopt, bind_eq, run_bind, Program.run_ofExcept]
  cases PtrRecordId.parse text with
  | error failure => simp
  | ok id =>
    simp only [Transcript.andThen_ok, Program.run_tell, run_bind, Program.run_remember]
    simp only [identified]
    cases (host.home.keep { tracked with id := some (text : WideText) } files).1 <;>
      simp [pure_eq, Except.map, importingLine]

end ReverseDns.Reconcile
