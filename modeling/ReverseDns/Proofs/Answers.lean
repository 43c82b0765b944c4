import ReverseDns.Proofs.Operations

/-!
# Answers

What an operation makes of an answer, told by what the answer says: the call failed, the record set
is not there, it was written, deleted or read. Where a run goes on depends on no more than this.

* `Failed`, `failureOf` -- the answers that fail a call, and why an operation fails then
* `Accepted`, `Gone` -- the answers to a write that was made, and to a look-up of what is not there
* `readAnswer_eq_none`, `readAnswer_eq_some`, `writeAnswer_eq_ok`, `deleteAnswer_eq_ok` -- exactly
  these answers let an operation go on
* `remoteOf_eq_ok` -- what is read of a record set
-/

namespace ReverseDns

open Reconcile (callFailure replyOf readAnswer writeAnswer deleteAnswer)

theorem Part.get?_eq_some {α : Type} {part : Part α} {value : α} :
    part.get? = some value ↔ part = .given value := by
  cases part <;> simp [get?]

theorem map_eq_ok {ε α β : Type} {outcome : Except ε α} {f : α → β} {result : β} :
    outcome.map f = .ok result ↔ ∃ found, outcome = .ok found ∧ f found = result := by
  cases outcome <;> simp [Except.map]

/-! ## Answers that fail a call -/

/-- A call failed: the service threw, or it reported a status that is neither a success nor, where a
record set is read, the absence of it. -/
inductive Failed (request : Request) : Answer → Prop where
  | threw (thrown : Thrown) : Failed request (.error thrown)
  | refused (reply : Reply) (unsuccessful : isSuccess reply.status = false)
      (present : ∀ key, request = .get key → (reply.status == 404) = false) :
      Failed request (.ok reply)

/-- The status that a service reports. -/
def reportedStatus : Answer → Option Float
  | .ok reply => some reply.status
  | .error _ => none

/-- What goes with an answer that fails a call, or what was thrown in its place. -/
def causeOf : Answer → Option Thrown
  | .ok reply => reply.error
  | .error thrown => some thrown

/-- The attempt that a call is. -/
def attemptOf : Request → Attempt
  | .upsert key _ _ _ => .writing key.recordName
  | .get key => .reading key.recordName
  | .delete key _ => .deleting key.recordName

/-- Why an operation fails one of whose calls failed. -/
def failureOf (request : Request) (answer : Answer) : Failure :=
  callFailure (attemptOf request) (reportedStatus answer) (causeOf answer)

theorem Failed.readAnswer_eq {address : Address} {answer : Answer}
    (failed : Failed (.get address.ptr) answer) :
    readAnswer address answer = .error (failureOf (.get address.ptr) answer) := by
  cases failed with
  | threw thrown => rfl
  | refused reply unsuccessful present =>
    simp only [readAnswer, replyOf, present _ rfl, unsuccessful, Bool.false_eq_true, if_false]
    rfl

theorem Failed.writeAnswer_eq {desired : Desired} {ifMatch : String} {answer : Answer}
    (failed : Failed (Reconcile.writeRequest desired ifMatch) answer) :
    writeAnswer desired answer =
      .error (failureOf (Reconcile.writeRequest desired ifMatch) answer) := by
  cases failed with
  | threw thrown => rfl
  | refused reply unsuccessful present =>
    simp only [writeAnswer, replyOf, unsuccessful, Bool.false_eq_true, if_false]
    rfl

theorem Failed.deleteAnswer_eq {address : Address} {answer : Answer}
    (failed : Failed (.delete address.ptr "") answer) :
    deleteAnswer address.recordName answer =
      .error (failureOf (.delete address.ptr "") answer) := by
  cases failed with
  | threw thrown => rfl
  | refused reply unsuccessful present =>
    simp only [deleteAnswer, replyOf, unsuccessful, Bool.false_eq_true, if_false]
    rfl

namespace Reconcile

/-! ## Answers that let an operation go on -/

/-- A record set was written: the status is a success, and the ID beside it can be read. -/
structure Accepted (answer : Answer) (text : String) (id : PtrRecordId) : Prop where
  answered : ∃ reply, answer = .ok reply ∧ isSuccess reply.status = true ∧ reply.id = .given text
  nonempty : text ≠ ""
  readable : PtrRecordId.parse text = .ok id

/-- A record set does not exist. -/
def Gone (answer : Answer) : Prop := ∃ reply, answer = .ok reply ∧ (reply.status == 404) = true

theorem writeAnswer_eq_ok {desired : Desired} {answer : Answer} {text : String}
    {id : PtrRecordId} :
    writeAnswer desired answer = .ok (text, id) ↔ Accepted answer text id := by
  constructor
  · intro written
    cases answer with
    | error thrown => cases written
    | ok reply =>
      simp only [writeAnswer, replyOf] at written
      split at written
      next success =>
        split at written
        next => cases written
        next nonempty =>
          obtain ⟨found, parsed, equal⟩ := map_eq_ok.mp written
          cases equal
          cases given : reply.id with
          | absent | null => simp [given, Part.get?] at nonempty
          | given named =>
            rw [given] at parsed nonempty
            exact ⟨⟨reply, rfl, success, given⟩, nonempty, parsed⟩
      next => cases written
  · rintro ⟨⟨reply, rfl, success, given⟩, nonempty, readable⟩
    simp [writeAnswer, replyOf, success, given, Part.get?, nonempty, readable, Except.map]

theorem deleteAnswer_eq_ok {recordName : String} {answer : Answer} :
    deleteAnswer recordName answer = .ok () ↔
      ∃ reply, answer = .ok reply ∧ isSuccess reply.status = true := by
  cases answer with
  | error thrown => simp [deleteAnswer, replyOf]
  | ok reply => simp [deleteAnswer, replyOf]

theorem readAnswer_eq_none {address : Address} {answer : Answer} :
    readAnswer address answer = .ok none ↔ Gone answer := by
  cases answer with
  | error thrown => simp [readAnswer, replyOf, Gone]
  | ok reply =>
    simp only [readAnswer, replyOf, Gone, Except.ok.injEq, exists_eq_left']
    split
    next missing => simp [missing]
    next present =>
      split
      next => simp [map_eq_ok, present]
      next => simp [present]

theorem readAnswer_eq_some {address : Address} {answer : Answer} {remote : Remote} :
    readAnswer address answer = .ok (some remote) ↔
      ∃ reply, answer = .ok reply ∧ ¬(reply.status == 404) = true ∧
        isSuccess reply.status = true ∧ remoteOf address reply.recordSet.get? = .ok remote := by
  cases answer with
  | error thrown => simp [readAnswer, replyOf]
  | ok reply =>
    simp only [readAnswer, replyOf, Except.ok.injEq, exists_eq_left']
    split
    next missing => simp [missing]
    next present =>
      split
      next success => simp [map_eq_ok, present, success]
      next refused => simp [refused]

/-- A record set that was read: its parts are those that were returned. -/
theorem remoteOf_eq_ok {address : Address} {found : Option RecordSet} {remote : Remote}
    (read : remoteOf address found = .ok remote) :
    remote.address = address ∧ ∃ recordSet, found = some recordSet ∧
      ttlOf recordSet = some remote.ttl ∧ remote.etag = recordSet.etag.get?.getD "" ∧
      remote.tags = recordSet.metadata.get?.getD [] := by
  unfold remoteOf at read
  split at read
  next => cases read
  next recordSet id given =>
    split at read
    next => cases read
    next =>
      split at read
      next => cases read
      next ttl =>
        split at read
        next => cases read
        next =>
          cases read
          refine ⟨rfl, recordSet, ?_, ttl, rfl, rfl⟩
          cases found with
          | none => cases given
          | some original =>
            obtain ⟨_, -, equal⟩ := Option.map_eq_some_iff.mp given
            cases equal
            rfl

end Reconcile

end ReverseDns
