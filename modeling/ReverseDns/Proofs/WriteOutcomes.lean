import ReverseDns.Proofs.Saving
import ReverseDns.Proofs.Tracking

/-!
# The ways in which a write ends

A description that is written leaves what is remembered in one of four ways: as it was, forgotten,
with a new ID beside the old attributes, or with a new ID and the attributes that were read back.
Which one it is, and which calls are made for it, is decided by the description, by what was
remembered, and by the answers to the two calls.

* `Complete`, `ReadFrom` -- what an answer to a look-up says, and what is read of it
* `complete_of_readAnswer`, `exists_readAnswer` -- exactly such answers are read
* `Outcome` -- the ways in which a write ends
* `createOrUpdate_outcome` -- every write ends in one of them
-/

namespace ReverseDns

/-- Where something was written down, something else can be written down after it. -/
theorem Home.keep_again {home : Home} {first : Tracked} {files after : Files}
    (kept : home.keep first files = (.ok (), after)) (second : Tracked) :
    (home.keep second after).1 = .ok () := by
  cases home with
  | memory => rfl
  | file path =>
    obtain ⟨-, accepted⟩ := StateFile.accepts_of_keep kept
    obtain ⟨later, again, -⟩ := StateFile.keep_of_accepts accepted second
    rw [again]

/-- Every entry whose host name was collected has one. -/
theorem Hostnames.named_of_flatten {items : List Entry} {records : List Hostname}
    (read : flatten items = .ok records) :
    ∀ item ∈ items, ∃ name, item.hostname = .given name ∧ name ≠ "" := by
  have collected : ∃ names, items.mapM ofEntry? = some names := by
    unfold flatten at read
    split at read
    next names collected => exact ⟨names, collected⟩
    next => cases read
  clear read
  obtain ⟨names, collected⟩ := collected
  induction items generalizing names with
  | nil => nofun
  | cons item items inductionHypothesis =>
    simp only [List.mapM_cons, Option.bind_eq_bind, Option.pure_def, Option.bind_eq_some_iff,
      Option.some.injEq] at collected
    obtain ⟨name, first, others, rest, -⟩ := collected
    exact List.forall_mem_cons.mpr
      ⟨⟨name, ofEntry?_eq_some.mp first⟩, inductionHypothesis others rest⟩

namespace Reconcile

/-! ## Answers to look-ups -/

/-- A record set was returned with all that is needed: an ID, a TTL, which may be `null`, and a host
name in every entry. -/
structure Complete (answer : Answer) (recordSet : RecordSet) : Prop where
  answered : ∃ reply, answer = .ok reply ∧ isSuccess reply.status = true ∧
    reply.recordSet = .given recordSet
  id : ∃ id, recordSet.id = .given id ∧ id ≠ ""
  ttl : recordSet.ttl ≠ .absent
  named : ∀ entry ∈ recordSet.entries.get?.getD [],
    ∃ name, entry.hostname = .given name ∧ name ≠ ""

/-- What is read of a record set: the names by which it was asked for, and the parts that were
returned. The host names are distinct and in order. -/
structure ReadFrom (address : Address) (recordSet : RecordSet) (remote : Remote) : Prop where
  address : remote.address = address
  ttl : ttlOf recordSet = some remote.ttl
  etag : remote.etag = recordSet.etag.get?.getD ""
  tags : remote.tags = recordSet.metadata.get?.getD []
  increasing : remote.records.Pairwise (· < ·)
  hostnames : ∀ name, name ∈ remote.records ↔
    ∃ entry ∈ recordSet.entries.get?.getD [], entry.hostname = .given name

/-- A record set that was read was returned with all that is needed. -/
theorem complete_of_readAnswer {address : Address} {answer : Answer} {remote : Remote}
    (read : readAnswer address answer = .ok (some remote)) :
    ∃ recordSet, Complete answer recordSet ∧ ReadFrom address recordSet remote := by
  obtain ⟨reply, rfl, -, success, described⟩ := readAnswer_eq_some.mp read
  cases returned : reply.recordSet with
  | absent | null => simp [returned, Part.get?, remoteOf] at described
  | given recordSet =>
    refine ⟨recordSet, ?_⟩
    rw [returned] at described
    unfold remoteOf at described
    split at described
    next => cases described
    next found id given =>
      obtain ⟨text, hasId, equal⟩ := Option.map_eq_some_iff.mp given
      cases equal
      split at described
      next => cases described
      next nonempty =>
        split at described
        next => cases described
        next ttl hasTtl =>
          split at described
          next => cases described
          next records flattened =>
            cases described
            obtain ⟨increasing, hostnames⟩ := Hostnames.flatten_eq_ok flattened
            exact ⟨{
              answered := ⟨reply, rfl, success, returned⟩
              id := ⟨id, Part.get?_eq_some.mp hasId, nonempty⟩
              ttl := fun absent => by simp [ttlOf, absent] at hasTtl
              named := Hostnames.named_of_flatten flattened },
              { address := rfl, ttl := hasTtl, etag := rfl, tags := rfl, increasing, hostnames }⟩

/-- A record set that was returned with all that is needed is read. -/
theorem exists_readAnswer {answer : Answer} {recordSet : RecordSet} (found : ¬Gone answer)
    (complete : Complete answer recordSet) (address : Address) :
    ∃ remote, readAnswer address answer = .ok (some remote) := by
  obtain ⟨⟨reply, rfl, success, returned⟩, ⟨id, hasId, nonempty⟩, hasTtl, named⟩ := complete
  have present : ¬(reply.status == 404) = true := fun missing => found ⟨reply, rfl, missing⟩
  have ttl : ∃ ttl, ttlOf recordSet = some ttl := by
    unfold ttlOf
    cases given : recordSet.ttl with
    | absent => exact absurd given hasTtl
    | null | given ttl => exact ⟨_, rfl⟩
  obtain ⟨ttl, isTtl⟩ := ttl
  obtain ⟨records, flattened⟩ := Hostnames.flatten_of_named fun entry member => by
    obtain ⟨name, given, some⟩ := named entry member
    simp [Hostnames.IsNamed, Hostnames.ofEntry?, given, some]
  have described : ∃ remote, remoteOf address reply.recordSet.get? = .ok remote := by
    simp only [remoteOf, Part.get?_eq_some.mpr returned, Part.get?_eq_some.mpr hasId,
      Option.bind_some, Option.map_some, nonempty, isTtl, flattened, if_false]
    exact ⟨_, rfl⟩
  obtain ⟨remote, described⟩ := described
  exact ⟨remote, readAnswer_eq_some.mpr ⟨reply, rfl, present, success, described⟩⟩

/-! ## Ways to end -/

/-- The call that writes a description: it is accepted, and the etag that the record set has to have
is known. -/
def Writes (description : Option Json) (tracked : Tracked) (request : Request) : Prop :=
  ∃ desired ifMatch, Desired.ofJson description = .ok desired ∧
    expectedEtag desired tracked = .ok ifMatch ∧ request = writeRequest desired ifMatch

variable {σ : Type}

/-- The answer with which a record set is read back, after the call that writes it. -/
def answerBack (host : Host σ) (state : σ) (request : Request) (id : PtrRecordId) : Answer :=
  (host.service.serve (.get id.address.ptr) (host.service.serve request state).state).answer

/-- A record set was written, and its ID was written down. -/
structure Saves (host : Host σ) (tracked : Tracked) (state : σ) (files : Files) (request : Request)
    (text : String) (id : PtrRecordId) : Prop where
  accepted : Accepted (host.service.serve request state).answer text id
  kept : (host.home.keep (identified tracked text) files).1 = .ok ()

/-- How a description is written on a host, from a state with files and from what is remembered:
the calls that are made, what is remembered afterwards, and the result. -/
inductive Outcome (host : Host σ) (description : Option Json) (tracked : Tracked) (state : σ)
    (files : Files) : List Request → Tracked → Except Failure PtrRecordId → Prop where
  /-- The description is not accepted. -/
  | invalid {failure : Failure} (invalid : Desired.ofJson description = .error failure) :
      Outcome host description tracked state files [] tracked (.error failure)
  /-- The etag is to be the cached one, and the ID that is remembered cannot be read. -/
  | unreadable {desired : Desired} {text : String} {failure : Failure}
      (valid : Desired.ofJson description = .ok desired) (unspecified : desired.etag = none)
      (usable : tracked.usableId = some text)
      (unreadable : PtrRecordId.parse text = .error failure) :
      Outcome host description tracked state files [] tracked (.error failure)
  /-- The record set is not written, or its ID cannot be read. -/
  | unwritten {request : Request} {failure : Failure} (writes : Writes description tracked request)
      (rejected : ∀ text id, ¬Accepted (host.service.serve request state).answer text id) :
      Outcome host description tracked state files [request] tracked (.error failure)
  /-- The ID cannot be written down. -/
  | unsaved {request : Request} {text : String} {id : PtrRecordId} {failure : Failure}
      (writes : Writes description tracked request)
      (accepted : Accepted (host.service.serve request state).answer text id)
      (refused : (host.home.keep (identified tracked text) files).1 = .error failure) :
      Outcome host description tracked state files [request] (identified tracked text)
        (.error failure)
  /-- The record set does not exist when it is read back. -/
  | gone {request : Request} {text : String} {id : PtrRecordId} {failure : Failure}
      (writes : Writes description tracked request)
      (saves : Saves host tracked state files request text id)
      (gone : Gone (answerBack host state request id)) :
      Outcome host description tracked state files [request, .get id.address.ptr] .empty
        (.error failure)
  /-- The record set cannot be read back. -/
  | unread {request : Request} {text : String} {id : PtrRecordId} {failure : Failure}
      (writes : Writes description tracked request)
      (saves : Saves host tracked state files request text id)
      (found : ¬Gone (answerBack host state request id))
      (incomplete : ∀ recordSet, ¬Complete (answerBack host state request id) recordSet) :
      Outcome host description tracked state files [request, .get id.address.ptr]
        (identified tracked text) (.error failure)
  /-- The record set is written and read back. -/
  | written {request : Request} {text : String} {id : PtrRecordId} {recordSet : RecordSet}
      {remote : Remote} (writes : Writes description tracked request)
      (saves : Saves host tracked state files request text id)
      (found : ¬Gone (answerBack host state request id))
      (complete : Complete (answerBack host state request id) recordSet)
      (read : ReadFrom id.address recordSet remote) :
      Outcome host description tracked state files [request, .get id.address.ptr]
        (refreshed (identified tracked text) remote) (.ok id)

theorem expectedEtag_eq_error {desired : Desired} {tracked : Tracked} {failure : Failure}
    (failed : expectedEtag desired tracked = .error failure) :
    desired.etag = none ∧ ∃ text, tracked.usableId = some text ∧
      PtrRecordId.parse text = .error failure := by
  unfold expectedEtag at failed
  split at failed
  next => cases failed
  next unspecified =>
    refine ⟨unspecified, ?_⟩
    unfold trackedEtag at failed
    split at failed
    next => cases failed
    next text usable =>
      split at failed
      next unreadable =>
        cases failed
        exact ⟨text, usable, unreadable⟩
      next => split at failed <;> cases failed

theorem requests_complaints {α : Type} (failure : Failure) (result : Except Failure α) (state : σ)
    (files : Files) : (Transcript.mk result (complaints failure) state files).requests = [] := by
  cases failure <;> rfl

theorem saves_complaints {α : Type} (failure : Failure) (result : Except Failure α) (state : σ)
    (files : Files) : (Transcript.mk result (complaints failure) state files).saves = [] := by
  cases failure <;> rfl

/-- A record set that was written is read back, and the answer decides how the write ends. -/
theorem outcome_of_answerBack (host : Host σ) {description : Option Json} (desired : Desired)
    {request : Request} {tracked : Tracked} {text : String} {id : PtrRecordId}
    (writes : Writes description tracked request) {state : σ} {files : Files}
    (saves : Saves host tracked state files request text id) :
    let kept := host.home.keep (identified tracked text) files
    let transcript := ((refresh (identified tracked text)).run host
      (host.service.serve request state).state kept.2).andThen
        fun found state files => ⟨readBack desired id found, [], state, files⟩
    Outcome host description tracked state files (request :: transcript.requests)
      (transcript.saves.getLast?.getD (identified tracked text))
      (transcript.result.map Prod.snd) := by
  intro kept transcript
  have usable := usableId_identified tracked saves.accepted.nonempty
  -- from here on nothing can fail but the answer
  have again (next : Tracked) : (host.home.keep next kept.2).1 = .ok () :=
    Home.keep_again (Prod.ext saves.kept rfl) next
  have ran := run_refresh host (identified tracked text)
    (host.service.serve request state).state kept.2
  simp only [usable, saves.accepted.readable, refreshEnd, again, readingLine] at ran
  simp only [transcript, ran, Transcript.after_andThen, Transcript.requests_called,
    Transcript.saves_called, Transcript.result_after]
  cases read : readAnswer id.address (answerBack host state request id) with
  | error failure =>
    rw [answerBack] at read
    have found : ¬Gone (answerBack host state request id) := fun gone => by
      cases (readAnswer_eq_none.mpr gone).symm.trans read
    simp only [read, Transcript.andThen_error, requests_complaints, saves_complaints]
    -- a complete record set would have been read
    refine .unread writes saves found fun recordSet complete => ?_
    obtain ⟨remote, other⟩ := exists_readAnswer found complete id.address
    cases read.symm.trans other
  | ok found =>
    cases found with
    | none =>
      have gone := readAnswer_eq_none.mp read
      rw [answerBack] at read
      simp only [read]
      exact .gone writes saves gone
    | some remote =>
      obtain ⟨recordSet, complete, readFrom⟩ := complete_of_readAnswer read
      have found : ¬Gone (answerBack host state request id) := fun gone => by
        cases read.symm.trans (readAnswer_eq_none.mpr gone)
      rw [answerBack] at read
      simp only [read]
      exact .written writes saves found complete readFrom

/-- A write ends as the answer to its call and, where the record set is read back, the answer to
that call decide. -/
theorem outcome_of_writeEnd (host : Host σ) {description : Option Json} {desired : Desired}
    {ifMatch : String} {tracked : Tracked} (valid : Desired.ofJson description = .ok desired)
    (expected : expectedEtag desired tracked = .ok ifMatch) (state : σ) (files : Files) :
    let request := writeRequest desired ifMatch
    let response := host.service.serve request state
    let transcript := (writeEnd host desired tracked response files).after
      (writingLine desired :: callEvents request response)
    Outcome host description tracked state files transcript.requests
      (transcript.trackedAfter tracked) (transcript.result.map Prod.snd) := by
  intro request response transcript
  have writes : Writes description tracked request := ⟨desired, ifMatch, valid, expected, rfl⟩
  simp only [transcript, writingLine, Transcript.trackedAfter, Transcript.requests_called,
    Transcript.saves_called, Transcript.result_after]
  cases written : writeAnswer desired response.answer with
  | error failure =>
    have rejected : ∀ text id, ¬Accepted response.answer text id := by
      intro text id accepted
      cases written.symm.trans (writeAnswer_eq_ok.mpr accepted)
    simp only [writeEnd, written, requests_complaints, saves_complaints]
    exact .unwritten writes rejected
  | ok accepted =>
    obtain ⟨text, id⟩ := accepted
    have accepted := writeAnswer_eq_ok.mp written
    simp only [writeEnd, written]
    cases kept : (host.home.keep (identified tracked text) files).1 with
    | error failure => exact .unsaved writes accepted kept
    | ok done =>
      have back := outcome_of_answerBack host desired writes ⟨accepted, kept⟩
      have saved (rest : Transcript σ (Tracked × PtrRecordId)) :
          (rest.after [.saved (identified tracked text) (.ok done)]).saves =
            identified tracked text :: rest.saves := rfl
      simp only [Transcript.andThen_ok, saved, List.getLast?_cons, Option.getD_some]
      exact back

/-- However the service answers, a write ends in one of these ways. -/
theorem createOrUpdate_outcome (host : Host σ) (description : Option Json) (tracked : Tracked)
    (state : σ) (files : Files) :
    let transcript := (createOrUpdate description tracked).run host state files
    Outcome host description tracked state files transcript.requests
      (transcript.trackedAfter tracked) (transcript.result.map Prod.snd) := by
  rw [run_createOrUpdate]
  cases valid : Desired.ofJson description with
  | error failure => exact .invalid valid
  | ok desired =>
    dsimp only
    rw [run_write]
    cases expected : expectedEtag desired tracked with
    | ok ifMatch => exact outcome_of_writeEnd host valid expected state files
    | error failure =>
      -- only the ID of a cached etag can fail
      obtain ⟨unspecified, text, usable, unreadable⟩ := expectedEtag_eq_error expected
      exact .unreadable valid unspecified usable unreadable

/-- A host with one zone, whose state file is to be below the file `d`. -/
def belowFile : Host Memory := { service := Memory.service, home := .file "d/s" }

def writeA : Request := writeRequest (Desired.read (Desired.describing "a")) ""

def idA : PtrRecordId :=
  { subscriptionId := "s", resourceGroup := "g", zoneName := "z", recordName := "a" }

/-- Where the ID cannot be written down, the write fails, and the record set is not read back: the
service would have returned it. -/
theorem unread_below_file :
    let files : Files := { nodes := [(["d"], .text "x")] }
    let transcript :=
      (createOrUpdate (some (Desired.describing "a")) .empty).run belowFile oneZone files
    StateFile.load files "d/s" = .ok .empty ∧
      Accepted (belowFile.service.serve writeA oneZone).answer idA.format idA ∧
      (∃ recordSet, Complete (answerBack belowFile oneZone writeA idA) recordSet) ∧
      transcript.requests.length = 1 ∧ transcript.result.isOk = false := by
  have accepted : Accepted (belowFile.service.serve writeA oneZone).answer idA.format idA := {
    answered := ⟨_, rfl, by decide +kernel, rfl⟩
    nonempty := by decide +kernel
    readable := PtrRecordId.parse_format (by decide) (by decide) (by decide) (by decide)
      ⟨by decide, by decide, by decide⟩ (by decide) }
  have complete : ∃ recordSet, Complete (answerBack belowFile oneZone writeA idA) recordSet := ⟨_, {
    answered := ⟨_, rfl, by decide +kernel, rfl⟩
    id := ⟨_, rfl, by decide +kernel⟩
    ttl := nofun
    named := fun entry member => nomatch member }⟩
  exact ⟨rfl, accepted, complete, by decide +kernel⟩

end Reconcile
end ReverseDns
