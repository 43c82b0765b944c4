import ReverseDns.Service.Memory
import ReverseDns.Proofs.Acceptance
import ReverseDns.Proofs.Monitors
import ReverseDns.Proofs.RecordIds
import ReverseDns.Proofs.Sessions

/-!
# Where cached etags come from

Cached attributes are those of an earlier look-up, and the etag among them was returned by it. The
ID beside them is written by other actions, so it may name another record set. An etag is
therefore sent to the record set that it was returned for exactly if the cached attributes are
those of the record set that is written.

* `ReturnedByGet` -- an etag was returned for the record set at an address
* `Backed`, `Honest` -- what is remembered, and all that is saved, is backed by a look-up
* `backing` -- the monitor of what is saved
* `Session.backed` -- the invariant of sessions that start with nothing
* `sent_etag_provenance` -- where an etag that is sent with a write was returned
-/

namespace ReverseDns

open Program (obeys_ofExcept_bind)
open Reconcile (readAnswer remoteOf_eq_ok readAnswer_eq_some expectedEtag trackedEtag identified
  refreshed writeRequest run_write run_createOrUpdate obeys_refresh_bind obeys_write_bind
  obeys_createOrUpdate_bind obeys_remove_bind obeys_adopt_bind)

variable {σ : Type}

/-! ## Etags that were returned -/

/-- The etag of the record set in an answer. -/
def etagOf? : Answer → Option String
  | .ok reply => reply.recordSet.get?.bind fun recordSet => recordSet.etag.get?
  | .error _ => none

/-- An etag was returned by a look-up of the record set at an address. -/
def ReturnedByGet (events : List Event) (address : Address) (etag : String) : Prop :=
  ∃ (other : Address) (answer : Answer), other.same address ∧ .called (.get other.ptr) answer ∈ events ∧
    etagOf? answer = some etag

theorem ReturnedByGet.of_same {events : List Event} {first second : Address} {etag : String}
    (returned : ReturnedByGet events first etag) (same : first.same second) :
    ReturnedByGet events second etag := by
  obtain ⟨other, answer, equal, called, found⟩ := returned
  exact ⟨other, answer, Address.same_trans equal same, called, found⟩

/-- No etag was returned for two record sets. -/
def EtagsApart (events : List Event) : Prop :=
  ∀ first second etag, ReturnedByGet events first etag → ReturnedByGet events second etag →
    first.same second

/-- The address of the record set that attributes are about. -/
def Attributes.address (attributes : Attributes) : Address where
  resourceGroup := ((Keyed.get? attributes.members "resourceGroupName").bind Json.str?).getD ""
  zoneName := ((Keyed.get? attributes.members "zoneName").bind Json.str?).getD ""
  recordName := ((Keyed.get? attributes.members "name").bind Json.str?).getD ""

theorem Attributes.etag_ofRemote (remote : Remote) :
    (Attributes.ofRemote remote).etag = remote.etag := rfl

/-! ## Look-ups -/

/-- A record set that was read has the address that was looked up and the etag that was
returned. -/
theorem readAnswer_eq_ok {address : Address} {answer : Answer} {remote : Remote}
    (read : readAnswer address answer = .ok (some remote)) :
    remote.address = address ∧ (remote.etag ≠ "" → etagOf? answer = some remote.etag) := by
  obtain ⟨reply, rfl, -, -, described⟩ := readAnswer_eq_some.mp read
  obtain ⟨same, recordSet, given, -, etag, -⟩ := remoteOf_eq_ok described
  refine ⟨same, fun nonempty => ?_⟩
  rw [etagOf?, given, Option.bind_some]
  cases stored : recordSet.etag.get? with
  | none => simp [etag, stored] at nonempty
  | some value => simp [etag, stored]

/-! ## The invariant -/

/-- The attributes that are remembered are those of a look-up. -/
def Backed (events : List Event) (tracked : Tracked) : Prop :=
  ∀ attributes, tracked.attributes = some attributes → ∃ remote answer,
    attributes = .ofRemote remote ∧ .called (.get remote.address.ptr) answer ∈ events ∧
    readAnswer remote.address answer = .ok (some remote)

theorem Backed.mono {events more : List Event} {tracked : Tracked} (backed : Backed events tracked)
    (kept : events ⊆ more) : Backed more tracked := by
  intro attributes found
  obtain ⟨remote, answer, equal, called, read⟩ := backed attributes found
  exact ⟨remote, answer, equal, kept called, read⟩

theorem Backed.empty (events : List Event) : Backed events .empty :=
  fun _ found => nomatch found

theorem Backed.identified {events : List Event} {tracked : Tracked} (backed : Backed events tracked)
    (text : String) : Backed events (identified tracked text) :=
  backed

/-- All that is saved after a history is backed by it and by what happens meanwhile. -/
def Honest (history events : List Event) : Prop :=
  ∀ tracked outcome, .saved tracked outcome ∈ events → Backed (history ++ events) tracked

theorem Backed.refreshed {events : List Event} {tracked : Tracked} {address : Address}
    {answer : Answer} {remote : Remote} (called : .called (.get address.ptr) answer ∈ events)
    (read : readAnswer address answer = .ok (some remote)) :
    Backed events (refreshed tracked remote) := by
  intro attributes found
  cases found
  obtain ⟨rfl, -⟩ := readAnswer_eq_ok read
  exact ⟨remote, answer, rfl, called, read⟩

/-! ## Actions keep the invariant -/

/-- A monitor that has seen all calls, and lets only what they back be saved. -/
def backing : Monitor (List Event) where
  saves seen tracked := Backed seen tracked
  called seen request answer := seen ++ [.called request answer]

theorem seen_of_leads {seen events later : List Event} (leads : backing.Leads seen events later) :
    later ⊆ seen ++ events := by
  -- along the events; only a call adds to what was seen
  induction leads with
  | nil seen => simp
  | said _ _ _ inductionHypothesis | printed _ _ inductionHypothesis
  | saved _ _ _ _ inductionHypothesis | connected _ _ _ _ _ inductionHypothesis =>
    exact List.Subset.trans inductionHypothesis
      ((List.sublist_cons_self _ _).append_left _).subset
  | called request answer overheard _ _ _ _ inductionHypothesis =>
    refine List.Subset.trans inductionHypothesis ?_
    rw [backing, List.append_assoc]
    exact (((List.sublist_append_right _ _).cons_cons _).append_left _).subset

theorem honest_of_leads {seen events later : List Event} (leads : backing.Leads seen events later) :
    Honest seen events := by
  intro tracked outcome saved
  obtain ⟨earlier, between, front, leads, backed⟩ := leads.allows saved
  exact Backed.mono backed
    (List.Subset.trans (seen_of_leads leads) (front.sublist.append_left seen).subset)

section Actions

variable {β : Type} {seen : List Event} {tracked : Tracked}

theorem backing_refresh (tracked : Tracked) {next : Tracked × Option Remote → Program β}
    (back : ∀ found seen, (next found).Obeys backing seen) :
    ((Reconcile.refresh tracked).bind next).Obeys backing seen :=
  obeys_refresh_bind (fun _ => back _ _) (fun _ _ _ => trivial)
    (fun _ _ _ _ _ _ => ⟨.empty _, back _ _⟩)
    (fun _ _ _ _ _ _ read => ⟨.refreshed (by simp [backing]) read, back _ _⟩)

theorem backing_write (backed : Backed seen tracked) (desired : Desired)
    {next : Tracked × PtrRecordId → Program β} (back : ∀ done seen, (next done).Obeys backing seen) :
    ((Reconcile.write desired tracked).bind next).Obeys backing seen := by
  refine obeys_write_bind (fun _ _ => trivial) fun ifMatch answer text id _ _ _ => ⟨?_, ?_⟩
  · exact (backed.identified text).mono (List.subset_append_left _ _)
  · exact backing_refresh _ fun _ _ => obeys_ofExcept_bind fun done _ => back done _

theorem backing_action (backed : Backed seen tracked) (action : Action) :
    (action.program tracked).Obeys backing seen := by
  cases action <;> rw [Action.program]
  case createOrUpdate description =>
    exact obeys_createOrUpdate_bind fun desired _ => backing_write backed desired fun _ _ => .done ()
  case read => exact backing_refresh tracked fun _ _ => .done ()
  case delete =>
    rw [← Program.bind_done (Reconcile.remove tracked)]
    exact obeys_remove_bind (fun _ _ => trivial) fun _ _ _ _ _ => .done ()
  case adopt id =>
    -- the ID is saved beside the attributes that were there
    exact obeys_adopt_bind fun _ _ => ⟨backed.identified id, .done ()⟩

end Actions

variable (host : Host σ) (state : σ) (files : Files)

/-- Every action saves only what is backed. -/
theorem honest_action {history : List Event} {tracked : Tracked}
    (backed : Backed history tracked) (action : Action) :
    Honest history ((action.program tracked).run host state files).events := by
  obtain ⟨later, leads⟩ := (backing_action backed action).leads (fun _ _ _ => trivial)
    (fun _ _ _ => trivial) (fun _ _ _ _ => trivial) host state files
  exact honest_of_leads leads

namespace Session

/-- An action keeps what is remembered backed. -/
theorem backed_perform {session : Session σ} (backed : Backed session.events session.tracked)
    (action : Action) :
    Backed (session.perform host action).events (session.perform host action).tracked := by
  -- what is remembered is what was saved last, if anything was
  have honest := honest_action host session.state session.files backed action
  rcases (session.runOf host action).trackedAfter_eq_or_saved session.tracked with
    same | ⟨outcome, saved⟩
  · change Backed _ ((session.runOf host action).trackedAfter session.tracked)
    rw [same]
    exact backed.mono (by simp [perform])
  · exact honest _ outcome saved

/-- In every session that starts with nothing, what is remembered is backed by a look-up. -/
theorem backed (actions : List Action) :
    let session := (Session.mk state files .empty []).performAll host actions
    Backed session.events session.tracked :=
  performAll_induction (motive := fun session => Backed session.events session.tracked) host
    (fun _ action backed => backed_perform host backed action) (.empty []) actions

end Session

/-! ## Etags that are sent -/

/-- A monitor that lets no record set be written but the desired one, under the expected etag. -/
def expecting (desired : Desired) (tracked : Tracked) : Monitor Unit where
  calls _ request := ∀ key properties ifMatch ifNoneMatch,
    request = .upsert key properties ifMatch ifNoneMatch →
      expectedEtag desired tracked = .ok ifMatch ∧ key = desired.address.ptr

theorem expecting_write (desired : Desired) (tracked : Tracked) :
    (Reconcile.write desired tracked).Obeys (expecting desired tracked) () := by
  have onward (found : Tracked × Option Remote) (id : PtrRecordId) :
      ((Program.ofExcept (Reconcile.readBack desired id found)).bind .done).Obeys
        (expecting desired tracked) () :=
    obeys_ofExcept_bind fun done _ => .done done
  rw [← Program.bind_done (Reconcile.write desired tracked)]
  refine obeys_write_bind (fun ifMatch expected => ?_) fun _ _ _ id _ _ _ => ⟨trivial, ?_⟩
  · rintro _ _ _ _ ⟨⟩
    exact ⟨expected, rfl⟩
  · exact obeys_refresh_bind (fun _ => onward _ id) (fun _ _ _ => nofun)
      (fun _ _ _ _ _ _ => ⟨trivial, onward _ id⟩) (fun _ _ _ _ _ _ _ => ⟨trivial, onward _ id⟩)

/-- A write sends one etag, the expected one, to the desired record set. -/
theorem upsert_of_write {desired : Desired} {tracked : Tracked} {key : RecordKey}
    {properties : Properties} {ifMatch ifNoneMatch : String} {answer : Answer}
    (called : .called (.upsert key properties ifMatch ifNoneMatch) answer ∈
      ((Reconcile.write desired tracked).run host state files).events) :
    expectedEtag desired tracked = .ok ifMatch ∧ key = desired.address.ptr := by
  obtain ⟨later, leads⟩ := (expecting_write desired tracked).leads (fun _ _ _ => trivial)
    (fun _ _ _ => trivial) (fun _ _ _ _ => trivial) host state files
  obtain ⟨_, _, -, -, may, -⟩ := leads.allows called
  exact may key properties ifMatch ifNoneMatch rfl

/-- A write whose etag is known is sent. -/
theorem request_of_createOrUpdate {session : Session σ} {description : Option Json}
    {desired : Desired} {ifMatch : String} (accepted : Desired.ofJson description = .ok desired)
    (expected : expectedEtag desired session.tracked = .ok ifMatch) :
    writeRequest desired ifMatch ∈
      (session.runOf host (.createOrUpdate description)).requests := by
  let response := host.service.serve (writeRequest desired ifMatch) session.state
  refine Transcript.mem_requests.mpr ⟨response.answer, ?_⟩
  rw [Session.runOf, Action.program, Program.events_run_bind_done, run_createOrUpdate, accepted]
  simp [run_write, expected, callEvents, response]

theorem trackedEtag_eq_ok {desired : Desired} {tracked : Tracked} {etag : String}
    (found : trackedEtag desired tracked = .ok etag) (nonempty : etag ≠ "") :
    ∃ attributes, tracked.attributes = some attributes ∧ attributes.etag = etag := by
  unfold trackedEtag at found
  split at found
  next =>
    cases found
    exact absurd rfl nonempty
  next =>
    split at found
    next => cases found
    next =>
      split at found
      next =>
        cases found
        cases stored : tracked.attributes with
        | none => simp [stored] at nonempty
        | some attributes => exact ⟨attributes, rfl, rfl⟩
      next =>
        cases found
        exact absurd rfl nonempty

/-- In a session that starts with nothing, an etag that `createOrUpdate` sends for a description
without one was returned by a look-up of the record set that the cached attributes are about. If
they are about the record set that is written, the etag was returned for it; if no etag was ever
returned for two record sets, it was returned for it only then. -/
theorem sent_etag_provenance (actions : List Action) (description : Option Json)
    (desired : Desired) (accepted : Desired.ofJson description = .ok desired)
    (unspecified : desired.etag = none) (key : RecordKey) (properties : Properties)
    (ifMatch ifNoneMatch : String) (nonempty : ifMatch ≠ "") :
    let session := (Session.mk state files .empty []).performAll host actions
    .upsert key properties ifMatch ifNoneMatch ∈
        (session.runOf host (.createOrUpdate description)).requests →
      key = desired.address.ptr ∧
      ∃ cached, session.tracked.attributes = some cached ∧
        ReturnedByGet session.events cached.address ifMatch ∧
        (cached.address.same desired.address →
          ReturnedByGet session.events desired.address ifMatch) ∧
        (EtagsApart session.events → ReturnedByGet session.events desired.address ifMatch →
          cached.address.same desired.address) := by
  intro session sent
  obtain ⟨answer, called⟩ := Transcript.mem_requests.mp sent
  rw [Session.runOf, Action.program, Program.events_run_bind_done, run_createOrUpdate,
    accepted] at called
  obtain ⟨expected, target⟩ := upsert_of_write host session.state session.files called
  -- an etag that nobody specified is the cached one
  rw [expectedEtag, unspecified] at expected
  obtain ⟨cached, stored, etag⟩ := trackedEtag_eq_ok expected nonempty
  obtain ⟨remote, found, rfl, looked, read⟩ :=
    Session.backed host state files actions cached stored
  rw [Attributes.etag_ofRemote] at etag
  have returned : ReturnedByGet session.events (Attributes.ofRemote remote).address ifMatch := by
    obtain ⟨-, given⟩ := readAnswer_eq_ok read
    rw [etag] at given
    exact ⟨remote.address, found, Address.same_refl _, looked, given nonempty⟩
  exact ⟨target, .ofRemote remote, stored, returned, returned.of_same,
    fun apart desiredReturned => apart _ _ ifMatch returned desiredReturned⟩

/-- A host whose service knows one record set `a`, whatever it is asked for. -/
def constantHost : Host Unit where
  service := { serve := fun _ _ => {
    answer := .ok {
      status := 200
      recordSet := .given {
        id := .given "/subscriptions/s/resourceGroups/g/dnszones/z/PTR/a"
        etag := .given "e"
        ttl := .given 60 } }
    state := () } }

/-- What is done first: the record set `a` is adopted and read. -/
def readingActions : List Action :=
  [.adopt "/subscriptions/s/resourceGroups/g/dnszones/z/PTR/a", .read]

/-- The record set `a` as it is desired. -/
def desiredA : Desired := Desired.read (Desired.describing "a")

/-- Once `a` was read, its etag is sent to it. -/
theorem sent_etag_after_read :
    let session := (Session.mk () {} .empty []).performAll constantHost readingActions
    ∃ cached, session.tracked.attributes = some cached ∧
      ReturnedByGet session.events cached.address "e" ∧
      (cached.address.same desiredA.address →
        ReturnedByGet session.events desiredA.address "e") ∧
      (EtagsApart session.events → ReturnedByGet session.events desiredA.address "e" →
        cached.address.same desiredA.address) :=
  have accepted : Desired.ofJson (some (Desired.describing "a")) = .ok desiredA := rfl
  (sent_etag_provenance constantHost () {} readingActions (some (Desired.describing "a")) desiredA accepted
    rfl desiredA.address.ptr desiredA.properties "e" "" (by decide)
    (request_of_createOrUpdate constantHost accepted rfl)).2

/-- The ID of `b`, adopted beside the attributes of `a`, makes the etag of `a` be sent to `b`. -/
example : (expectedEtag (Desired.read (Desired.describing "b"))
    ((Session.mk () {} .empty []).performAll constantHost
      (readingActions ++ [.adopt "/subscriptions/s/resourceGroups/g/dnszones/z/PTR/b"])).tracked
    ).toOption = some "e" := by
  decide +kernel

end ReverseDns
