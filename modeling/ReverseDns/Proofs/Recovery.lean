import ReverseDns.Proofs.Snapshots
import ReverseDns.Proofs.Synchrony

/-!
# Recovery after an interrupted run

A run of `apply` in which one call fails is made good by the next run, wherever the call stands and
whether or not it was carried out before it failed. Nothing is tried twice in a run, so the failed
call is the last one, and what it leaves is always half of the way: the state file still names the
record set that was tracked, or that one is gone and the file names the desired record set or none.

* `Outage` -- a memory on which one call fails
* `Halfway` -- what a run leaves that was interrupted, or was not
* `halfway_refresh`, `halfway_replace`, `halfway_write` -- the parts of a run
* `apply_recovers` -- the run after it
-/

namespace ReverseDns

/-- One call fails: the one with a number is answered in another way, whether or not it is carried
out. -/
structure Outage where
  position : Nat
  carriedOut : Bool
  answer : Answer

namespace Outage

/-- The answer is thrown, or its status is neither a success nor 404. -/
def Fails (outage : Outage) : Prop :=
  ∀ reply, outage.answer = .ok reply → isSuccess reply.status = false ∧ (reply.status == 404) = false

/-- The memory as a service that counts its calls, with the outage. -/
def service (outage : Outage) : Service (Nat × Memory) where
  serve request state :=
    let (reply, after) := state.2.serve request
    if state.1 = outage.position then
      { answer := outage.answer
        state := (state.1 + 1, if outage.carriedOut then after else state.2) }
    else { answer := .ok reply, state := (state.1 + 1, after) }

theorem serve_cases (outage : Outage) (request : Request) (state : Nat × Memory) :
    ((outage.service.serve request state).answer = .ok (state.2.serve request).1 ∧
      (outage.service.serve request state).state.2 = (state.2.serve request).2) ∨
    ((outage.service.serve request state).answer = outage.answer ∧
      ((outage.service.serve request state).state.2 = state.2 ∨
        (outage.service.serve request state).state.2 = (state.2.serve request).2)) := by
  unfold service
  dsimp only
  split
  · refine .inr ⟨rfl, ?_⟩
    split
    · exact .inr rfl
    · exact .inl rfl
  · exact .inl ⟨rfl, rfl⟩

variable {outage : Outage}

theorem Fails.failed (fails : outage.Fails) (request : Request) : Failed request outage.answer := by
  cases answer : outage.answer with
  | error thrown => exact .threw thrown
  | ok reply =>
    obtain ⟨unsuccessful, present⟩ := fails reply answer
    exact .refused reply unsuccessful fun _ _ => present

end Outage

/-! ## Saved files -/

/-- Nothing but the file at a path may have been saved since. -/
def Files.SavedOnly (origin : Files) (path : String) (files : Files) : Prop :=
  files = origin ∨ ∃ text, files = (origin.save path text).2

section SavedOnly

variable {origin files : Files} {path : String}

theorem Files.SavedOnly.accepts (saved : origin.SavedOnly path files)
    (accepted : origin.Accepts path) : files.Accepts path := by
  rcases saved with rfl | ⟨text, rfl⟩
  · exact accepted
  · rw [Accepts, save_save accepted]
    exact accepted

theorem Files.SavedOnly.save (saved : origin.SavedOnly path files)
    (accepted : origin.Accepts path) (text : String) :
    origin.SavedOnly path (files.save path text).2 := by
  rcases saved with rfl | ⟨former, rfl⟩
  · exact .inr ⟨text, rfl⟩
  · rw [save_save accepted]
    exact .inr ⟨text, rfl⟩

theorem Files.SavedOnly.readJson (saved : origin.SavedOnly path files) {file : String}
    (undisturbed : ∀ text, (origin.save path text).2.readJson file = origin.readJson file) :
    files.readJson file = origin.readJson file := by
  rcases saved with rfl | ⟨text, rfl⟩
  · rfl
  · exact undisturbed text

/-- The state file at a path tracks an ID, or none where the text is empty. -/
def StateFile.Recalls (files : Files) (path text : String) : Prop :=
  ∃ tracked, load files path = .ok tracked ∧ tracked.idText = text

theorem StateFile.recalls_keep (saved : origin.SavedOnly path files)
    (accepted : origin.Accepts path) {tracked : Tracked} (storable : tracked.Storable) :
    ∃ after, (Home.file path).keep tracked files = (.ok (), after) ∧
      origin.SavedOnly path after ∧ Recalls after path tracked.idText := by
  obtain ⟨after, kept, text, -⟩ := keep_of_accepts (saved.accepts accepted) tracked
  refine ⟨after, kept, ?_, tracked.settled, load_of_text storable text, rfl⟩
  have again := saved.save accepted (render tracked)
  rw [Home.keep, save] at kept
  split at kept
  next between equal =>
    cases kept
    rw [equal] at again
    exact again
  next => cases kept

end SavedOnly

/-! ## The same but for etags -/

def Stored.withoutEtag (stored : Stored) : Stored := { stored with etag := "" }

/-- Two memories with the same zones and, but for their etags, the same record sets. -/
structure Memory.Alike (first second : Memory) : Prop where
  subscription : first.subscriptionId = second.subscriptionId
  zones : first.zones = second.zones
  records : ∀ key, (first.find? key).map Stored.withoutEtag =
    (second.find? key).map Stored.withoutEtag

def Attributes.withoutEtag (attributes : Attributes) : Members :=
  Keyed.erase attributes.members "etag"

/-- The same ID, and the same attributes but for the etag. -/
structure Tracked.Alike (first second : Tracked) : Prop where
  id : first.id = second.id
  attributes : first.attributes.map Attributes.withoutEtag =
    second.attributes.map Attributes.withoutEtag

theorem Memory.withoutEtag_storedOf {first second : Memory}
    (subscription : first.subscriptionId = second.subscriptionId) (key : RecordKey)
    (properties : Properties) : (first.storedOf key properties).withoutEtag =
      (second.storedOf key properties).withoutEtag := by
  simp only [storedOf, storedUnder, Stored.withoutEtag, subscription]

theorem CommandLine.alike_trackedOf {first second : Stored}
    (same : first.withoutEtag = second.withoutEtag) (address : Address) (records : List Hostname) :
    (trackedOf first address records).Alike (trackedOf second address records) := by
  obtain ⟨id, name, etag, ttl, fqdn, metadata, entries⟩ := first
  obtain ⟨id', name', etag', ttl', fqdn', metadata', entries'⟩ := second
  simp only [Stored.withoutEtag, Stored.mk.injEq, true_and] at same
  obtain ⟨rfl, rfl, rfl, rfl, rfl, rfl⟩ := same
  constructor
  · rfl
  · simp [trackedOf, Attributes.withoutEtag, Attributes.ofRemote, Stored.remote, Keyed.erase]

end ReverseDns

namespace ReverseDns.CommandLine

open Reconcile (identified refreshed expectedEtag usableId_eq_some)
open StateFile (Recalls)

variable {α β : Type} {memory start : Memory} {origin files : Files} {path : String}
  {desired : Desired} {tracked current : Tracked} {outage : Outage}

/-! ## Runs that may fail -/

/-- What a run leaves, where it fails and where it goes on. -/
structure Leaves (failed : Memory → Files → Prop) (done : α → Memory → Files → Prop)
    (transcript : Transcript (Nat × Memory) α) : Prop where
  failed : ∀ failure, transcript.result = .error failure →
    failed transcript.state.2 transcript.files
  done : ∀ result, transcript.result = .ok result →
    done result transcript.state.2 transcript.files

section Leaves

variable {failed : Memory → Files → Prop} {done : α → Memory → Files → Prop}
  {ends : β → Memory → Files → Prop} {transcript : Transcript (Nat × Memory) α}
  {events : List Event} {state : Nat × Memory} {files : Files}

theorem leaves_ok {result : α} :
    Leaves failed done ⟨.ok result, events, state, files⟩ ↔ done result state.2 files :=
  ⟨fun leaves => leaves.done result rfl, fun fact => ⟨nofun, by rintro _ ⟨rfl⟩; exact fact⟩⟩

theorem leaves_error {failure : Failure} :
    Leaves failed done ⟨.error failure, events, state, files⟩ ↔ failed state.2 files :=
  ⟨fun leaves => leaves.failed failure rfl, fun fact => ⟨fun _ _ => fact, nofun⟩⟩

theorem leaves_after : Leaves failed done (transcript.after events) ↔ Leaves failed done transcript :=
  ⟨fun ⟨first, second⟩ => ⟨first, second⟩, fun ⟨first, second⟩ => ⟨first, second⟩⟩

theorem Leaves.andThen {next : α → Nat × Memory → Files → Transcript (Nat × Memory) β}
    (first : Leaves failed done transcript)
    (second : ∀ result state files, done result state.2 files →
      Leaves failed ends (next result state files)) :
    Leaves failed ends (transcript.andThen next) := by
  obtain ⟨result, events, state, files⟩ := transcript
  cases result with
  | error failure => exact leaves_error.mpr (leaves_error.mp first)
  | ok result => exact leaves_after.mpr (second result state files (leaves_ok.mp first))

theorem Leaves.mono {failed' : Memory → Files → Prop} {done' : α → Memory → Files → Prop}
    (leaves : Leaves failed done transcript)
    (fails : ∀ memory files, failed memory files → failed' memory files)
    (goesOn : ∀ result memory files, done result memory files → done' result memory files) :
    Leaves failed' done' transcript :=
  ⟨fun failure equal => fails _ _ (leaves.failed failure equal),
    fun result equal => goesOn _ _ _ (leaves.done result equal)⟩

end Leaves

/-- The memory with an outage as the service of a host that remembers in a file. -/
abbrev outageHost (outage : Outage) (path : String) (number : Nat) : Host (Nat × Memory) :=
  { service := outage.service, home := .file path, number }

variable (number : Nat) (state : Nat × Memory)

theorem leaves_refresh (fails : outage.Fails) (clean : Clean state.2) (storable : current.Storable)
    (records : ∀ id stored, PtrRecordId.parse current.idText = .ok id →
      state.2.find? id.address.ptr = some stored → stored.Storable)
    (saved : origin.SavedOnly path files) (accepted : origin.Accepts path)
    (recalls : Recalls files path current.idText) :
    Leaves (fun memory later => memory = state.2 ∧ later = files)
      (fun found memory later => memory = state.2 ∧ Refreshed state.2 current found.1 ∧
        found.1.Storable ∧ origin.SavedOnly path later ∧ Recalls later path found.1.idText)
      ((Reconcile.refresh current).run (outageHost outage path number) state files) := by
  rw [Reconcile.run_refresh]
  cases usable : current.usableId with
  | none => exact leaves_ok.mpr ⟨rfl, .untracked usable usable, storable, saved, recalls⟩
  | some text =>
    have same := (Reconcile.usableId_eq_some.mp usable).1
    subst same
    dsimp only
    cases parsed : PtrRecordId.parse current.idText with
    | error failure => exact leaves_error.mpr ⟨rfl, rfl⟩
    | ok id =>
      have served := outage.serve_cases (.get id.address.ptr) state
      rw [leaves_after]
      generalize outage.service.serve (.get id.address.ptr) state = response at served ⊢
      unfold Reconcile.refreshEnd
      -- the memory answers, and what it knows is kept in the file; or the call fails
      rcases served with ⟨answer, after⟩ | ⟨answer, after⟩
      · rw [answer, Memory.serve]
        rw [Memory.serve] at after
        rcases clean.readAnswer id.address with gone | ⟨stored, names, found, -, read⟩
        · obtain ⟨later, kept, savedAgain, recallsAgain⟩ :=
            StateFile.recalls_keep saved accepted Tracked.storable_empty
          simp only [gone, kept]
          refine leaves_ok.mpr ⟨after, ?_, Tracked.storable_empty, savedAgain, recallsAgain⟩
          exact .gone rfl id parsed (Memory.find?_of_readAnswer_none gone)
        · have storableNow : (refreshed current (stored.remote id.address names)).Storable := {
            id := storable.id
            attributes := by
              rintro attributes ⟨rfl⟩
              exact Attributes.storable_ofRemote ((records id stored parsed found).remote _ _) }
          obtain ⟨later, kept, savedAgain, recallsAgain⟩ :=
            StateFile.recalls_keep saved accepted storableNow
          simp only [read, kept]
          refine leaves_ok.mpr ⟨after, ?_, storableNow, savedAgain, recallsAgain⟩
          exact .found usable id stored parsed found rfl
      · rw [answer, (fails.failed (.get id.address.ptr)).readAnswer_eq]
        refine leaves_error.mpr ⟨?_, rfl⟩
        -- a look-up changes nothing, carried out or not
        rcases after with after | after
        · exact after
        · exact after

/-! ## Half of the way -/

/-- The key of the record set that is tracked, where it has to make room for the desired one. -/
def Replaced (desired : Desired) (tracked : Tracked) (key : RecordKey) : Prop :=
  ∃ id, PtrRecordId.parse tracked.idText = .ok id ∧ id.address.same desired.address = false ∧
    Memory.recordKey key = Memory.recordKey id.address.ptr

/-- What a run leaves that was interrupted anywhere: all but the two record sets is as it was at the
start, and unless the state file still names the record set that was tracked, that one is gone
where it has to make room. -/
structure Halfway (start : Memory) (origin : Files) (path : String) (desired : Desired)
    (tracked : Tracked) (memory : Memory) (files : Files) : Prop where
  reachable : memory.Reachable
  named : memory.Named
  zones : memory.zones = start.zones
  subscription : memory.subscriptionId = start.subscriptionId
  others : ∀ key, Memory.recordKey key ≠ Memory.recordKey desired.address.ptr →
    ¬Replaced desired tracked key → memory.find? key = start.find? key
  saved : origin.SavedOnly path files
  recalls : Recalls files path tracked.idText ∨
    (∀ key, Replaced desired tracked key → memory.find? key = none) ∧
      (Recalls files path "" ∨ Recalls files path (start.idFor desired.address).format)

/-- What is there when the desired record set is written. -/
structure Ready (start : Memory) (origin : Files) (path : String) (desired : Desired)
    (tracked kept : Tracked) (memory : Memory) (files : Files) : Prop where
  halfway : Halfway start origin path desired tracked memory files
  storable : kept.Storable
  prepared : ∃ ifMatch, Prepared start memory desired tracked kept ifMatch

theorem Prepared.vacated {ifMatch : String} {kept : Tracked}
    (prepared : Prepared start memory desired tracked kept ifMatch) (key : RecordKey)
    (replaced : Replaced desired tracked key) : memory.find? key = none := by
  obtain ⟨id, parsed, different, equal⟩ := replaced
  rw [Memory.find?, equal]
  exact prepared.replaced id parsed different

theorem Prepared.kept {ifMatch : String} {kept : Tracked}
    (prepared : Prepared start memory desired tracked kept ifMatch) (key : RecordKey)
    (apart : Memory.recordKey key ≠ Memory.recordKey desired.address.ptr)
    (stays : ¬Replaced desired tracked key) : memory.find? key = start.find? key := by
  refine prepared.others key fun id parsed equal => ?_
  cases same : id.address.same desired.address with
  | true => exact apart (equal.trans (Memory.recordKey_ptr_of_same same))
  | false => exact stays ⟨id, parsed, same, equal⟩

/-- Without the record set that is tracked the way is half done, whatever the state file says. -/
theorem Prepared.halfway (prepared : Prepared start memory desired tracked .empty "")
    (reachable : memory.Reachable) (named : memory.Named) (saved : origin.SavedOnly path files)
    (recalls : Recalls files path tracked.idText ∨ Recalls files path "") :
    Halfway start origin path desired tracked memory files where
  reachable := reachable
  named := named
  zones := prepared.zones
  subscription := prepared.subscription
  others := prepared.kept
  saved := saved
  recalls := recalls.imp_right fun bare => ⟨prepared.vacated, .inl bare⟩

theorem idText_of_unusable (unusable : current.usableId = none) : current.idText = "" := by
  unfold Tracked.usableId at unusable
  split at unusable
  · assumption
  · cases unusable

/-- A look-up leaves the ID that is tracked, unless the record set is gone. -/
theorem Refreshed.recalls (desired : Desired) (was : Refreshed memory tracked current)
    (recalls : Recalls files path current.idText) :
    Recalls files path tracked.idText ∨
      (∀ key, Replaced desired tracked key → memory.find? key = none) ∧ Recalls files path "" := by
  cases was with
  | untracked unusable before =>
    rw [idText_of_unusable unusable] at recalls
    rw [idText_of_unusable before]
    exact .inl recalls
  | gone unusable id parsed missing =>
    rw [idText_of_unusable unusable] at recalls
    refine .inr ⟨?_, recalls⟩
    rintro key ⟨other, read, -, equal⟩
    rw [parsed] at read
    cases read
    rw [Memory.find?, equal]
    exact missing
  | found usable id stored parsed present etag =>
    rw [(usableId_eq_some.mp usable).1] at recalls
    exact .inl recalls

theorem Halfway.clean (halfway : Halfway start origin path desired tracked memory files)
    (clean : Clean start) : Clean memory where
  subscription := halfway.subscription ▸ clean.subscription
  subscriptionPlain := halfway.subscription ▸ clean.subscriptionPlain
  identified := halfway.reachable.identified
  named := halfway.named

theorem Replaced.apart {key : RecordKey} (printable : desired.address.Printable)
    (replaced : Replaced desired tracked key) :
    Memory.recordKey key ≠ Memory.recordKey desired.address.ptr := by
  obtain ⟨id, parsed, different, equal⟩ := replaced
  rw [equal]
  intro equal
  have same := (Memory.recordKey_ptr_eq_iff (PtrRecordId.plain_of_parse parsed)
    printable.toPlain).mp equal
  rw [same] at different
  cases different

section Parts

variable (clean : Clean start) (reachable : start.Reachable) (accepted : origin.Accepts path)
  (fails : outage.Fails)

include clean reachable accepted fails

theorem halfway_replace (unspecified : desired.etag = none) {state : Nat × Memory}
    (unchanged : state.2 = start) (was : Refreshed start tracked current)
    (storable : current.Storable) (saved : origin.SavedOnly path files)
    (recalls : Recalls files path current.idText) :
    Leaves (Halfway start origin path desired tracked)
      (fun kept => Ready start origin path desired tracked kept)
      ((replace desired current).run (outageHost outage path number) state files) := by
  obtain ⟨count, memory⟩ := state
  obtain rfl : memory = start := unchanged
  have unmoved : Halfway memory origin path desired tracked memory files := {
    reachable
    named := clean.named
    zones := rfl
    subscription := rfl
    others := fun _ _ _ => rfl
    saved
    recalls := (was.recalls desired recalls).imp_right fun gone => ⟨gone.1, .inl gone.2⟩ }
  -- either nothing has to make room, or the record set that is tracked is deleted
  rcases was.prepared unspecified with ⟨stays, ifMatch, prepared⟩ |
    ⟨id, usable, parsed, different, prepared⟩
  · rw [stays]
    exact leaves_ok.mpr { halfway := unmoved, storable, prepared := ⟨ifMatch, prepared⟩ }
  · have same := (usableId_eq_some.mp usable).1
    rw [same] at recalls
    obtain ⟨status, erased, deleted, success, -⟩ := memory.delete_unconditional id.address.ptr
    have served : memory.serve (.delete id.address.ptr "") = ({ status }, erased) := deleted
    have reached : erased.Reachable := by
      have reached := Memory.Reachable.serve (.delete id.address.ptr "") reachable
      rwa [served] at reached
    have named := (clean.delete id.address.ptr).named
    rw [deleted] at named prepared
    have removal := outage.serve_cases (.delete id.address.ptr "") (count, memory)
    simp only [served] at removal
    simp only [run_replace, usable, parsed, different, Bool.false_eq_true, if_false,
      Reconcile.run_remove, same, leaves_after]
    generalize outage.service.serve (.delete id.address.ptr "") (count, memory) = response
      at removal ⊢
    rcases removal with ⟨answer, after⟩ | ⟨answer, after⟩
    · have done : Reconcile.deleteAnswer id.recordName response.answer = .ok () := by
        rw [answer]
        exact Reconcile.deleteAnswer_eq_ok.mpr ⟨_, rfl, success⟩
      obtain ⟨later, kept, savedLater, recallsLater⟩ :=
        StateFile.recalls_keep saved accepted Tracked.storable_empty
      simp only [done, Transcript.andThen_ok, kept, leaves_after]
      refine leaves_ok.mpr ?_
      rw [after]
      exact {
        halfway := prepared.halfway reached named savedLater (.inr recallsLater)
        storable := Tracked.storable_empty
        prepared := ⟨"", prepared⟩ }
    · have failed : Reconcile.deleteAnswer id.recordName outage.answer = .error _ :=
        (fails.failed (.delete id.address.ptr "")).deleteAnswer_eq
      rw [answer, failed, Transcript.andThen_error, leaves_error]
      -- the file still names the record set, whether it is there or not
      rcases after with after | after
      · rw [after]
        exact unmoved
      · rw [after]
        exact prepared.halfway reached named saved (.inl recalls)

end Parts

section Writing

variable {description : Json} (valid : Desired.ofJson (some description) = .ok desired)
  (zone : start.zones.contains (Memory.zoneKey desired.resourceGroupName desired.zoneName) = true)
  (printable : desired.address.Printable) {kept : Tracked} {ifMatch : String}

include zone in
theorem Prepared.serve (prepared : Prepared start memory desired tracked kept ifMatch) :
    memory.serve (Reconcile.writeRequest desired ifMatch) =
      (memory.acknowledgement desired.address.ptr desired.properties,
        memory.written desired.address.ptr desired.properties) :=
  Memory.upsert_of_matchesEtag desired.properties (prepared.zones ▸ zone) prepared.current

include valid zone printable in
/-- With the desired record set in the memory the rest of the way is the same, whatever the state
file says. -/
theorem Halfway.written (halfway : Halfway start origin path desired tracked memory files)
    (clean : Clean start) (prepared : Prepared start memory desired tracked kept ifMatch)
    {later : Files} (saved : origin.SavedOnly path later)
    (recalls : Recalls later path tracked.idText ∨ Recalls later path "" ∨
      Recalls later path (start.idFor desired.address).format) :
    Halfway start origin path desired tracked
      (memory.written desired.address.ptr desired.properties) later := by
  have reached := Memory.Reachable.serve (Reconcile.writeRequest desired ifMatch) halfway.reachable
  rw [prepared.serve zone] at reached
  exact {
    reachable := reached
    named := ((halfway.clean clean).written valid).named
    zones := halfway.zones
    subscription := halfway.subscription
    others := fun key apart stays => by
      rw [Memory.find?_written, if_neg apart]
      exact halfway.others key apart stays
    saved
    recalls := recalls.imp_right fun recalls => ⟨fun key replaced => by
      rw [Memory.find?_written, if_neg (replaced.apart printable)]
      exact prepared.vacated key replaced, recalls⟩ }

variable (regular : Json.Regular description) (clean : Clean start)
  (accepted : origin.Accepts path) (fails : outage.Fails)

include valid zone printable regular clean accepted fails

theorem halfway_readBack (halfway : Halfway start origin path desired tracked memory files)
    (prepared : Prepared start memory desired tracked kept ifMatch) {text : String}
    (named : text = (start.idFor desired.address).format)
    (storable : (identified kept text).Storable) {state : Nat × Memory}
    (isWritten : state.2 = memory.written desired.address.ptr desired.properties)
    {later : Files} (saved : origin.SavedOnly path later) (recalls : Recalls later path text) :
    Leaves (Halfway start origin path desired tracked)
      (fun _ => Halfway start origin path desired tracked)
      ((Reconcile.refresh (identified kept text)).run (outageHost outage path number) state
        later) := by
  obtain ⟨group, zoneName, name⟩ := Desired.address_nonempty valid
  have parsed := parse_idFor clean.subscription clean.subscriptionPlain group zoneName name
    printable
  rw [← named] at parsed
  have cleanNow : Clean state.2 := by
    rw [isWritten]
    exact (halfway.clean clean).written valid
  refine (leaves_refresh number state fails cleanNow storable ?_ saved accepted recalls).mono ?_ ?_
  · intro id stored read found
    -- the record set is the one that was written
    obtain rfl := Except.ok.inj (read.symm.trans parsed)
    have address : (start.idFor desired.address).address = desired.address := rfl
    rw [isWritten, address, Memory.find?_written, if_pos rfl] at found
    rw [← Option.some.inj found]
    exact memory.storable_storedOf _ regular valid
  · rintro after last ⟨rfl, rfl⟩
    rw [isWritten]
    exact halfway.written valid zone printable clean prepared saved (.inr (.inr (named ▸ recalls)))
  · rintro found after last ⟨rfl, was, -, savedLast, recallsLast⟩
    rw [isWritten] at was ⊢
    refine halfway.written valid zone printable clean prepared savedLast ?_
    rcases was.recalls desired recallsLast with same | ⟨-, bare⟩
    · exact .inr (.inr (named ▸ same))
    · exact .inr (.inl bare)

theorem halfway_write {state : Nat × Memory}
    (ready : Ready start origin path desired tracked kept state.2 files) :
    Leaves (Halfway start origin path desired tracked)
      (fun _ => Halfway start origin path desired tracked)
      ((Reconcile.write desired kept).run (outageHost outage path number) state files) := by
  obtain ⟨halfway, storable, ifMatch, prepared⟩ := ready
  have same : state.2.idFor desired.address = start.idFor desired.address := by
    rw [Memory.idFor, Memory.idFor, halfway.subscription]
  obtain ⟨group, zoneName, name⟩ := Desired.address_nonempty valid
  have parsed := parse_idFor clean.subscription clean.subscriptionPlain group zoneName name
    printable
  have answered := state.2.writeAnswer_acknowledgement desired
  rw [same, parsed] at answered
  obtain ⟨text, named⟩ : ∃ text, text = (start.idFor desired.address).format := ⟨_, rfl⟩
  rw [← named] at answered
  have writing := outage.serve_cases (Reconcile.writeRequest desired ifMatch) state
  rw [prepared.serve zone] at writing
  rw [Reconcile.run_write, prepared.expected]
  dsimp only
  rw [leaves_after]
  generalize outage.service.serve (Reconcile.writeRequest desired ifMatch) state = response
    at writing ⊢
  unfold Reconcile.writeEnd
  rcases writing with ⟨answer, after⟩ | ⟨answer, after⟩
  · rw [answer, answered]
    have storableNow : (identified kept text).Storable := {
      id := by
        rintro id ⟨rfl⟩
        exact WideText.joined_coe _
      attributes := storable.attributes }
    obtain ⟨later, keptNow, savedLater, recallsLater⟩ :=
      StateFile.recalls_keep halfway.saved accepted storableNow
    -- the new ID stands beside the old attributes until the look-up, which may fail
    have readBack := halfway_readBack number valid zone printable regular clean accepted fails halfway
      prepared named storableNow after savedLater recallsLater
    simp only [Except.map, keptNow, Transcript.andThen_ok, leaves_after]
    exact readBack.andThen fun found state files halfway => ⟨fun _ _ => halfway, fun _ _ => halfway⟩
  · rw [answer, (fails.failed (Reconcile.writeRequest desired ifMatch)).writeAnswer_eq, leaves_error]
    -- the file says what it said before the write, whether it was made or not
    rcases after with after | after
    · rw [after]
      exact halfway
    · rw [after]
      refine halfway.written valid zone printable clean prepared halfway.saved ?_
      exact halfway.recalls.imp_right fun gone => gone.2

end Writing

/-! ## The interrupted run -/

/-- Wherever a run of `apply` is interrupted, it is half of the way. -/
theorem halfway_apply {words : List String} {globals : Globals} {file : String}
    (invoked : Invocation.ofWords words = .run globals (.apply file path))
    (environment : Environment) (applicable : Applicable start origin file path desired tracked)
    (accepted : origin.Accepts path)
    (records : ∀ id stored, PtrRecordId.parse tracked.idText = .ok id →
      start.find? id.address.ptr = some stored → stored.Storable)
    (fails : outage.Fails) (count : Nat) :
    let broken := execute outage.service number environment words origin (count, start)
    Halfway start origin path desired tracked broken.state.2 broken.files := by
  obtain ⟨description, described, valid⟩ := applicable.accepted
  have regular := Files.regular_of_readJson described
  have clean : Clean start := {
    subscription := applicable.subscription
    subscriptionPlain := applicable.subscriptionPlain
    identified := applicable.reachable.identified
    named := applicable.named }
  have recalls : Recalls origin path tracked.idText := ⟨tracked, applicable.loaded, rfl⟩
  have untouched : Halfway start origin path desired tracked start origin := {
    reachable := applicable.reachable
    named := applicable.named
    zones := rfl
    subscription := rfl
    others := fun _ _ _ => rfl
    saved := .inl rfl
    recalls := .inl recalls }
  have connected : Leaves (Halfway start origin path desired tracked)
      (fun _ memory files => memory = start ∧ files = origin)
      ((connect globals environment).run (outageHost outage path number) (count, start) origin) := by
    rw [run_connect]
    split
    · exact leaves_error.mpr untouched
    · exact leaves_ok.mpr ⟨rfl, rfl⟩
  have whole : Leaves (Halfway start origin path desired tracked)
      (fun _ => Halfway start origin path desired tracked)
      ((converge origin environment globals file path).run (outageHost outage path number)
        (count, start) origin) := by
    rw [run_converge _ origin origin environment globals described valid applicable.loaded]
    -- phase by phase, each from what the one before it left
    refine connected.andThen fun _ state files ⟨isStart, isOrigin⟩ => ?_
    obtain ⟨count, memory⟩ := state
    obtain rfl : memory = start := isStart
    obtain rfl := isOrigin
    have looked := leaves_refresh number (count, memory) fails clean
      (StateFile.storable_of_load applicable.loaded) records (.inl rfl) accepted recalls
    refine (looked.mono (fun after later ⟨same, sameFiles⟩ => same ▸ sameFiles ▸ untouched)
      fun _ _ _ fact => fact).andThen fun found state later ⟨same, was, storable, saved, recalled⟩ => ?_
    refine (halfway_replace number clean applicable.reachable accepted fails applicable.unspecified
      same was storable saved recalled).andThen fun kept state later ready => ?_
    refine (halfway_write number valid applicable.zone applicable.printable regular clean accepted
      fails ready).andThen fun done state later halfway => ?_
    exact leaves_ok.mpr halfway
  intro broken
  have ran : broken = _ := execute_of_run invoked outage.service number environment origin
    (count, start)
  rw [ran]
  rcases result : ((converge origin environment globals file path).run (outageHost outage path number)
    (count, start) origin).result with failure | done
  · exact whole.failed failure result
  · exact whole.done done result

/-! ## The run after it -/

/-- The state file that is left can be loaded, and the desired record set applied with it. -/
theorem Halfway.applicable {file : String}
    (halfway : Halfway start origin path desired tracked memory files)
    (applicable : Applicable start origin file path desired tracked)
    (undisturbed : ∀ text, (origin.save path text).2.readJson file = origin.readJson file) :
    ∃ current, Applicable memory files file path desired current ∧
      (current.idText = tracked.idText ∨
        (∀ key, Replaced desired tracked key → memory.find? key = none) ∧
          ∀ key, ¬Replaced desired current key) := by
  obtain ⟨description, described, valid⟩ := applicable.accepted
  have base {current : Tracked} (loaded : StateFile.load files path = .ok current)
      (readable : ∀ text, current.usableId = some text → ∃ id, PtrRecordId.parse text = .ok id) :
      Applicable memory files file path desired current := {
    reachable := halfway.reachable
    named := halfway.named
    subscription := halfway.subscription ▸ applicable.subscription
    subscriptionPlain := halfway.subscription ▸ applicable.subscriptionPlain
    accepted := ⟨description, (halfway.saved.readJson undisturbed).trans described, valid⟩
    unspecified := applicable.unspecified
    zone := halfway.zones ▸ applicable.zone
    printable := applicable.printable
    loaded
    readable }
  -- the file names the record set that was tracked, or nothing, or the desired one
  rcases halfway.recalls with ⟨current, loaded, same⟩ |
    ⟨vacated, ⟨current, loaded, bare⟩ | ⟨current, loaded, named⟩⟩
  · refine ⟨current, base loaded fun text usable => ?_, .inl same⟩
    obtain ⟨rfl, nonempty⟩ := usableId_eq_some.mp usable
    exact applicable.readable _ (usableId_eq_some.mpr ⟨same.symm, nonempty⟩)
  · refine ⟨current, base loaded fun text usable => ?_, .inr ⟨vacated, ?_⟩⟩
    · obtain ⟨rfl, nonempty⟩ := usableId_eq_some.mp usable
      exact absurd bare nonempty
    · rintro key ⟨id, parsed, -⟩
      exact PtrRecordId.ne_empty_of_parse parsed bare
  · obtain ⟨group, zoneName, name⟩ := Desired.address_nonempty valid
    have parsed := parse_idFor applicable.subscription applicable.subscriptionPlain group zoneName
      name applicable.printable
    rw [← named] at parsed
    refine ⟨current, base loaded fun text usable => ?_, .inr ⟨vacated, ?_⟩⟩
    · obtain ⟨rfl, -⟩ := usableId_eq_some.mp usable
      exact ⟨_, parsed⟩
    · -- the desired record set does not make room for itself
      rintro key ⟨id, read, different, -⟩
      obtain rfl := Except.ok.inj (parsed.symm.trans read)
      have itself : (start.idFor desired.address).address.same desired.address = true := by
        simp [Memory.idFor, PtrRecordId.address, Address.same, Desired.address]
      rw [itself] at different
      cases different

theorem Prepared.alike {first second : Memory} {kept kept' : Tracked} {ifMatch ifMatch' : String}
    (single : Prepared start first desired tracked kept ifMatch)
    (halfway : Halfway start origin path desired tracked memory files)
    (again : Prepared memory second desired current kept' ifMatch')
    (remembered : current.idText = tracked.idText ∨
      (∀ key, Replaced desired tracked key → memory.find? key = none) ∧
        ∀ key, ¬Replaced desired current key) :
    (second.written desired.address.ptr desired.properties).Alike
      (first.written desired.address.ptr desired.properties) where
  subscription := again.subscription.trans (halfway.subscription.trans single.subscription.symm)
  zones := again.zones.trans (halfway.zones.trans single.zones.symm)
  records := by
    intro key
    rw [Memory.find?_written, Memory.find?_written]
    by_cases apart : Memory.recordKey key = Memory.recordKey desired.address.ptr
    · rw [if_pos apart, if_pos apart, Option.map_some, Option.map_some,
        Memory.withoutEtag_storedOf
          (again.subscription.trans (halfway.subscription.trans single.subscription.symm))]
    · rw [if_neg apart, if_neg apart]
      by_cases replaced : Replaced desired tracked key
      · -- it had to make room, in the first run or in the second
        have gone : second.find? key = none := by
          rcases remembered with same | ⟨vacated, stays⟩
          · exact again.vacated key (by rwa [Replaced, same])
          · rw [again.kept key apart (stays key)]
            exact vacated key replaced
        rw [gone, single.vacated key replaced]
      · have stays : ¬Replaced desired current key := by
          rcases remembered with same | ⟨-, stays⟩
          · rwa [Replaced, same]
          · exact stays key
        rw [again.kept key apart stays, halfway.others key apart replaced,
          single.kept key apart replaced]

/-- A run of `apply` after one that a failed call interrupted, or after one that was not, succeeds
and leaves what a single run leaves, but for etags. The state file must be one that a run can save
without writing over the desired file, and what the memory holds about the record set that is
tracked must be something that a state file can hold. -/
theorem apply_recovers {words : List String} {globals : Globals} {file path : String}
    (invoked : Invocation.ofWords words = .run globals (.apply file path)) (number later : Nat)
    (environment : Environment) {files : Files} {memory : Memory} {desired : Desired}
    {tracked : Tracked} (applicable : Applicable memory files file path desired tracked)
    (creatable : files.has path = false → files.Accepts path)
    (undisturbed : ∀ text, (files.save path text).2.readJson file = files.readJson file)
    (records : ∀ id stored, PtrRecordId.parse tracked.idText = .ok id →
      memory.find? id.address.ptr = some stored → stored.Storable)
    {outage : Outage} (fails : outage.Fails) :
    let single := execute Memory.service number environment words files memory
    let broken := execute outage.service number environment words files (0, memory)
    let again := execute Memory.service later environment words broken.files broken.state.2
    again.exitCode = 0 ∧ again.state.Alike single.state ∧
      ∃ first second : Tracked, again.files.text? path = some (StateFile.render first) ∧
        single.files.text? path = some (StateFile.render second) ∧ first.Alike second := by
  intro single broken again
  have accepted := applicable.writable creatable
  have halfway : Halfway memory files path desired tracked broken.state.2 broken.files :=
    halfway_apply number invoked environment applicable accepted records fails 0
  obtain ⟨current, applicableAgain, remembered⟩ := halfway.applicable applicable undisturbed
  obtain ⟨first, kept, ifMatch, prepared, -, -, state, text⟩ :=
    apply_ends invoked number environment applicable accepted
  obtain ⟨second, kept', ifMatch', preparedAgain, exit, -, stateAgain, textAgain⟩ :=
    apply_ends invoked later environment applicableAgain (halfway.saved.accepts accepted)
  have alike := prepared.alike halfway preparedAgain remembered
  refine ⟨exit, ?_, _, _, textAgain, text, alike_trackedOf ?_ _ _⟩
  · rw [state, stateAgain]
    exact alike
  · exact Memory.withoutEtag_storedOf alike.subscription _ _

theorem holdingB_storable : ∀ entry ∈ holdingB.recordSets, entry.2.Storable := by
  obtain ⟨-, -, -, -, -, stored⟩ := described_evaluated
  intro entry member
  obtain ⟨-, ttl, untagged⟩ := stored entry member
  have untagged := List.isEmpty_iff.mp untagged
  exact {
    ttl
    regular := untagged ▸ .empty
    texts := untagged ▸ nofun }

/-- The second call is carried out, but its answer never arrives. -/
def lostAnswer : Outage :=
  { position := 1, carriedOut := true, answer := .error (.ofMessage "timeout") }

theorem fails_lostAnswer : lostAnswer.Fails := by
  intro reply answer
  cases answer

/-- A run that replaces `b` by `a` is interrupted when it deletes `b`; the run after it makes up for
that. -/
theorem apply_recovers_b :
    let single := execute Memory.service 0 [] (applyWords "s") describedFiles holdingB
    let broken := execute lostAnswer.service 0 [] (applyWords "s") describedFiles (0, holdingB)
    let again := execute Memory.service 1 [] (applyWords "s") broken.files broken.state.2
    again.exitCode = 0 ∧ again.state.Alike single.state ∧
      ∃ first second : Tracked, again.files.text? "s" = some (StateFile.render first) ∧
        single.files.text? "s" = some (StateFile.render second) ∧ first.Alike second := by
  have undisturbed : ∀ text, (describedFiles.save "s" text).2.readJson "d" =
      describedFiles.readJson "d" := by
    intro text
    have same : (describedFiles.save "s" text).2.read "d" = describedFiles.read "d" := rfl
    rw [Files.readJson, Files.readJson, same]
  have records : ∀ id stored, PtrRecordId.parse trackedB.idText = .ok id →
      holdingB.find? id.address.ptr = some stored → stored.Storable :=
    fun _ _ _ found => holdingB_storable _ (Keyed.mem_of_get? found)
  exact apply_recovers invoked_s 0 1 [] applicable_trackedB creatable_s undisturbed records
    fails_lostAnswer

/-- Where the directory of a missing state file is a file, the run after an interrupted one fails
as that one did. -/
theorem apply_fails_again_below_file :
    let broken := execute lostAnswer.service 0 [] (applyWords "d/s") describedFiles (0, holdingB)
    Applicable holdingB describedFiles "d" "d/s" describedA .empty ∧ lostAnswer.Fails ∧
      broken.exitCode = 1 ∧
      (execute Memory.service 1 [] (applyWords "d/s") broken.files broken.state.2).exitCode = 1 := by
  have applicable : Applicable holdingB describedFiles "d" "d/s" describedA .empty :=
    applicable_describedFiles rfl fun text usable => nomatch usable
  refine ⟨applicable, fails_lostAnswer, ?_⟩
  decide +kernel

/-- A desired file that is the state file as well does not last until the next run. -/
example :
    let broken := execute lostAnswer.service 0 [] (applyWords "d") describedFiles (0, holdingB)
    (execute Memory.service 1 [] (applyWords "d") broken.files broken.state.2).exitCode = 1 := by
  decide +kernel

/-- A TTL that is no whole number is saved by the look-up, and not read by the next run. -/
example :
    let uneven := { Desired.read (Desired.describing "b") with ttl := 1.5 }
    let memory := (holdingB.serve (Reconcile.writeRequest uneven "")).2
    let broken := execute lostAnswer.service 0 [] (applyWords "s") describedFiles (0, memory)
    (execute Memory.service 1 [] (applyWords "s") broken.files broken.state.2).exitCode = 1 := by
  decide +kernel

end ReverseDns.CommandLine
