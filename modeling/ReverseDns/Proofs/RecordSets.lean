import ReverseDns.Service.Memory
import ReverseDns.Proofs.Acceptance
import ReverseDns.Proofs.Answers
import ReverseDns.Proofs.RecordIds

/-!
# Laws of the memory

What one call does to the record sets in memory, said through `Memory.find?`, and what every call
preserves.

* `Memory.recordKey_ptr_eq_iff` -- keys tell addresses apart, but for letter case
* `Memory.written`, `Memory.erased` -- a memory after a write, and after a deletion
* `Memory.upsert_cases`, `Memory.delete_unconditional` -- what a write and a deletion do
* `Memory.Reachable` -- the memories that calls lead to
* `Memory.readAnswer_get` -- what a look-up makes of the answer
* `Memory.run_write_made`, `Memory.run_refresh_made` -- runs of a write, and of the look-up after it
-/

namespace ReverseDns

open Text (Slashless)

/-- A stored record set with known host names, as it is read at an address. -/
def Stored.remote (stored : Stored) (address : Address) (records : List Hostname) : Remote where
  id := stored.id
  address := address
  ttl := some stored.ttl
  etag := stored.etag
  records := records
  tags := stored.metadata
  fqdn := .given stored.fqdn

namespace Memory

/-! ## Keys -/

theorem recordKey_ptr (address : Address) :
    recordKey address.ptr = Text.join [Text.lowerCase address.resourceGroup,
      Text.lowerCase address.zoneName, "PTR", Text.lowerCase address.recordName] := by
  apply String.toList_injective
  simp [recordKey, zoneKey, Address.ptr, RecordType.ptr, Text.join]

/-- Addresses that name one record set have one key. -/
theorem recordKey_ptr_of_same {first second : Address} (same : first.same second) :
    recordKey first.ptr = recordKey second.ptr := by
  obtain ⟨group, zone, record⟩ := Address.same_iff.mp same
  rw [recordKey_ptr, recordKey_ptr, group, zone, record]

/-- Keys tell addresses without slashes apart, but for letter case. -/
theorem recordKey_ptr_eq_iff {first second : Address} (firstPlain : first.Plain)
    (secondPlain : second.Plain) :
    recordKey first.ptr = recordKey second.ptr ↔ first.same second := by
  constructor
  · intro equal
    -- keys are joined segments, and lower case brings no slash into them
    have slashless (address : Address) (plain : address.Plain) : ∀ segment ∈
        [Text.lowerCase address.resourceGroup, Text.lowerCase address.zoneName, "PTR",
          Text.lowerCase address.recordName], Slashless segment := by
      intro segment member
      simp only [List.mem_cons, List.not_mem_nil, or_false] at member
      rcases member with rfl | rfl | rfl | rfl
      · exact (Text.slashless_lowerCase _).mpr plain.resourceGroup
      · exact (Text.slashless_lowerCase _).mpr plain.zoneName
      · decide
      · exact (Text.slashless_lowerCase _).mpr plain.recordName
    rw [recordKey_ptr, recordKey_ptr] at equal
    have parts := Text.join_injective (List.cons_ne_nil _ _) (slashless first firstPlain)
      (List.cons_ne_nil _ _) (slashless second secondPlain) equal
    simp only [List.cons.injEq, and_true, true_and] at parts
    exact Address.same_iff.mpr parts
  · exact recordKey_ptr_of_same

theorem count_recordKey_ptr (address : Address) :
    (recordKey address.ptr).toList.count '/' =
      (Text.lowerCase address.resourceGroup).toList.count '/' +
        (Text.lowerCase address.zoneName).toList.count '/' +
        (Text.lowerCase address.recordName).toList.count '/' + 3 := by
  simp [recordKey, zoneKey, Address.ptr, RecordType.ptr]
  omega

/-- A key that is that of an address without slashes is of no other kind of address. -/
theorem plain_of_recordKey_ptr_eq {first second : Address} (plain : first.Plain)
    (equal : recordKey first.ptr = recordKey second.ptr) : second.Plain := by
  have counted : (recordKey first.ptr).toList.count '/' = (recordKey second.ptr).toList.count '/' :=
    by rw [equal]
  have none (part : String) (slashless : Slashless part) :
      (Text.lowerCase part).toList.count '/' = 0 :=
    List.count_eq_zero.mpr ((Text.slashless_lowerCase part).mpr slashless)
  have slashless (part : String) (zero : (Text.lowerCase part).toList.count '/' = 0) :
      Slashless part := (Text.slashless_lowerCase part).mp (List.count_eq_zero.mp zero)
  -- three slashes stand between the parts, so none is left for the parts themselves
  rw [count_recordKey_ptr, count_recordKey_ptr, none _ plain.resourceGroup, none _ plain.zoneName,
    none _ plain.recordName] at counted
  exact {
    resourceGroup := slashless _ (by omega)
    zoneName := slashless _ (by omega)
    recordName := slashless _ (by omega) }

theorem find?_of_same {first second : Address} (same : first.same second) (memory : Memory) :
    memory.find? first.ptr = memory.find? second.ptr := by
  rw [find?, find?, recordKey_ptr_of_same same]

/-! ## Calls -/

variable (memory : Memory) (key other : RecordKey)

/-- The memory after a write. -/
def written (properties : Properties) : Memory :=
  { memory with
    recordSets := Keyed.insert memory.recordSets (recordKey key) (memory.storedOf key properties)
    issued := memory.issued + 1 }

/-- The memory after a deletion. -/
def erased : Memory := { memory with recordSets := Keyed.erase memory.recordSets (recordKey key) }

theorem find?_written (properties : Properties) :
    (memory.written key properties).find? other =
      if recordKey other = recordKey key then some (memory.storedOf key properties)
      else memory.find? other :=
  Keyed.get?_insert ..

theorem find?_erased :
    (memory.erased key).find? other =
      if recordKey other = recordKey key then none else memory.find? other :=
  Keyed.get?_erase ..

/-- The reply to a write. -/
def acknowledgement (properties : Properties) : Reply where
  status := if (memory.find? key).isSome then 200 else 201
  id := .given (memory.storedOf key properties).id
  etag := .given (memory.storedOf key properties).etag

/-- A write is made, or it is refused and changes nothing. -/
theorem upsert_cases (properties : Properties) (ifMatch ifNoneMatch : String) :
    memory.upsert key properties ifMatch ifNoneMatch =
        (memory.acknowledgement key properties, memory.written key properties) ∨
      ∃ status message, isSuccess status = false ∧
        memory.upsert key properties ifMatch ifNoneMatch = (refusal status message, memory) := by
  unfold upsert upsertUnder
  split
  · exact .inr ⟨404, _, by decide, rfl⟩
  · dsimp only
    split
    · exact .inr ⟨412, _, by decide, rfl⟩
    · split
      · exact .inr ⟨412, _, by decide, rfl⟩
      · exact .inl rfl

/-- A write into a registered zone is made if the etag is the stored one. -/
theorem upsert_of_matchesEtag {memory : Memory} {key : RecordKey} {ifMatch : String}
    (properties : Properties)
    (zone : memory.zones.contains (zoneKey key.resourceGroup key.zoneName) = true)
    (current : matchesEtag (memory.find? key) ifMatch = true) :
    memory.upsert key properties ifMatch "" =
      (memory.acknowledgement key properties, memory.written key properties) := by
  have unforbidden : ("" == "*") = false := by decide
  simp only [upsert, upsertUnder, zone, current, unforbidden, Bool.not_true, Bool.false_and,
    Bool.false_eq_true, if_false]
  rfl

theorem isSuccess_acknowledgement (properties : Properties) :
    isSuccess (memory.acknowledgement key properties).status = true := by
  unfold acknowledgement
  dsimp only
  split <;> decide

/-- A deletion without an etag leaves no record set, and nothing else changes. -/
theorem delete_unconditional :
    ∃ status after, memory.delete key "" = ({ status }, after) ∧ isSuccess status = true ∧
      after.zones = memory.zones ∧ after.subscriptionId = memory.subscriptionId ∧
      ∀ other, after.find? other =
        if recordKey other = recordKey key then none else memory.find? other := by
  unfold delete
  split
  next missing =>
    -- nothing was stored under the key, so nothing has to go
    refine ⟨204, memory, rfl, by decide, rfl, rfl, fun other => ?_⟩
    split
    next equal =>
      rw [find?] at missing ⊢
      rw [equal, missing]
    next => rfl
  next stored found =>
    have current : matchesEtag (some stored) "" = true := by simp [matchesEtag]
    rw [if_pos current]
    exact ⟨200, memory.erased key, rfl, by decide, rfl, rfl,
      fun other => memory.find?_erased key other⟩

/-! ## Writes of desired record sets -/

/-- The ID of the record set at an address. -/
def idFor (address : Address) : PtrRecordId where
  subscriptionId := memory.subscriptionId
  resourceGroup := address.resourceGroup
  zoneName := address.zoneName
  recordName := address.recordName

theorem id_storedOf (address : Address) (properties : Properties) :
    (memory.storedOf address.ptr properties).id = (memory.idFor address).format := rfl

theorem idOf_ne_empty (subscriptionId : String) (key : RecordKey) :
    idOf subscriptionId key ≠ "" := by
  intro empty
  let segments := ["subscriptions", subscriptionId, "resourceGroups", key.resourceGroup,
    "providers", PtrRecordId.provider, "dnszones", key.zoneName, key.recordType.name,
    key.recordName]
  have rooted := Text.toList_join_cons (show segments ≠ [] from List.cons_ne_nil _ _)
  change Text.join ("" :: segments) = "" at empty
  rw [empty] at rooted
  cases rooted

open Reconcile (writeAnswer replyOf) in
/-- A write that was made hands out the ID of the record set, if that can be read. -/
theorem writeAnswer_acknowledgement (desired : Desired) :
    writeAnswer desired (.ok (memory.acknowledgement desired.address.ptr desired.properties)) =
      (PtrRecordId.parse (memory.idFor desired.address).format).map fun id =>
        ((memory.idFor desired.address).format, id) := by
  have success := memory.isSuccess_acknowledgement desired.address.ptr desired.properties
  have given : (memory.acknowledgement desired.address.ptr desired.properties).id.get?.getD "" =
      (memory.idFor desired.address).format := rfl
  have nonempty : (memory.idFor desired.address).format ≠ "" :=
    idOf_ne_empty memory.subscriptionId desired.address.ptr
  simp only [writeAnswer, replyOf, success, if_true, given, nonempty, if_false]

theorem isTellable_ofMessage (message : String) :
    isTellable (some (Thrown.ofMessage message)) = true := by
  by_cases empty : message = ""
  · subst empty
    decide
  · simp [isTellable, Thrown.isDescribable, Thrown.ownMessage?, Thrown.ofMessage, Thrown.field?,
      Json.str?, empty]

open Reconcile (writeAnswer) in
/-- A write that is refused fails. -/
theorem writeAnswer_refusal (desired : Desired) {status : Float} (message : String)
    (refused : isSuccess status = false) :
    writeAnswer desired (.ok (refusal status message)) =
      .error (.remote (.writing desired.name) (some status) (some (.ofMessage message))) := by
  have failed : Failed (Reconcile.writeRequest desired "") (.ok (refusal status message)) :=
    .refused _ refused nofun
  rw [failed.writeAnswer_eq]
  exact congrArg Except.error (if_pos (isTellable_ofMessage message))

/-! ## What every call preserves -/

/-- The memories that calls lead to, from memories without record sets. -/
inductive Reachable : Memory → Prop where
  | fresh (subscriptionId : String) : Reachable { subscriptionId }
  | addZone {memory : Memory} (resourceGroup zoneName : String) :
      Reachable memory → Reachable (memory.addZone resourceGroup zoneName)
  | serve {memory : Memory} (request : Request) :
      Reachable memory → Reachable (memory.serve request).2

/-- Every stored record set has an ID. -/
def Identified : Prop := ∀ entry ∈ memory.recordSets, entry.2.id ≠ ""

/-- Every entry of every stored record set has a host name. -/
def Named : Prop :=
  ∀ entry ∈ memory.recordSets, ∀ item ∈ entry.2.entries, Hostnames.IsNamed item

theorem Identified.written {memory : Memory} (identified : memory.Identified) (key : RecordKey)
    (properties : Properties) : (memory.written key properties).Identified := by
  intro entry member
  rcases Keyed.mem_of_mem_insert member with rfl | member
  · exact idOf_ne_empty _ _
  · exact identified entry member

theorem Identified.serve {memory : Memory} (identified : memory.Identified) (request : Request) :
    (memory.serve request).2.Identified := by
  cases request with
  | upsert key properties ifMatch ifNoneMatch =>
    rw [Memory.serve]
    rcases memory.upsert_cases key properties ifMatch ifNoneMatch with made | ⟨_, _, _, refused⟩
    · rw [made]
      exact identified.written key properties
    · rw [refused]
      exact identified
  | get key => exact identified
  | delete key ifMatch =>
    rw [Memory.serve, delete]
    split
    · exact identified
    · split
      · exact fun entry member => identified entry (List.mem_filter.mp member).1
      · exact identified

/-- In every memory that calls lead to, every stored record set has an ID. -/
theorem Reachable.identified {memory : Memory} (reachable : memory.Reachable) :
    memory.Identified := by
  induction reachable with
  | fresh subscriptionId => exact fun entry member => nomatch member
  | addZone resourceGroup zoneName _ inductionHypothesis => exact inductionHypothesis
  | serve request _ inductionHypothesis => exact inductionHypothesis.serve request

/-! ## Look-ups -/

open Reconcile (readAnswer readAnswer_eq_none) in
theorem readAnswer_get_of_none {memory : Memory} {address : Address}
    (missing : memory.find? address.ptr = none) :
    readAnswer address (.ok (memory.get address.ptr)) = .ok none := by
  have absent : ((404 : Float) == 404) = true := by decide
  refine readAnswer_eq_none.mpr ⟨_, rfl, ?_⟩
  simp only [get, missing]
  exact absent

open Reconcile (readAnswer readAnswer_eq_none) in
/-- Only what is not stored is found to be gone. -/
theorem find?_of_readAnswer_none {memory : Memory} {address : Address}
    (gone : readAnswer address (.ok (memory.get address.ptr)) = .ok none) :
    memory.find? address.ptr = none := by
  cases found : memory.find? address.ptr with
  | none => rfl
  | some stored =>
    have present : ¬((200 : Float) == 404) = true := by decide
    obtain ⟨reply, answered, absent⟩ := readAnswer_eq_none.mp gone
    simp only [get, found, Except.ok.injEq] at answered
    subst answered
    exact absurd absent present

open Reconcile (readAnswer readAnswer_eq_some remoteOf ttlOf) in
theorem readAnswer_get {memory : Memory} {address : Address} {stored : Stored}
    {records : List Hostname} (found : memory.find? address.ptr = some stored)
    (identified : stored.id ≠ "") (flattened : Hostnames.flatten stored.entries = .ok records) :
    readAnswer address (.ok (memory.get address.ptr)) =
      .ok (some (stored.remote address records)) := by
  have present : ¬((200 : Float) == 404) = true := by decide
  have success : isSuccess 200 = true := by decide
  refine readAnswer_eq_some.mpr ⟨_, rfl, ?_⟩
  simp only [get, found]
  refine ⟨present, success, ?_⟩
  simp only [remoteOf, view, Part.get?, Option.bind_some, Option.map_some, identified, if_false,
    ttlOf, Option.getD_some, flattened, Stored.remote]

/-- The record set that is read back after it was written. -/
def remoteFor (memory : Memory) (desired : Desired) : Remote :=
  (memory.storedOf desired.address.ptr desired.properties).remote desired.address
    (Hostnames.ordered desired.records)

open Reconcile (readAnswer) in
/-- What was just written is read as it was described. -/
theorem readAnswer_written (memory : Memory) {description : Option Json} {desired : Desired}
    (accepted : Desired.ofJson description = .ok desired) :
    readAnswer desired.address
        (.ok ((memory.written desired.address.ptr desired.properties).get desired.address.ptr)) =
      .ok (some (memory.remoteFor desired)) := by
  have found : (memory.written desired.address.ptr desired.properties).find? desired.address.ptr =
      some (memory.storedOf desired.address.ptr desired.properties) := by
    rw [find?_written, if_pos rfl]
  exact readAnswer_get found (idOf_ne_empty _ _)
    (Hostnames.flatten_entries (Desired.records_nonempty accepted))

/-! ## Runs on the memory -/

open Reconcile (expectedEtag writeEnd writingLine writeRequest) in
/-- A run of a write whose call had an answer. -/
theorem run_write {memory after : Memory} {desired : Desired} {tracked : Tracked} {ifMatch : String}
    {reply : Reply} {home : Home} {number : Nat} {files : Files}
    (expected : expectedEtag desired tracked = .ok ifMatch)
    (answered : memory.upsert desired.address.ptr desired.properties ifMatch "" = (reply, after)) :
    (Reconcile.write desired tracked).run { service := service, home, number } memory files =
      (writeEnd { service := service, home, number } desired tracked
        { answer := .ok reply, state := after } files).after
        [writingLine desired, .called (writeRequest desired ifMatch) (.ok reply)] := by
  have served : service.serve (writeRequest desired ifMatch) memory =
      { answer := .ok reply, state := after } := by
    simp only [service, serve, writeRequest, answered]
  rw [Reconcile.run_write, expected]
  simp only [served]
  rfl

open Reconcile (expectedEtag identified readBack refresh writingLine writeRequest) in
/-- A run of a write that was made, and whose ID can be read. -/
theorem run_write_made {memory : Memory} {desired : Desired} {tracked : Tracked} {ifMatch : String}
    {home : Home} {number : Nat} {files : Files}
    (expected : expectedEtag desired tracked = .ok ifMatch)
    (made : memory.upsert desired.address.ptr desired.properties ifMatch "" =
      (memory.acknowledgement desired.address.ptr desired.properties,
        memory.written desired.address.ptr desired.properties))
    {id : PtrRecordId} (parsed : PtrRecordId.parse (memory.idFor desired.address).format = .ok id) :
    (Reconcile.write desired tracked).run { service := service, home, number } memory files =
      let named := identified tracked (memory.idFor desired.address).format
      let kept := home.keep named files
      ((Transcript.mk kept.1 [.saved named kept.1]
          (memory.written desired.address.ptr desired.properties) kept.2).andThen
        fun _ state files =>
          ((refresh named).run { service := service, home, number } state files).andThen
            fun found state files => ⟨readBack desired id found, [], state, files⟩).after
        [writingLine desired, .called (writeRequest desired ifMatch)
          (.ok (memory.acknowledgement desired.address.ptr desired.properties))] := by
  rw [run_write expected made]
  simp only [Reconcile.writeEnd, memory.writeAnswer_acknowledgement, parsed, Except.map]

open Reconcile (readingLine refresh refreshed refreshEnd) in
/-- What was just written is found again by its ID, and written down as it was found. -/
theorem run_refresh_made {memory : Memory} {description : Option Json} {desired : Desired}
    (accepted : Desired.ofJson description = .ok desired)
    (parsed : PtrRecordId.parse (memory.idFor desired.address).format =
      .ok (memory.idFor desired.address))
    {tracked : Tracked} (usable : tracked.usableId = some (memory.idFor desired.address).format)
    (home : Home) (number : Nat) (files : Files) :
    let after := memory.written desired.address.ptr desired.properties
    let final := refreshed tracked (memory.remoteFor desired)
    let kept := home.keep final files
    (refresh tracked).run { service := service, home, number } after files =
      ⟨kept.1.map fun _ => (final, some (memory.remoteFor desired)),
        [readingLine (memory.idFor desired.address),
          .called (.get desired.address.ptr) (.ok (after.get desired.address.ptr)),
          .saved final kept.1], after, kept.2⟩ := by
  have address : (memory.idFor desired.address).address = desired.address := rfl
  have served (after : Memory) : service.serve (.get desired.address.ptr) after =
      { answer := .ok (after.get desired.address.ptr), state := after } := rfl
  simp only [Reconcile.run_refresh, usable, parsed, address, served, refreshEnd,
    memory.readAnswer_written accepted]
  rfl

end Memory

end ReverseDns
