import ReverseDns.Program

/-!
# Reconciliation

The operations on one PTR record set. Each works on what is remembered about the record set and
hands over every change of it at once, so that a failure leaves the last change in place. Nothing
is tried twice.

* `lookUp` -- read a record set
* `refresh` -- bring what is remembered up to date
* `write`, `createOrUpdate` -- write a record set and read it back
* `remove` -- delete the record set that is remembered
* `adopt` -- remember a record set that exists
-/

namespace ReverseDns.Reconcile

open Program (tell remember call ofExcept)

/-- Fail because of a remote call, and log the failure. A cause that cannot be put into words is a
failure of its own, about which nothing is logged. -/
def failRemote {α : Type} (attempt : Attempt) (status : Option Float) (cause : Option Thrown) :
    Program α := do
  if isTellable cause then
    let failure := Failure.remote attempt status cause
    tell .error failure.message
    .stop failure
  else .stop .indescribable

/-- Call the service; what it throws is a failure of the attempt. -/
def reply (attempt : Attempt) (request : Request) : Program Reply := do
  match ← call request with
  | .ok answer => pure answer
  | .error thrown => failRemote attempt none (some thrown)

/-- The TTL of a record set; `null` counts as one. -/
def ttlOf (recordSet : RecordSet) : Option (Option Float) :=
  match recordSet.ttl with
  | .absent => none
  | .null => some none
  | .given ttl => some (some ttl)

/-- The record set that a successful answer describes. -/
def remoteOf (address : Address) (found : Option RecordSet) : Except Failure Remote :=
  match found.bind fun recordSet => recordSet.id.get?.map fun id => (recordSet, id) with
  | none => .error (.badAnswer (.noId address.recordName))
  | some (recordSet, id) =>
    if id = "" then .error (.badAnswer (.noId address.recordName))
    else match ttlOf recordSet with
      | none => .error (.badAnswer (.noTtl address.recordName))
      | some ttl =>
        match Hostnames.flatten (recordSet.entries.get?.getD []) with
        | .error failure => .error failure
        | .ok records => .ok {
            id := id
            address := address
            ttl := ttl
            etag := recordSet.etag.get?.getD ""
            records := records
            tags := recordSet.metadata.get?.getD []
            fqdn := recordSet.fqdn }

/-- Read the record set at an address. One that does not exist is no failure. -/
def lookUp (address : Address) : Program (Option Remote) := do
  let attempt := Attempt.reading address.recordName
  let answer ← reply attempt (.get address.ptr)
  if answer.status == 404 then pure none
  else if isSuccess answer.status then
    let remote ← ofExcept (remoteOf address answer.recordSet.get?)
    pure (some remote)
  else failRemote attempt (some answer.status) answer.error

/-- Bring what is remembered up to date. A record set that no longer exists is forgotten. -/
def refresh (tracked : Tracked) : Program (Tracked × Option Remote) := do
  match tracked.usableId with
  | none => pure (tracked, none)
  | some text =>
    let id ← ofExcept (PtrRecordId.parse text)
    tell .debug s!"Reading DNS PTR record {id.recordName} in zone {id.zoneName}"
    match ← lookUp id.address with
    | none =>
      tell .warn (s!"DNS PTR record {id.recordName} (resource group {id.resourceGroup}) " ++
        "not found, removing from state")
      remember .empty
      pure (.empty, none)
    | some remote =>
      let tracked := { tracked with attributes := some (Attributes.ofRemote remote) }
      remember tracked
      pure (tracked, some remote)

/-- The cached etag, if what is remembered is the desired record set. -/
def trackedEtag (desired : Desired) (tracked : Tracked) : Except Failure String :=
  match tracked.usableId with
  | none => .ok ""
  | some text =>
    match PtrRecordId.parse text with
    | .error failure => .error failure
    | .ok id =>
      if id.address.same desired.address then
        .ok ((tracked.attributes.map Attributes.etag).getD "")
      else .ok ""

/-- The etag that the record set has to have when it is written: the one that is asked for, or
else the cached one. -/
def expectedEtag (desired : Desired) (tracked : Tracked) : Except Failure String :=
  match desired.etag with
  | some etag => .ok etag
  | none => trackedEtag desired tracked

/-- Write the desired record set, remember its ID, and read it back, so that every attribute comes
from the service. An existing record set may be overwritten. -/
def write (desired : Desired) (tracked : Tracked) : Program (Tracked × PtrRecordId) := do
  let name := desired.name
  let group := desired.resourceGroupName
  let ifMatch ← ofExcept (expectedEtag desired tracked)
  tell .info (s!"Creating or updating DNS PTR Record {name} in zone {desired.zoneName} " ++
    s!"(resource group {group})")
  let attempt := Attempt.writing name
  let answer ← reply attempt (.upsert desired.address.ptr desired.properties ifMatch "")
  if isSuccess answer.status then
    let text := answer.id.get?.getD ""
    if text = "" then .stop (.badAnswer (.noIdAfterWrite name group))
    else
      let id ← ofExcept (PtrRecordId.parse text)
      let tracked := { tracked with id := some text }
      remember tracked
      match ← refresh tracked with
      | (_, none) => .stop (.badAnswer (.goneAfterWrite name group))
      | (tracked, some _) => pure (tracked, id)
  else failRemote attempt (some answer.status) answer.error

/-- Check a description and write the record set that it describes. -/
def createOrUpdate (description : Option Json) (tracked : Tracked) :
    Program (Tracked × PtrRecordId) := do
  let desired ← ofExcept (Desired.ofJson description)
  write desired tracked

/-- Delete the record set that is remembered, whatever its etag. What is remembered stays. -/
def remove (tracked : Tracked) : Program Unit := do
  let id ← ofExcept (PtrRecordId.parse tracked.idText)
  let name := id.recordName
  tell .info
    s!"Deleting DNS PTR Record {name} in zone {id.zoneName} (resource group {id.resourceGroup})"
  let attempt := Attempt.deleting name
  let answer ← reply attempt (.delete id.address.ptr "")
  -- an error beside a status of success does not count
  if isSuccess answer.status then pure ()
  else failRemote attempt (some answer.status) answer.error

/-- Remember the ID of a record set that exists, just as it is written. -/
def adopt (text : String) (tracked : Tracked) : Program (Tracked × PtrRecordId) := do
  let id ← ofExcept (PtrRecordId.parse text)
  tell .info s!"Importing DNS PTR Record {id.recordName} from zone {id.zoneName}"
  let tracked := { tracked with id := some text }
  remember tracked
  pure (tracked, id)

end ReverseDns.Reconcile
