import ReverseDns.Program

/-!
# A DNS service in memory

Zones and record sets held in memory, with the IDs, etags and statuses of the remote service.
Names are compared without letter case. Etags are numbered in the order in which they are issued,
so no two writes share one.

* `Memory` -- the zones and record sets
* `Memory.addZone` -- register a zone; record sets are written into registered zones only
* `Memory.serve` -- answer a call
-/

namespace ReverseDns

/-- A record set that is stored. -/
structure Stored where
  id : String
  name : String
  etag : String
  ttl : Float
  fqdn : String
  metadata : Members
  entries : List Entry

/-- The zones and record sets of a subscription. -/
structure Memory where
  subscriptionId : String := "00000000-0000-0000-0000-000000000000"
  /-- The keys of the registered zones. -/
  zones : List String := []
  /-- The record sets, by key. -/
  recordSets : List (String × Stored) := []
  /-- How many etags have been issued. -/
  issued : Nat := 0

namespace Memory

/-- The key of a zone. -/
def zoneKey (resourceGroup zoneName : String) : String :=
  Text.lowerCase resourceGroup ++ "/" ++ Text.lowerCase zoneName

/-- The key of a record set. -/
def recordKey (key : RecordKey) : String :=
  zoneKey key.resourceGroup key.zoneName ++ "/" ++ key.recordType.name ++ "/" ++
    Text.lowerCase key.recordName

/-- Register a zone. -/
def addZone (memory : Memory) (resourceGroup zoneName : String) : Memory :=
  { memory with zones := zoneKey resourceGroup zoneName :: memory.zones }

def addZones (memory : Memory) (zones : List (String × String)) : Memory :=
  zones.foldl (fun memory zone => memory.addZone zone.1 zone.2) memory

def size (memory : Memory) : Nat := memory.recordSets.length

def find? (memory : Memory) (key : RecordKey) : Option Stored :=
  Keyed.get? memory.recordSets (recordKey key)

/-- The etag with a number. -/
def etagOf (number : Nat) : String := s!"etag-{number}"

def idOf (subscriptionId : String) (key : RecordKey) : String :=
  Text.join ["", "subscriptions", subscriptionId, "resourceGroups", key.resourceGroup,
    "providers", PtrRecordId.provider, "dnszones", key.zoneName, key.recordType.name,
    key.recordName]

/-- The full domain name of a record set; `@` is the zone itself. -/
def fqdnOf (key : RecordKey) : String :=
  if key.recordName = "@" then key.zoneName ++ "."
  else key.recordName ++ "." ++ key.zoneName ++ "."

/-- The record set that a write stores under an etag. -/
def storedUnder (memory : Memory) (etag : String) (key : RecordKey) (properties : Properties) :
    Stored where
  id := idOf memory.subscriptionId key
  name := key.recordName
  etag := etag
  ttl := properties.ttl
  fqdn := fqdnOf key
  metadata := properties.metadata.get?.getD []
  entries := properties.entries

/-- The record set that a write stores under the next etag. -/
def storedOf (memory : Memory) (key : RecordKey) (properties : Properties) : Stored :=
  memory.storedUnder (etagOf (memory.issued + 1)) key properties

/-- A stored record set as it is returned. -/
def view (stored : Stored) : RecordSet where
  id := .given stored.id
  name := .given stored.name
  etag := .given stored.etag
  ttl := .given stored.ttl
  fqdn := .given stored.fqdn
  metadata := .given stored.metadata
  entries := .given stored.entries

/-- A reply that only refuses. -/
def refusal (status : Float) (message : String) : Reply :=
  { status, error := some (Thrown.ofMessage message) }

/-- Whether a record set may be written or deleted: no etag is asked for, or it has that etag. -/
def matchesEtag (existing : Option Stored) (ifMatch : String) : Bool :=
  ifMatch == "" || (existing.map Stored.etag) == some ifMatch

/-- Write a record set into a registered zone under an etag, unless a token forbids it. -/
def upsertUnder (memory : Memory) (etag : String) (key : RecordKey) (properties : Properties)
    (ifMatch ifNoneMatch : String) : Reply × Memory :=
  if !memory.zones.contains (zoneKey key.resourceGroup key.zoneName) then
    (refusal 404 s!"The resource 'dnszones/{key.zoneName}' was not found", memory)
  else
    let existing := memory.find? key
    if ifNoneMatch == "*" && existing.isSome then
      (refusal 412 s!"Record set {key.recordName} already exists", memory)
    else if !matchesEtag existing ifMatch then
      (refusal 412 s!"Etag mismatch for record set {key.recordName}", memory)
    else
      let stored := memory.storedUnder etag key properties
      ({ status := if existing.isSome then 200 else 201, id := .given stored.id,
         etag := .given stored.etag },
       { memory with
         recordSets := Keyed.insert memory.recordSets (recordKey key) stored
         issued := memory.issued + 1 })

/-- Write a record set under the next etag. -/
def upsert (memory : Memory) (key : RecordKey) (properties : Properties)
    (ifMatch ifNoneMatch : String) : Reply × Memory :=
  memory.upsertUnder (etagOf (memory.issued + 1)) key properties ifMatch ifNoneMatch

def get (memory : Memory) (key : RecordKey) : Reply :=
  match memory.find? key with
  | none => refusal 404 s!"The resource record '{key.recordName}' does not exist"
  | some stored => { status := 200, recordSet := .given (view stored) }

/-- Delete a record set, unless a token forbids it. -/
def delete (memory : Memory) (key : RecordKey) (ifMatch : String) : Reply × Memory :=
  match memory.find? key with
  | none => ({ status := 204 }, memory)
  | some stored =>
    if matchesEtag (some stored) ifMatch then
      ({ status := 200 },
       { memory with recordSets := Keyed.erase memory.recordSets (recordKey key) })
    else (refusal 412 s!"Etag mismatch for record set {key.recordName}", memory)

def serve (request : Request) (memory : Memory) : Reply × Memory :=
  match request with
  | .upsert key properties ifMatch ifNoneMatch => memory.upsert key properties ifMatch ifNoneMatch
  | .get key => (memory.get key, memory)
  | .delete key ifMatch => memory.delete key ifMatch

/-- The memory as a service. -/
def service : Service Memory where
  serve request memory :=
    let (reply, memory) := memory.serve request
    { answer := .ok reply, state := memory }

end Memory

end ReverseDns
