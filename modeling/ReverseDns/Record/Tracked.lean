import ReverseDns.Record.Desired

/-!
# Tracked record sets

What is remembered about the record set under management: its ID, and the attributes that were
last read from the service.

* `Attributes` -- the attributes, as an object whose unknown members are kept
* `Remote` -- a record set as it was read from the service
* `Tracked` -- an ID and attributes, either of which may be absent
* `Tracked.toJson`, `Tracked.ofJson` -- a snapshot, and the check of one
-/

namespace ReverseDns

/-- The attributes of a record set: the members of an object, in order. -/
structure Attributes where
  members : Members

/-- A PTR record set as it was read from the service. -/
structure Remote where
  id : String
  address : Address
  /-- Nothing stands for `null`. -/
  ttl : Option Float
  etag : String
  /-- The distinct host names, in the order of their units. -/
  records : List Hostname
  tags : Members
  fqdn : Part String

namespace Attributes

/-- The attributes that are accepted. -/
def schema : Schema := .record [
  Field.required "name" {} (.text none),
  Field.required "resourceGroupName" {} (.text none),
  Field.required "zoneName" {} (.text none),
  Field.required "ttl" {} (.integer none),
  Field.required "etag" {} (.text none),
  Field.required "records" {} (.list (.text none)),
  Field.required "tags" {} .table]

/-- The cached etag; empty when there is none. -/
def etag (attributes : Attributes) : String :=
  ((Keyed.get? attributes.members "etag").bind Json.str?).getD ""

/-- The attributes of a record set that was read. -/
def ofRemote (remote : Remote) : Attributes where
  members := [
    ("name", .str remote.address.recordName),
    ("resourceGroupName", .str remote.address.resourceGroup),
    ("zoneName", .str remote.address.zoneName),
    ("ttl", (remote.ttl.map Json.num).getD .null),
    ("etag", .str remote.etag),
    ("records", .arr (remote.records.map Hostname.toJson)),
    ("tags", .obj remote.tags)]

end Attributes

def Remote.toJson (remote : Remote) : Json :=
  .obj (Json.optional "id" (some (.str remote.id)) ++ (Attributes.ofRemote remote).members ++
    Json.optional "fqdn" (remote.fqdn.json? .str))

/-- What is remembered about a record set. -/
structure Tracked where
  /-- The ID, just as it was given: it is written back with the lone halves that it may hold. -/
  id : Option WideText := none
  attributes : Option Attributes := none

namespace Tracked

def empty : Tracked := {}

/-- The ID as it is shown and taken apart; empty when there is none. -/
def idText (tracked : Tracked) : String := (tracked.id.map WideText.shown).getD ""

/-- The ID as it is shown and taken apart, unless it is empty. -/
def usableId (tracked : Tracked) : Option String :=
  if tracked.idText = "" then none else some tracked.idText

/-- The snapshots that are accepted. -/
def schema : Schema := .record [
  Field.optional "id" {} (.text none),
  Field.optional "attributes" {} Attributes.schema]

def validate (value : Option Json) : Except Failure Unit :=
  match schema.issues value with
  | [] => .ok ()
  | issues => .error (.invalid .snapshot issues)

def read (value : Json) : Tracked where
  id := (value.get? "id").bind Json.text?
  attributes := ((value.get? "attributes").bind Json.obj?).map Attributes.mk

def ofJson (value : Json) : Except Failure Tracked :=
  match validate (some value) with
  | .ok _ => .ok (read value)
  | .error failure => .error failure

/-- The snapshot of what is remembered. -/
def toJson (tracked : Tracked) : Json :=
  .obj (Json.optional "id" (tracked.id.map .text) ++
    Json.optional "attributes" (tracked.attributes.map fun attributes => .obj attributes.members))

end Tracked

end ReverseDns
