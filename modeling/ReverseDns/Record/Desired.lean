import ReverseDns.Schema
import ReverseDns.Record.Hostnames

/-!
# Desired record sets

What a PTR record set should be, as a user describes it.

* `Desired.schema` -- the descriptions that are accepted
* `Desired` -- a description that was accepted
* `Desired.validate`, `Desired.ofJson` -- the check, and the check followed by the reading
-/

namespace ReverseDns

/-- A PTR record set as it should be. The names and the etag are kept as they are shown, which tells
well-formed texts apart: in them a lone half of a surrogate pair counts as the replacement
character. The host names and the tags are kept exactly. -/
structure Desired where
  name : String
  resourceGroupName : String
  zoneName : String
  /-- The host names, in any order and with repetitions. -/
  records : List Hostname
  ttl : Float
  tags : Option Members
  /-- The etag that the record set has to have when it is written. -/
  etag : Option String

namespace Desired

/-- The descriptions that are accepted. -/
def schema : Schema := .record [
  Field.required "name"
    { description := some "Record set name relative to the zone", forceNew := true }
    (.text (some 1)),
  Field.required "resourceGroupName"
    { description := some "Resource group of the zone", forceNew := true } (.text (some 1)),
  Field.required "zoneName"
    { description := some "DNS zone name, e.g. 2.0.192.in-addr.arpa", forceNew := true }
    (.text (some 1)),
  Field.required "records" { description := some "Target hostnames (set semantics)" }
    (.list (.text (some 1))),
  Field.required "ttl" { description := some "Time to live in seconds" } (.integer (some 0)),
  Field.optional "tags" {} .table,
  Field.optional "etag"
    { description := some "Last known etag, sent as If-Match", computed := true } (.text none)]

def forceNewFields : List String := schema.fieldsWith Remarks.forceNew

def computedFields : List String := schema.fieldsWith Remarks.computed

def validate (value : Option Json) : Except Failure Unit :=
  match schema.issues value with
  | [] => .ok ()
  | issues => .error (.invalid .desired issues)

/-- The text of a field, as it is shown. -/
def textField (value : Json) (name : String) : String := ((value.get? name).bind Json.str?).getD ""

def read (value : Json) : Desired where
  name := textField value "name"
  resourceGroupName := textField value "resourceGroupName"
  zoneName := textField value "zoneName"
  records := (((value.get? "records").bind Json.arr?).getD []).filterMap Hostnames.ofItem?
  ttl := ((value.get? "ttl").bind Json.num?).getD 0
  tags := (value.get? "tags").bind Json.obj?
  etag := (value.get? "etag").bind Json.str?

def ofJson (value : Option Json) : Except Failure Desired :=
  match validate value with
  | .ok _ => .ok (read (value.getD .null))
  | .error failure => .error failure

/-- Where the record set should live. -/
def address (desired : Desired) : Address where
  resourceGroup := desired.resourceGroupName
  zoneName := desired.zoneName
  recordName := desired.name

/-- What is written: one entry for each distinct host name, and all tags. -/
def properties (desired : Desired) : Properties where
  metadata := .given (desired.tags.getD [])
  ttl := desired.ttl
  entries := Hostnames.entries (Text.distinct desired.records)

end Desired

end ReverseDns
