import ReverseDns.Record.Id

/-!
# Record sets

What a DNS service is asked and what it answers.

* `RecordKey` -- the address of a record set with its type
* `Hostname` -- a host name, by its units
* `Entry`, `Properties`, `RecordSet` -- what is written and what is read back
* `Request`, `Reply`, `Answer` -- the three calls and their results
-/

namespace ReverseDns

/-- The type of record sets, by its name. Names are told apart by letter case. -/
structure RecordType where
  name : String
deriving Repr, DecidableEq

namespace RecordType

/-- Pointers, the records of reverse DNS. -/
def ptr : RecordType := { name := "PTR" }

/-- The types that the service offers. -/
def offered : List RecordType :=
  ["A", "AAAA", "CNAME", "MX", "NS", "PTR", "SOA", "SRV", "TXT", "CAA"].map RecordType.mk

end RecordType

/-- The address of a record set, with its type. -/
structure RecordKey extends Address where
  recordType : RecordType
deriving Repr, DecidableEq

/-- The PTR record set at an address. -/
def Address.ptr (address : Address) : RecordKey := { address with recordType := .ptr }

/-- A host name, by its 16-bit units. They tell host names apart, also those with lone halves of
surrogate pairs, and put them in order. -/
structure Hostname where
  units : List UInt16
deriving Repr, DecidableEq

namespace Hostname

/-- The order by units, first difference first. -/
instance : LT Hostname where
  lt s t := s.units < t.units

def ofText (text : WideText) : Hostname := { units := text.units }

instance : Coe String Hostname where
  coe text := ofText text

def ofJson? (value : Json) : Option Hostname := value.text?.map ofText

def toJson (name : Hostname) : Json := .text (.ofUnits name.units)

end Hostname

/-- One entry of a PTR record set: its host name, if it has one, and what else it carries. -/
structure Entry where
  hostname : Part Hostname
  others : Members := []

/-- What an upsert writes. -/
structure Properties where
  metadata : Part Members
  ttl : Float
  entries : List Entry

/-- A record set as a service returns it. Any part may be missing or `null`. -/
structure RecordSet where
  id : Part String := .absent
  name : Part String := .absent
  etag : Part String := .absent
  ttl : Part Float := .absent
  fqdn : Part String := .absent
  metadata : Part Members := .absent
  entries : Part (List Entry) := .absent

/-- A call to a DNS service. An empty token asks for no check. -/
inductive Request where
  /-- Write a record set, if it has the etag `ifMatch` and unless `ifNoneMatch` forbids it. -/
  | upsert (key : RecordKey) (properties : Properties) (ifMatch ifNoneMatch : String)
  /-- Read a record set. -/
  | get (key : RecordKey)
  /-- Delete a record set, if it has the etag `ifMatch`. -/
  | delete (key : RecordKey) (ifMatch : String)

def Request.key : Request → RecordKey
  | .upsert key _ _ _ => key
  | .get key => key
  | .delete key _ => key

/-- What a service reports about a call: an HTTP status and whatever goes with it. -/
structure Reply where
  status : Float
  id : Part String := .absent
  etag : Part String := .absent
  recordSet : Part RecordSet := .absent
  error : Option Thrown := none

/-- A reply, or what was thrown in its place. -/
abbrev Answer := Except Thrown Reply

end ReverseDns
