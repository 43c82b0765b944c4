import ReverseDns.Failure
import ReverseDns.Text.Blank
import ReverseDns.Text.Segments
import ReverseDns.Text.LowerCase

/-!
# Resource IDs

A resource ID is a path of keys and values in turn, such as
`/subscriptions/s/resourceGroups/g/providers/Microsoft.Network/dnszones/z/PTR/n`.

* `ResourceId.parse` -- the subscription, the resource group, the provider and the other pairs
* `PtrRecordId.parse`, `PtrRecordId.format` -- reading and writing the ID of a PTR record set
* `Address` -- where a record set lives inside a subscription
-/

namespace ReverseDns

/-- The parts of a resource ID. -/
structure ResourceId where
  subscriptionId : String
  resourceGroup : String
  provider : Option String
  /-- The remaining keys with their values, in order of first arrival. -/
  path : List (String × String)
deriving Repr, DecidableEq

/-- The ID of a PTR record set. -/
structure PtrRecordId where
  subscriptionId : String
  resourceGroup : String
  zoneName : String
  recordName : String
deriving Repr, DecidableEq

/-- Where a record set lives: its name in a zone of a resource group. -/
structure Address where
  resourceGroup : String
  zoneName : String
  recordName : String
deriving Repr, DecidableEq

/-- The address that an ID names. -/
def PtrRecordId.address (id : PtrRecordId) : Address :=
  { resourceGroup := id.resourceGroup, zoneName := id.zoneName, recordName := id.recordName }

/-- Whether two addresses name one record set: their parts are equal up to letter case. -/
def Address.same (a b : Address) : Bool :=
  Text.lowerCase a.resourceGroup == Text.lowerCase b.resourceGroup &&
  Text.lowerCase a.zoneName == Text.lowerCase b.zoneName &&
  Text.lowerCase a.recordName == Text.lowerCase b.recordName

namespace ResourceId

/-- The segments in pairs; a last segment without partner is left out. -/
def pairs : List String → List (String × String)
  | key :: value :: rest => (key, value) :: pairs rest
  | _ => []

def isIncomplete (pair : String × String) : Bool := pair.1 == "" || pair.2 == ""

def isSubscription (pair : String × String) : Bool := pair.1 == "subscriptions"

/-- The key of the resource group: the spelling with a capital, if it occurs. -/
def groupKey (entries : List (String × String)) : String :=
  if (Keyed.get? entries "resourceGroups").isSome then "resourceGroups" else "resourcegroups"

/-- The ID made of complete pairs. The first subscription counts; a later one is an ordinary pair.
Of other keys the last value counts. -/
def ofPairs (path : String) (complete : List (String × String)) : Except IdFault ResourceId :=
  match complete.find? isSubscription with
  | none => .error (.noSubscription path)
  | some subscription =>
    let entries := Keyed.ofPairs (complete.eraseP isSubscription)
    let key := groupKey entries
    match Keyed.get? entries key with
    | none => .error (.noResourceGroup path)
    | some group =>
      .ok {
        subscriptionId := subscription.2
        resourceGroup := group
        provider := Keyed.get? entries "providers"
        path := Keyed.erase (Keyed.erase entries key) "providers" }

/-- The ID whose path, without blanks and slashes at the ends, is `path`. -/
def ofPath (path : String) : Except IdFault ResourceId :=
  let segments := Text.split path
  if segments.length % 2 != 0 then .error (.oddSegments path)
  else match (pairs segments).find? isIncomplete with
    | some (key, value) => .error (.emptyPair key value)
    | none => ofPairs path (pairs segments)

/-- Read a resource ID. -/
def parse (text : String) : Except Failure ResourceId :=
  match ofPath (Text.bare (Text.trim text)) with
  | .ok id => .ok id
  | .error fault => .error (.badId fault text)

end ResourceId

namespace PtrRecordId

/-- The provider of DNS zones. -/
def provider : String := "Microsoft.Network"

/-- Read the ID of a PTR record set: a resource ID with a zone and a PTR record name. -/
def parse (text : String) : Except Failure PtrRecordId :=
  match ResourceId.parse text with
  | .error failure => .error failure
  | .ok id =>
    match Keyed.get? id.path "dnszones", Keyed.get? id.path "PTR" with
    | none, _ => .error (.badId .noZone text)
    | some _, none => .error (.badId .noRecord text)
    | some zoneName, some recordName =>
      .ok {
        subscriptionId := id.subscriptionId
        resourceGroup := id.resourceGroup
        zoneName := zoneName
        recordName := recordName }

/-- Write the ID of a PTR record set. -/
def format (id : PtrRecordId) : String :=
  Text.join ["", "subscriptions", id.subscriptionId, "resourceGroups", id.resourceGroup,
    "providers", provider, "dnszones", id.zoneName, "PTR", id.recordName]

end PtrRecordId

end ReverseDns
