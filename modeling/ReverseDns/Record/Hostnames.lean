import ReverseDns.Record.Set
import ReverseDns.Text.Units

/-!
# Host names

The targets of a PTR record set are a set of host names. They are written as entries, one for each
distinct name, and read back in one order.

* `Hostnames.ofJson` -- the distinct host names of a JSON list, or what is wrong with it
* `Hostnames.expand` -- the entries for a JSON list
* `Hostnames.ordered` -- the distinct host names of a list, in the order of their units
* `Hostnames.flatten` -- the host names of entries, distinct and in that order
-/

namespace ReverseDns.Hostnames

/-- The host name that a value is, if it is one: a text that is not empty. -/
def ofItem? (item : Json) : Option Hostname :=
  match Hostname.ofJson? item with
  | some name => if name = "" then none else some name
  | none => none

/-- The issues of the items of a list, the first of which stands at `index`. -/
def issuesFrom (index : Nat) : List Json → List String
  | [] => []
  | item :: rest =>
    match ofItem? item with
    | some _ => issuesFrom (index + 1) rest
    | none => s!"/records/{index}: expected a non-empty hostname" :: issuesFrom (index + 1) rest

/-- The distinct host names of a list, in order of first occurrence. All bad items are reported. -/
def ofJson (items : List Json) : Except Failure (List Hostname) :=
  match issuesFrom 0 items with
  | [] => .ok (Text.distinct (items.filterMap ofItem?))
  | issues => .error (.invalid .hostnames issues)

/-- The entries for host names. -/
def entries (hostnames : List Hostname) : List Entry :=
  hostnames.map fun name => { hostname := .given name }

def expand (items : List Json) : Except Failure (List Entry) := (ofJson items).map entries

/-- The host name of an entry, if it has one that is not empty. -/
def ofEntry? (entry : Entry) : Option Hostname :=
  match entry.hostname with
  | .given name => if name = "" then none else some name
  | .absent | .null => none

/-- The distinct host names of a list, in the order of their units. -/
def ordered (names : List Hostname) : List Hostname :=
  Text.sortByUnits Hostname.units (Text.distinct names)

def flatten (entries : List Entry) : Except Failure (List Hostname) :=
  match entries.mapM ofEntry? with
  | some names => .ok (ordered names)
  | none => .error (.badAnswer .entryWithoutHostname)

end ReverseDns.Hostnames
