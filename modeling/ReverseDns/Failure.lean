import ReverseDns.Thrown
import ReverseDns.Json.Part
import ReverseDns.Files.Fault

/-!
# Failures

Why an operation of this library fails, as causes with their data, and the one place where they
are put into words.

* `Failure` -- the causes
* `Failure.message`, `Failure.kind` -- the words
* `Report` -- a failure as others see it: kind, message and the data that goes with it
* `Failure.describe` -- one line about a failure
* `putIntoWords` -- one line about what was thrown, where there is one
-/

namespace ReverseDns

/-- What a validation is about. -/
inductive Subject where
  | desired
  | snapshot
  | configuration
  | hostnames

def Subject.complaint : Subject → String
  | .desired => "Invalid DNS PTR record"
  | .snapshot => "Invalid DNS PTR record state"
  | .configuration => "Invalid Azure DNS configuration"
  | .hostnames => "Invalid DNS PTR records"

/-- Why a text is no resource ID. `path` is the text without blanks and slashes at its ends. -/
inductive IdFault where
  | oddSegments (path : String)
  | emptyPair (key value : String)
  | noSubscription (path : String)
  | noResourceGroup (path : String)
  | noZone
  | noRecord

def IdFault.message (input : String) : IdFault → String
  | .oddSegments path => s!"The number of path segments is not divisible by 2 in \"{path}\""
  | .emptyPair key value =>
    s!"Key/value cannot be empty strings. Key: \"{key}\", value: \"{value}\""
  | .noSubscription path => s!"No subscription ID found in \"{path}\""
  | .noResourceGroup path => s!"No resource group name found in \"{path}\""
  | .noZone => s!"No \"dnszones\" segment found in DNS PTR record ID \"{input}\""
  | .noRecord => s!"No \"PTR\" segment found in DNS PTR record ID \"{input}\""

/-- Why the answer of a service that reported success is of no use. -/
inductive AnswerFault where
  | entryWithoutHostname
  | noIdAfterWrite (recordName resourceGroup : String)
  | goneAfterWrite (recordName resourceGroup : String)
  | noId (recordName : String)
  | noTtl (recordName : String)

def AnswerFault.message : AnswerFault → String
  | .entryWithoutHostname => "DNS PTR record set contains an entry without a ptrdname"
  | .noIdAfterWrite name group => s!"Cannot read DNS PTR Record {name} (resource group {group}) ID"
  | .goneAfterWrite name group =>
    s!"DNS PTR Record {name} (resource group {group}) was not found after it was written"
  | .noId name => s!"DNS PTR record {name} was returned without an ID"
  | .noTtl name => s!"DNS PTR record {name} was returned without a TTL"

/-- A remote call on the record set `recordName`. -/
inductive Attempt where
  | writing (recordName : String)
  | reading (recordName : String)
  | deleting (recordName : String)

def Attempt.complaint : Attempt → String
  | .writing name => s!"Error creating or updating DNS PTR Record {name}"
  | .reading name => s!"Error reading DNS PTR record {name}"
  | .deleting name => s!"Error deleting DNS PTR Record {name}"

/-- Why an operation fails. -/
inductive Failure where
  /-- A value breaks its schema. -/
  | invalid (subject : Subject) (issues : List String)
  /-- No subscription is configured. -/
  | noSubscription
  /-- A text is no resource ID. -/
  | badId (fault : IdFault) (input : String)
  /-- The service reported success and sent an answer of no use. -/
  | badAnswer (fault : AnswerFault)
  /-- The service reported a status other than success, or threw. -/
  | remote (attempt : Attempt) (status : Option Float) (cause : Option Thrown)
  /-- What the service threw or reported cannot be put into words. -/
  | indescribable
  /-- A file cannot be read or written. -/
  | file (fault : FileFault)
  /-- A file does not hold JSON. -/
  | notJson
  /-- The state file tracks no record set. -/
  | nothingTracked (path : String)
  /-- The record set to adopt does not exist. -/
  | notThere (id : String)
  /-- A service principal lacks one of its settings. -/
  | servicePrincipal

/-- The status of a failed call: the one the service reported, or the one its error carries. -/
def remoteStatus (status : Option Float) (cause : Option Thrown) : Option Float :=
  match status with
  | some s => some s
  | none => cause.bind Thrown.status?

/-- Whether a failed call can be put into words: it can unless its cause cannot. -/
def isTellable (cause : Option Thrown) : Bool := cause.all Thrown.isDescribable

/-- What is known about a failed call: the status, unless the cause shows one itself, and the
cause. -/
def remoteDetail (status : Option Float) (cause : Option Thrown) : String :=
  let shown := match remoteStatus status cause, cause.bind Thrown.status? with
    | some s, none => ["HTTP " ++ Decimal.spell s]
    | _, _ => []
  let told := match cause with
    | some thrown => [describe (some thrown)]
    | none => []
  ": ".intercalate (shown ++ told)

def remoteMessage (complaint : String) (status : Option Float) (cause : Option Thrown) : String :=
  let detail := remoteDetail status cause
  if detail = "" then complaint else complaint ++ ": " ++ detail

/-- A complaint followed by the issues, if there are any. -/
def withIssues (complaint : String) (issues : List String) : String :=
  if issues.isEmpty then complaint else complaint ++ ": " ++ "; ".intercalate issues

namespace Failure

def message : Failure → String
  | .invalid subject issues => withIssues subject.complaint issues
  | .noSubscription =>
    "Azure subscription ID is required (--subscription or AZURE_SUBSCRIPTION_ID)"
  | .badId fault input => fault.message input
  | .badAnswer fault => fault.message
  | .remote attempt status cause => remoteMessage attempt.complaint status cause
  | .indescribable => Thrown.textComplaint
  | .file fault => fault.message
  | .notJson => "invalid JSON"
  | .nothingTracked path => s!"No DNS PTR record is tracked in {path}"
  | .notThere id => s!"DNS PTR record {id} does not exist"
  | .servicePrincipal =>
    "Service principal auth requires AZURE_TENANT_ID, AZURE_CLIENT_ID, and AZURE_CLIENT_SECRET"

def kind : Failure → String
  | .invalid _ _ | .noSubscription => "ValidationError"
  | .badId _ _ => "ParseError"
  | .badAnswer _ => "ProtocolError"
  | .remote _ _ _ => "RemoteError"
  | .notJson => "SyntaxError"
  | .indescribable | .file (.nullInPath _) => "TypeError"
  | .file (.refused _ _) | .nothingTracked _ | .notThere _ | .servicePrincipal => "Error"

def code : Failure → String
  | .file fault => fault.code
  | _ => ""

def status? : Failure → Option Float
  | .remote _ status cause => remoteStatus status cause
  | _ => none

def describe (failure : Failure) : String :=
  summary failure.code failure.status? failure.message

end Failure

/-- One line about what was thrown, or the failure to put it into words. -/
def putIntoWords (cause : Option Thrown) : Except Failure String :=
  if isTellable cause then .ok (describe cause) else .error .indescribable

/-! ## Reports -/

/-- A failure as others see it. -/
structure Report where
  kind : String
  message : String
  issues : Option (List String) := none
  input : Option String := none
  statusCode : Part Float := .absent
  /-- What the file system said, and about what. -/
  fault : Option FileFault := none
  cause : Option Thrown := none

namespace Report

def general (kind message : String) (cause : Option Thrown) : Report :=
  { kind, message, cause }

def validation (complaint : String) (issues : List String) : Report :=
  { kind := "ValidationError", message := withIssues complaint issues, issues := some issues }

def parse (message input : String) : Report :=
  { kind := "ParseError", message, input := some input }

def remote (message : String) (statusCode : Part Float) (cause : Option Thrown) : Report :=
  { kind := "RemoteError", message, statusCode, cause }

end Report

def Failure.report : Failure → Report
  | .invalid subject issues => .validation subject.complaint issues
  | .noSubscription => .validation Failure.noSubscription.message []
  | .badId fault input => .parse (fault.message input) input
  | .remote attempt status cause =>
    .remote (remoteMessage attempt.complaint status cause)
      (.ofOption (remoteStatus status cause)) cause
  | .file fault =>
    { kind := Failure.kind (.file fault), message := fault.message, fault := some fault }
  | failure => .general failure.kind failure.message none

end ReverseDns
