import ReverseDns.Record.Desired

/-!
# Configuration

Which subscription and tenant to use, how to obtain credentials, and whether to report the calls
that are made.

* `CredentialMethod` -- the ways to obtain credentials
* `Config` -- a resolved configuration
* `Config.resolve` -- raw settings, with gaps filled from the environment and from defaults
-/

namespace ReverseDns

abbrev Environment := List (String × String)

/-- A way to obtain credentials. -/
inductive CredentialMethod where
  | default
  | cli
  | servicePrincipal
  | managedIdentity
  | browser
deriving Repr, DecidableEq

namespace CredentialMethod

def name : CredentialMethod → String
  | .default => "default"
  | .cli => "cli"
  | .servicePrincipal => "service-principal"
  | .managedIdentity => "managed-identity"
  | .browser => "browser"

def all : List CredentialMethod := [.default, .cli, .servicePrincipal, .managedIdentity, .browser]

def ofName? (text : String) : Option CredentialMethod := all.find? fun method => method.name == text

end CredentialMethod

/-- Which calls are reported: failed ones when `enabled`, all when `verbose` as well. -/
structure Reporting where
  enabled : Bool
  verbose : Bool
deriving Repr, DecidableEq

/-- A resolved configuration. -/
structure Config where
  subscriptionId : Option WideText
  tenantId : Option WideText
  credentialMethod : CredentialMethod
  reporting : Reporting
deriving Repr, DecidableEq

namespace Config

def schema : Schema := .record [
  Field.optional "subscriptionId" { description := some "Azure subscription ID" } (.text (some 1)),
  Field.optional "tenantId" { description := some "Azure AD tenant ID" } (.text (some 1)),
  Field.optional "credentialMethod"
    { description := some
        "Credential method: default | cli | service-principal | managed-identity | browser" }
    (.choice (CredentialMethod.all.map CredentialMethod.name)),
  Field.optional "diagnostics" {} (.record [
    Field.optional "enabled" {} .boolean,
    Field.optional "verbose" {} .boolean])]

def standard : Config where
  subscriptionId := none
  tenantId := none
  credentialMethod := .default
  reporting := { enabled := false, verbose := false }

def setting? (environment : Environment) (name : String) : Option String :=
  match Keyed.get? environment name with
  | some value => if value = "" then none else some value
  | none => none

/-- The text that is given for a field, or else the one that the environment holds under a name. -/
def textSetting? (raw : Json) (field : String) (environment : Environment) (name : String) :
    Option WideText :=
  ((raw.get? field).bind Json.text?).or
    ((setting? environment name).map fun text => { start := text })

def flag (raw : Json) (name : String) (otherwise : Bool) : Bool :=
  (((raw.get? "diagnostics").bind (Json.get? · name)).bind Json.bool?).getD otherwise

/-- The configuration given by settings that were accepted: they come first, then the environment,
then the defaults. -/
def fill (raw : Json) (environment : Environment) : Config where
  subscriptionId := textSetting? raw "subscriptionId" environment "AZURE_SUBSCRIPTION_ID"
  tenantId := textSetting? raw "tenantId" environment "AZURE_TENANT_ID"
  credentialMethod :=
    (((raw.get? "credentialMethod").bind Json.str?).bind CredentialMethod.ofName?).getD
      standard.credentialMethod
  reporting :=
    { enabled := flag raw "enabled" standard.reporting.enabled
      verbose := flag raw "verbose" standard.reporting.verbose }

def resolve (raw : Json) (environment : Environment) : Except Failure Config :=
  match schema.issues (some raw) with
  | [] => .ok (fill raw environment)
  | issues => .error (.invalid .configuration issues)

def toJson (config : Config) : Json :=
  .obj (
    Json.optional "subscriptionId" (config.subscriptionId.map .text) ++
    Json.optional "tenantId" (config.tenantId.map .text) ++
    Json.optional "credentialMethod" (some (.str config.credentialMethod.name)) ++
    Json.optional "diagnostics" (some (.obj [
      ("enabled", .bool config.reporting.enabled),
      ("verbose", .bool config.reporting.verbose)])))

end Config

end ReverseDns
