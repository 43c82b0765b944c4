import ReverseDns.Config

/-!
# Credentials

Credentials are made once and kept for a while, one for each method.

* `CredentialSource` -- what a credential is made from
* `Credential` -- a credential, told apart from others by its number
* `Keyring` -- the credentials that are kept
* `Keyring.obtain` -- the credential for a method, kept or new
-/

namespace ReverseDns

/-- What a credential is made from. -/
inductive CredentialSource where
  | cli
  | clientSecret (tenantId clientId secret : String)
  | managedIdentity (clientId : Option String)
  | browser (tenantId : Option String)
  | default
deriving Repr, DecidableEq

/-- What the credential for a method is made from. A service principal needs all of its settings. -/
def CredentialMethod.source (tenantId : Option String) (environment : Environment) :
    CredentialMethod → Except Failure CredentialSource
  | .default => .ok .default
  | .cli => .ok .cli
  | .browser => .ok (.browser tenantId)
  | .managedIdentity => .ok (.managedIdentity (Config.setting? environment "AZURE_CLIENT_ID"))
  | .servicePrincipal =>
    match tenantId.or (Keyed.get? environment "AZURE_TENANT_ID"),
      Config.setting? environment "AZURE_CLIENT_ID",
      Config.setting? environment "AZURE_CLIENT_SECRET" with
    | some tenantId, some clientId, some secret =>
      if tenantId = "" then .error .servicePrincipal
      else .ok (.clientSecret tenantId clientId secret)
    | _, _, _ => .error .servicePrincipal

/-- A credential. Credentials are numbered in the order in which they were made, from one. -/
structure Credential where
  number : Nat
  source : CredentialSource
deriving Repr, DecidableEq

/-- A credential that is kept until a moment. -/
structure Kept where
  credential : Credential
  expiresAt : Float

/-- The credentials that are kept. Times are in milliseconds. -/
structure Keyring where
  tenantId : Option String
  /-- The method where none is asked for. -/
  method : CredentialMethod := .default
  /-- How long a credential is kept after its last use. -/
  lifetime : Float := 3600000
  kept : List (CredentialMethod × Kept) := []
  /-- How many credentials have been made. -/
  made : Nat := 0

namespace Keyring

/-- The lifetime that is asked for: an hour where none is given, and no time where it is `null`. -/
def lifetimeOf : Part Float → Float
  | .absent => 3600000
  | .null => 0
  | .given lifetime => lifetime

/-- A keyring without credentials. A tenant that is not given is taken from the environment. -/
def start (tenantId : Option String) (method : Option CredentialMethod) (lifetime : Part Float)
    (environment : Environment) (made : Nat) : Keyring where
  tenantId := tenantId.or (Keyed.get? environment "AZURE_TENANT_ID")
  method := method.getD .default
  lifetime := lifetimeOf lifetime
  made := made

def ofConfig (config : Config) (environment : Environment) (made : Nat) : Keyring :=
  start (config.tenantId.map WideText.shown) (some config.credentialMethod) .absent environment made

def find? (keyring : Keyring) (method : CredentialMethod) : Option Kept :=
  (keyring.kept.find? fun entry => entry.1 = method).map Prod.snd

def drop (keyring : Keyring) (method : CredentialMethod) : Keyring :=
  { keyring with kept := keyring.kept.filter fun entry => entry.1 ≠ method }

/-- Keep a credential for a method, for the whole lifetime from now on. -/
def keep (keyring : Keyring) (method : CredentialMethod) (credential : Credential) (now : Float) :
    Keyring :=
  let others := keyring.drop method
  { others with
    kept := (method, { credential, expiresAt := now + keyring.lifetime }) :: others.kept }

/-- The credential that is kept for a method and has not expired; one that has expired is
dropped. -/
def current (keyring : Keyring) (method : CredentialMethod) (now : Float) :
    Option Credential × Keyring :=
  match keyring.find? method with
  | none => (none, keyring)
  | some entry =>
    if entry.expiresAt < now then (none, keyring.drop method) else (some entry.credential, keyring)

def make (keyring : Keyring) (environment : Environment) (method : CredentialMethod) :
    Except Failure Credential × Keyring :=
  match method.source keyring.tenantId environment with
  | .error failure => (.error failure, keyring)
  | .ok source =>
    (.ok { number := keyring.made + 1, source }, { keyring with made := keyring.made + 1 })

/-- The credential for a method: the one that is kept, or else a new one. Every use prolongs the
time for which it is kept. -/
def obtain (keyring : Keyring) (environment : Environment) (now : Float)
    (method : CredentialMethod) : Except Failure Credential × Keyring :=
  match keyring.current method now with
  | (some credential, keyring) => (.ok credential, keyring.keep method credential now)
  | (none, keyring) =>
    match keyring.make environment method with
    | (.error failure, keyring) => (.error failure, keyring)
    | (.ok credential, keyring) => (.ok credential, keyring.keep method credential now)

end Keyring

end ReverseDns
