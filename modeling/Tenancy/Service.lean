import Tenancy.Auth
import Tenancy.Reconciliation
import Tenancy.Provisioning
import Tenancy.Resolver

/-! # What a running service asks for

Besides the two stores, the service asks for tenant locks, connections, the verification of tokens
and the time.  `ServiceCall` lists it all; provisioning, reconciliation and the resolver become
service programs by `onStores`. -/

namespace Tenancy

/-- The name of a connection that was handed out. -/
abbrev ConnectionId := Nat

/-- A call of the running service. -/
inductive ServiceCall where
  | store (c : StoreCall)
  /-- Waits until no other attempt for the tenant is under way in this process. -/
  | lockTenant (tenant : TenantId)
  | unlockTenant (tenant : TenantId)
  /-- Takes a connection to the operations database. -/
  | acquireConnection
  /-- Runs a statement on a connection. -/
  | execute (connection : ConnectionId) (sql : String)
  /-- Asks a connection where names are looked up. -/
  | showSearchPath (connection : ConnectionId)
  /-- Gives a connection back; never fails. -/
  | returnConnection (connection : ConnectionId)
  /-- Asks the verifier outside the service about a token. -/
  | authenticate (token : String)
  /-- Asks both clusters for a sign of life; names the first that gives none. -/
  | probe
  /-- The time that rows are stamped with. -/
  | now
  deriving DecidableEq

namespace ServiceCall

/-- What a call answers with. -/
abbrev Reply : ServiceCall → Type
  | store c => c.Reply
  | lockTenant _ => Unit
  | unlockTenant _ => Unit
  | acquireConnection => Except DbError ConnectionId
  | execute _ _ => Except DbError Unit
  | showSearchPath _ => Except DbError String
  | returnConnection _ => Unit
  | authenticate _ => Except AuthError Principal
  | probe => Except (Cluster × DbError) Unit
  | now => Timestamp

end ServiceCall

/-- A program of the running service. -/
abbrev ServiceProgram (α : Type) : Type := Program ServiceCall.Reply α

namespace Service

/-- Makes one call. -/
def call (c : ServiceCall) : ServiceProgram c.Reply := Program.call c

/-- A program over the stores as part of the service. -/
def onStores {α : Type} (p : StoreProgram α) : ServiceProgram α :=
  p.lift ServiceCall.store fun _ reply => reply

/-- Provisions a tenant while no other attempt for it is under way in this process. -/
def provision (m : ServiceModule) (owner : String) (t : TenantId) (displayName : Option String)
    (actor : String) : ServiceProgram (Except ProvisioningError String) := do
  call (.lockTenant t)
  let result ← onStores (Provisioning.attempt m owner t displayName actor)
  call (.unlockTenant t)
  return result

/-- One pass of reconciliation over attempts older than `staleAfter`. -/
def reconcile (m : ServiceModule) (staleAfter : Duration) :
    ServiceProgram (Except DbError Reconciliation.Report) := do
  let now ← call .now
  onStores (Reconciliation.pass m (Reconciliation.cutoff now staleAfter))

/-- The answer of an authenticator about a token. -/
def authenticate (a : Auth.Authenticator) (token : String) :
    ServiceProgram (Except AuthError Principal) :=
  match a.decide? token with
  | some answer => return answer
  | none => call (.authenticate token)

end Service

end Tenancy
