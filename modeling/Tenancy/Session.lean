import Tenancy.Service
import Tenancy.Sql.Identifier
import Tenancy.Text.Escaped

/-! # Tenant sessions

A session is a connection to the operations database on which names are looked up in one tenant's
schema.  The statement that arranges this runs before anyone else can use the connection; where it
fails the connection is given back. -/

namespace Tenancy

/-- A connection bound to a tenant's schema. -/
structure Session where
  tenant : TenantId
  schema : String
  connection : ConnectionId
  deriving DecidableEq

namespace Session

/-- Binds a connection to a tenant's schema. -/
def bind (t : TenantId) (schema : String) (connection : ConnectionId) :
    ServiceProgram (Except SessionError Session) := do
  match ← Service.call (.execute connection (Sql.searchPathStatement schema)) with
  | .ok () => return .ok ⟨t, schema, connection⟩
  | .error e =>
    Service.call (.returnConnection connection)
    return .error (.searchPath t schema e)

/-- Finds a tenant's schema for a module, takes a connection and binds it to the schema. -/
def acquire (t : TenantId) (m : ServiceModule) :
    ServiceProgram (Except SessionError Session) := do
  match ← Service.onStores (Resolver.resolve t m) with
  | .error e => return .error (.resolve e)
  | .ok schema =>
    match ← Service.call .acquireConnection with
    | .error e => return .error (.acquire t e)
    | .ok connection => bind t schema connection

/-- Gives the session's connection back. -/
def release (s : Session) : ServiceProgram Unit := Service.call (.returnConnection s.connection)

/-- A rendering of a session for logs, which leaves the connection out. -/
def summary (s : Session) : String :=
  "TenantSession \x7b tenant_id: " ++ s.tenant.text ++ ", schema: " ++ Text.quoted s.schema ++
    ", .. \x7d"

end Session

end Tenancy
