import Tenancy.Audit
import Tenancy.Database
import Tenancy.Program
import Tenancy.Tenant

/-! # Calls to the two stores

What the service asks of the tenant registry and of the operations database.  Each call is atomic:
it takes effect and answers with a value, or it fails. -/

namespace Tenancy

/-- A call to the registry (the first eight) or to the operations database. -/
inductive StoreCall where
  /-- The row of a tenant, active or not. -/
  | findTenant (tenant : TenantId)
  /-- Whether the tenant has a row and is active. -/
  | isActive (tenant : TenantId)
  /-- Whether the registry grants the tenant a module. -/
  | hasModule (tenant : TenantId) (module : ServiceModule)
  /-- Writes a module's schema column; answers how many rows it changed. -/
  | setModuleSchema (tenant : TenantId) (module : ServiceModule) (schema : String)
  /-- Adds a pending row to the audit log; answers its id. -/
  | insertAudit (entry : Audit.NewEntry)
  /-- Moves rows of the audit log to a status; answers how many rows it changed. -/
  | updateAudit (target : Audit.Target) (status : Audit.Status) (error : Option String)
  /-- The newest row of a tenant and module. -/
  | latestAudit (tenant : TenantId) (module : ServiceModule)
  /-- The newest row of each tenant, where that row stopped before registration and is older than
      the cutoff. -/
  | stalledAudits (module : ServiceModule) (cutoff : Timestamp)
  /-- Creates a schema unless it exists, and grants it to its owner. -/
  | ensureSchema (tenant : TenantId) (schema owner : String)
  /-- Whether a schema exists. -/
  | schemaExists (schema : String)
  deriving DecidableEq

namespace StoreCall

/-- What a call answers with when it succeeds. -/
abbrev Value : StoreCall → Type
  | findTenant _ => Option TenantRecord
  | isActive _ => Bool
  | hasModule _ _ => Bool
  | setModuleSchema _ _ _ => Nat
  | insertAudit _ => Int
  | updateAudit _ _ _ => Nat
  | latestAudit _ _ => Option Audit.Entry
  | stalledAudits _ _ => List Audit.Entry
  | ensureSchema _ _ _ => Unit
  | schemaExists _ => Bool

/-- What a call answers with. -/
abbrev Reply (c : StoreCall) : Type := Except DbError c.Value

end StoreCall

/-- A program that calls the two stores. -/
abbrev StoreProgram (α : Type) : Type := Program StoreCall.Reply α

/-- Makes one call. -/
def ask (c : StoreCall) : StoreProgram c.Reply := Program.call c

end Tenancy
