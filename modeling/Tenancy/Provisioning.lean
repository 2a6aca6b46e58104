import Tenancy.Error
import Tenancy.SchemaName
import Tenancy.Store.Call

/-! # Provisioning a tenant

An attempt reads the tenant's row, adds a pending audit row, creates the schema, marks the row,
registers the schema and marks the row again.  The two databases are written one after the other;
the audit row carries the progress, so that an attempt that stops halfway can be found and repaired.
The audit row itself is best effort: an attempt goes on without one. -/

namespace Tenancy.Provisioning

/-- The schema that an attempt is about: the registered one, or else one derived from the display
    name. -/
def schemaFor (m : ServiceModule) (record : TenantRecord) (t : TenantId)
    (displayName : Option String) : String :=
  (record.schemas.get m).getD (SchemaName.forTenant m t displayName)

/-- Changes the status of audit rows; a failure is ignored. -/
def mark (target : Audit.Target) (status : Audit.Status) (error : Option String) :
    StoreProgram Unit := do
  let _ ← ask (.updateAudit target status error)

/-- Changes the status of the attempt's own row, if it has one. -/
def markOwn (inserted : Except DbError Int) (status : Audit.Status) : StoreProgram Unit :=
  match inserted with
  | .ok id => mark (.entry id) status none
  | .error _ => return

/-- The rows that fail with an attempt: its own, or, where it has none, all that are pending. -/
def failureTarget (inserted : Except DbError Int) (t : TenantId) (m : ServiceModule) :
    Audit.Target :=
  match inserted with
  | .ok id => .entry id
  | .error _ => .pending t m

/-- The failure to add the attempt's row, for the report. -/
def auditFailure (inserted : Except DbError Int) (t : TenantId) : Option AuditLogError :=
  match inserted with
  | .ok _ => none
  | .error e => some ⟨t, "insert", e⟩

/-- Registers a schema that exists and marks the attempt's row. -/
def register (m : ServiceModule) (t : TenantId) (schema : String)
    (inserted : Except DbError Int) : StoreProgram (Except ProvisioningError String) := do
  match ← ask (.setModuleSchema t m schema) with
  | .error e => return .error (.registryUpdate t schema e.message)
  | .ok 0 =>
    return .error (.registryUpdate t schema "tenant row disappeared from the registry")
  | .ok (_ + 1) =>
    markOwn inserted .success
    return .ok schema

/-- Creates the schema of an attempt and registers it. -/
def create (m : ServiceModule) (owner : String) (t : TenantId) (schema : String)
    (inserted : Except DbError Int) : StoreProgram (Except ProvisioningError String) := do
  match ← ask (.ensureSchema t schema owner) with
  | .error e =>
    mark (failureTarget inserted t m) .failed (some e.message)
    return .error (.schemaCreation t schema e (auditFailure inserted t))
  | .ok () =>
    markOwn inserted .schemaCreated
    register m t schema inserted

/-- One attempt to provision a tenant: creates (or confirms) its schema and registers the name.
    A name that is registered already is used again. -/
def attempt (m : ServiceModule) (owner : String) (t : TenantId) (displayName : Option String)
    (actor : String) : StoreProgram (Except ProvisioningError String) := do
  match ← ask (.findTenant t) with
  | .error e => return .error (.registryRead t e)
  | .ok none => return .error (.unknownTenant t)
  | .ok (some record) =>
    let schema := schemaFor m record t displayName
    let inserted ← ask (.insertAudit ⟨t, m, schema, actor⟩)
    create m owner t schema inserted

/-- The registered schema of an active tenant. -/
def registeredSchema (m : ServiceModule) (t : TenantId) :
    StoreProgram (Except ProvisioningError String) := do
  match ← ask (.findTenant t) with
  | .error e => return .error (.registryRead t e)
  | .ok none => return .error (.unknownTenant t)
  | .ok (some record) =>
    if record.active then
      match record.schemas.get m with
      | some schema => return .ok schema
      | none => return .error (.schemaNotRegistered t m.name)
    else return .error (.unknownTenant t)

/-- The newest attempt for a tenant. -/
def lastAttempt (m : ServiceModule) (t : TenantId) :
    StoreProgram (Except ProvisioningError (Option Audit.Entry)) := do
  match ← ask (.latestAudit t m) with
  | .error e => return .error (.registryRead t e)
  | .ok entry => return .ok entry

end Tenancy.Provisioning
