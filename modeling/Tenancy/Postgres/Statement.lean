import Tenancy.Sql.Identifier
import Tenancy.Tenant
import Tenancy.Audit

/-! # Statements for a server

A statement is a text and, where the server prepares it, the values of its parameters.  Whatever
comes from a tenant travels as a parameter; only the delimited name of the registry's schema and
words of this library stand in the texts.

* `RegistryStatement` has one statement for each call to the tenant registry.
* `OperationsStatement` has those for the operations database. -/

namespace Tenancy.Postgres

/-- A value of a parameter or of a column. -/
inductive Value where
  | null
  | bool (b : Bool)
  | bigint (n : Int)
  | text (s : String)
  | uuid (t : TenantId)
  | timestamp (t : Timestamp)
  | textArray (items : List (Option String))
  deriving DecidableEq

namespace Value

/-- The start of the year 2000, from which a server counts time. -/
def epoch : Timestamp := .ofDate ⟨2000, 1, 1⟩

/-- A point in time as a server keeps it: whole microseconds, counted from its epoch, with what is
    left over dropped.  A server knows of no seconds put in and takes them for those after them. -/
def ofTimestamp (t : Timestamp) : Value :=
  .timestamp (.ofNanos (epoch.nanos + (t.nanos + t.leap - epoch.nanos).tdiv 1000 * 1000))

/-- A text that may be absent. -/
def ofText? : Option String → Value
  | some s => .text s
  | none => .null

end Value

/-- A statement. -/
structure Statement where
  text : String
  /-- The values of the parameters; nothing for a statement that is sent as it stands, without
      being prepared. -/
  parameters : Option (List Value)
  deriving DecidableEq

namespace Statement

/-- A statement that is prepared, with values for its parameters. -/
def prepared (text : String) (parameters : List Value) : Statement := ⟨text, some parameters⟩

/-- A statement that is sent as it stands. -/
def plain (text : String) : Statement := ⟨text, none⟩

/-- The text as a record shows it: that of a prepared statement on one line. -/
def shown (s : Statement) : String :=
  match s.parameters with
  | some _ => Text.squeeze s.text
  | none => s.text

/-- Asks for a sign of life. -/
def probe : Statement := prepared "SELECT 1" []

/-- Asks where names are looked up. -/
def showSearchPath : Statement := prepared "SHOW search_path" []

def begin : Statement := plain "BEGIN"

def commit : Statement := plain "COMMIT"

def rollback : Statement := plain "ROLLBACK"

end Statement

/-- The text of a longer statement, on lines of its own behind a margin. -/
def block (margin : Nat) (lines : List String) : String :=
  let blanks := String.ofList (List.replicate margin ' ')
  "\n" ++ String.join (lines.map fun line => blanks ++ line ++ "\n") ++ blanks

/-! ## The tenant registry -/

namespace RegistryStatement

/-- The table of the tenants in the registry's schema. -/
def tenants (schema : String) : String := Sql.qualified schema "tenant_registry"

/-- The table of the audit log in the registry's schema. -/
def log (schema : String) : String := Sql.qualified schema "tenant_module_log"

/-- The columns of the audit log. -/
def logColumns : String :=
  "id, tenant_id, module_name, action, schema_name, status, error_message, provisioned_by, " ++
    "created_at"

/-- Reads a tenant's row. -/
def findTenant (schema : String) (t : TenantId) : Statement :=
  .prepared (block 12
    ["SELECT tenant_id, tenant_slug, tenant_name, contact_email, modules_subscribed, is_active,",
      "       finance_schema, operations_schema, inventory_schema, hrms_schema, modified_at",
      "FROM " ++ tenants schema,
      "WHERE tenant_id = $1"])
    [.uuid t]

/-- Asks whether a tenant has a row and is active. -/
def isActive (schema : String) (t : TenantId) : Statement :=
  .prepared ("SELECT EXISTS (SELECT 1 FROM " ++ tenants schema ++
      " WHERE tenant_id = $1 AND is_active = true)")
    [.uuid t]

/-- Asks the registry whether a tenant has a module. -/
def hasModule (schema : String) (t : TenantId) (m : ServiceModule) : Statement :=
  .prepared ("SELECT " ++ Sql.qualified schema "tenant_has_module" ++ "($1, $2)")
    [.uuid t, .text m.name]

/-- Writes a module's schema column. -/
def setModuleSchema (schema : String) (t : TenantId) (m : ServiceModule) (name : String) :
    Statement :=
  .prepared ("UPDATE " ++ tenants schema ++ " SET " ++ m.schemaColumn ++
      " = $2, modified_at = now() WHERE tenant_id = $1")
    [.uuid t, .text name]

/-- Adds a pending row to the audit log. -/
def insertAudit (schema : String) (e : Audit.NewEntry) : Statement :=
  .prepared (block 12
    ["INSERT INTO " ++ log schema ++
        " (tenant_id, module_name, action, schema_name, status, provisioned_by)",
      "VALUES ($1, $2, $3, $4, $5, $6)",
      "RETURNING id"])
    [.uuid e.tenant, .text e.module.name, .text Audit.provisionAction, .text e.schema,
      .text Audit.Status.pending.name, .text e.actor]

/-- Changes the status of rows of the audit log; an error text stays unless a new one is given. -/
def updateAudit (schema : String) (target : Audit.Target) (status : Audit.Status)
    (error : Option String) : Statement :=
  match target with
  | .entry id =>
    .prepared ("UPDATE " ++ log schema ++
        " SET status = $2, error_message = COALESCE($3, error_message) WHERE id = $1")
      [.bigint id, .text status.name, .ofText? error]
  | .pending t m =>
    .prepared (block 20 ["UPDATE " ++ log schema ++
          " SET status = $3, error_message = COALESCE($4, error_message)",
        "WHERE tenant_id = $1 AND module_name = $2 AND action = $5 AND status = $6"])
      [.uuid t, .text m.name, .text status.name, .ofText? error, .text Audit.provisionAction,
        .text Audit.Status.pending.name]

/-- Reads the newest row of a tenant and module in the audit log. -/
def latestAudit (schema : String) (t : TenantId) (m : ServiceModule) : Statement :=
  .prepared (block 12
    ["SELECT " ++ logColumns ++ " FROM " ++ log schema,
      "WHERE tenant_id = $1 AND module_name = $2 AND action = $3",
      "ORDER BY created_at DESC, id DESC",
      "LIMIT 1"])
    [.uuid t, .text m.name, .text Audit.provisionAction]

/-- Reads the newest row of each tenant for a module, where that row stopped before registration
    and is older than the cutoff. -/
def stalledAudits (schema : String) (m : ServiceModule) (cutoff : Timestamp) : Statement :=
  .prepared (block 12
    ["SELECT " ++ logColumns ++ " FROM (",
      "    SELECT DISTINCT ON (tenant_id) " ++ logColumns,
      "    FROM " ++ log schema,
      "    WHERE module_name = $1 AND action = $2",
      "    ORDER BY tenant_id, created_at DESC, id DESC",
      ") latest",
      "WHERE status = $3 AND created_at < $4",
      "ORDER BY created_at"])
    [.text m.name, .text Audit.provisionAction, .text Audit.Status.schemaCreated.name,
      .ofTimestamp cutoff]

end RegistryStatement

/-! ## The operations database -/

namespace OperationsStatement

/-- Waits until no other process provisions the tenant. -/
def lockTenant (t : TenantId) : Statement :=
  .prepared "SELECT pg_advisory_xact_lock(hashtextextended($1, 0))" [.text t.text]

/-- Calls the procedure that creates a tenant's schema. -/
def createSchema (m : ServiceModule) (t : TenantId) (schema owner : String) : Statement :=
  .prepared ("CALL " ++ m.procedure ++ "($1, $2, $3)") [.uuid t, .text schema, .text owner]

/-- Asks whether a schema exists. -/
def schemaExists (schema : String) : Statement :=
  .prepared "SELECT EXISTS (SELECT 1 FROM pg_namespace WHERE nspname = $1)" [.text schema]

/-- Makes a tenant's schema the place where names are looked up. -/
def setSearchPath (schema : String) : Statement := .plain (Sql.searchPathStatement schema)

/-- Restores the default places where names are looked up. -/
def resetSearchPath : Statement := .plain Sql.resetSearchPath

end OperationsStatement

end Tenancy.Postgres
