import Tenancy.Audit
import Tenancy.Auth
import Tenancy.Reconciliation
import Tenancy.Tenant

/-! # JSON values

The values of JSON, and how the service's records are written as such.  A number is an integer
divided by a power of ten. -/

namespace Tenancy

/-- A JSON value. -/
inductive Json where
  | null
  | bool (b : Bool)
  /-- The number `mantissa / 10 ^ decimals`. -/
  | num (mantissa : Int) (decimals : Nat)
  | str (s : String)
  | arr (items : List Json)
  | obj (fields : List (String × Json))
  deriving Inhabited

namespace Json

def ofInt (n : Int) : Json := num n 0

def ofNat (n : Nat) : Json := num n 0

/-- A text, or null. -/
def ofText? : Option String → Json
  | some s => str s
  | none => null

def ofTenant (t : TenantId) : Json := str t.text

/-- An identifier, or null. -/
def ofTenant? : Option TenantId → Json
  | some t => ofTenant t
  | none => null

def ofTimestamp (t : Timestamp) : Json := str t.text

end Json

def ModuleSchemas.toJson (s : ModuleSchemas) : Json :=
  .obj (ServiceModule.all.map fun m => (m.name, .ofText? (s.column m)))

def TenantRecord.toJson (r : TenantRecord) : Json :=
  .obj [("tenant_id", .ofTenant r.tenant), ("slug", .str r.slug),
    ("display_name", .str r.displayName), ("contact_email", .ofText? r.contactEmail),
    ("is_active", .bool r.active), ("modules_subscribed", .arr (r.modules.map .str)),
    ("schemas", r.schemas.toJson),
    ("modified_at", match r.modifiedAt with
      | some t => .ofTimestamp t
      | none => .null)]

def Audit.Entry.toJson (e : Audit.Entry) : Json :=
  .obj [("id", .ofInt e.id), ("tenantId", .ofTenant e.tenant), ("moduleName", .str e.moduleName),
    ("action", .str e.action), ("schemaName", .str e.schema), ("status", .str e.status.name),
    ("errorMessage", .ofText? e.error), ("actor", .ofText? e.actor),
    ("createdAt", .ofTimestamp e.createdAt)]

def Reconciliation.Report.toJson (r : Reconciliation.Report) : Json :=
  .obj [("repaired", .ofNat r.repaired), ("confirmed", .ofNat r.confirmed),
    ("failed", .ofNat r.failed), ("conflicts", .ofNat r.conflicts), ("errors", .ofNat r.errors)]

def Principal.toJson (p : Principal) : Json :=
  .obj [("subject", .str p.subject), ("username", .str p.username), ("email", .ofText? p.email),
    ("tenant_id", .ofTenant? p.tenant), ("roles", .arr (p.roles.map .str))]

end Tenancy
