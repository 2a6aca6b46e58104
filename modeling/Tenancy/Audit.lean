import Tenancy.ServiceModule
import Tenancy.TenantId
import Tenancy.Timestamp

/-! # Audit trail

Each attempt to provision a tenant is one row of a log.  Its status moves from `pending` over
`schemaCreated` to `success`, or to `failed`.  A row left in `schemaCreated` says that the schema
exists while the registry may not name it yet; reconciliation looks for those. -/

namespace Tenancy.Audit

/-- How far an attempt came. -/
inductive Status where
  | pending
  | schemaCreated
  | success
  | failed
  deriving DecidableEq, Repr

namespace Status

/-- The four statuses. -/
def all : List Status := [pending, schemaCreated, success, failed]

/-- The text a status is stored as. -/
def name : Status → String
  | pending => "pending"
  | schemaCreated => "schema_created"
  | success => "success"
  | failed => "failed"

/-- The status stored as a text. -/
def ofName? (s : String) : Option Status := all.find? fun status => s == status.name

/-- What is said of a text that stores no status. -/
def unknownMessage (s : String) : String := "unknown audit status: " ++ s

theorem ofName?_name (status : Status) : ofName? status.name = some status := by
  cases status <;> rfl

end Status

/-- What the log calls the action of these rows. -/
def provisionAction : String := "provision"

/-- One row of the log. -/
structure Entry where
  id : Int
  tenant : TenantId
  moduleName : String
  action : String
  schema : String
  status : Status
  error : Option String
  actor : Option String
  createdAt : Timestamp
  deriving DecidableEq

/-- Whether a row is older than another: it was created earlier or, of two rows created at the same
    time, it has the lower id. -/
def Entry.isOlder (a b : Entry) : Bool :=
  decide (a.createdAt < b.createdAt) || a.createdAt == b.createdAt && decide (a.id < b.id)

/-- What is stated about an attempt when it begins. -/
structure NewEntry where
  tenant : TenantId
  module : ServiceModule
  schema : String
  actor : String
  deriving DecidableEq

/-- The rows that a change of status applies to. -/
inductive Target where
  /-- The row with an id. -/
  | entry (id : Int)
  /-- All rows of a tenant and module that are still pending; used for an attempt without a row of
      its own. -/
  | pending (tenant : TenantId) (module : ServiceModule)
  deriving DecidableEq

/-- Whether a change of status applies to a row. -/
def Target.covers : Target → Entry → Bool
  | entry id, e => e.id == id
  | pending tenant m, e =>
    e.tenant == tenant && e.moduleName == m.name && e.action == provisionAction &&
      e.status == .pending

/-- The row after a change of status; an error text is kept unless a new one is given. -/
def Entry.mark (e : Entry) (status : Status) (error : Option String) : Entry :=
  { e with status := status, error := error.orElse fun _ => e.error }

end Tenancy.Audit
