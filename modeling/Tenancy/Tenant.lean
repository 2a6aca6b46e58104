import Tenancy.ServiceModule
import Tenancy.TenantId
import Tenancy.Timestamp
import Tenancy.Text.Ascii

/-! # Tenants

A tenant as the registry knows it.  Activation and subscriptions belong to tenant management; this
service writes one schema column. -/

namespace Tenancy

/-- The schema columns of a registry row, one for each module. -/
structure ModuleSchemas where
  finance : Option String := none
  operations : Option String := none
  inventory : Option String := none
  hrms : Option String := none
  deriving DecidableEq

namespace ModuleSchemas

/-- A module's column as it stands in the row. -/
def column (s : ModuleSchemas) : ServiceModule → Option String
  | .finance => s.finance
  | .operations => s.operations
  | .inventory => s.inventory
  | .hrms => s.hrms

/-- The schema of a module: its column without surrounding white space; a blank one counts as
    absent. -/
def get (s : ModuleSchemas) (m : ServiceModule) : Option String :=
  (s.column m).bind Text.nonBlank?

/-- The row with a module's column replaced. -/
def set (s : ModuleSchemas) (m : ServiceModule) (schema : String) : ModuleSchemas :=
  match m with
  | .finance => { s with finance := some schema }
  | .operations => { s with operations := some schema }
  | .inventory => { s with inventory := some schema }
  | .hrms => { s with hrms := some schema }

@[simp] theorem column_set_self (s : ModuleSchemas) (m : ServiceModule) (schema : String) :
    (s.set m schema).column m = some schema := by
  cases m <;> rfl

@[simp] theorem column_set_of_ne (s : ModuleSchemas) {m k : ServiceModule} (schema : String)
    (h : k ≠ m) : (s.set m schema).column k = s.column k := by
  cases m <;> cases k <;> first | rfl | exact absurd rfl h

end ModuleSchemas

/-- One row of the tenant registry. -/
structure TenantRecord where
  tenant : TenantId
  slug : String
  displayName : String
  contactEmail : Option String
  active : Bool
  modules : List String
  schemas : ModuleSchemas
  modifiedAt : Option Timestamp
  deriving DecidableEq

namespace TenantRecord

/-- Whether the tenant subscribes to a module; subscriptions are compared without letter case. -/
def isSubscribed (r : TenantRecord) (m : ServiceModule) : Bool :=
  r.modules.any fun name => Text.equalsIgnoringCase name m.name

/-- Whether the tenant may use a module: it is active and subscribes to it. -/
def mayUse (r : TenantRecord) (m : ServiceModule) : Bool := r.active && r.isSubscribed m

/-- The row after its column for a module was written at a point in time. -/
def withSchema (r : TenantRecord) (m : ServiceModule) (schema : String) (now : Timestamp) :
    TenantRecord :=
  { r with schemas := r.schemas.set m schema, modifiedAt := some now }

end TenantRecord

end Tenancy
