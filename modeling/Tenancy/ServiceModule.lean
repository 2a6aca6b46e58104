import Tenancy.Text.Blank
import Tenancy.Text.LowerCase

/-! # Service modules

The product modules that a deployment can serve.  Each owns one schema column of the registry, one
beginning for the schema names it makes, and one procedure that creates a tenant's schema. -/

namespace Tenancy

/-- A product module. -/
inductive ServiceModule where
  | finance
  | operations
  | inventory
  | hrms
  deriving DecidableEq, Repr

namespace ServiceModule

/-- The four modules. -/
def all : List ServiceModule := [finance, operations, inventory, hrms]

/-- The name a module is known by. -/
def name : ServiceModule → String
  | finance => "finance"
  | operations => "operations"
  | inventory => "inventory"
  | hrms => "hrms"

/-- The registry column with the module's schema name. -/
def schemaColumn : ServiceModule → String
  | finance => "finance_schema"
  | operations => "operations_schema"
  | inventory => "inventory_schema"
  | hrms => "hrms_schema"

/-- What the schema names of the module begin with. -/
def schemaStem : ServiceModule → String
  | finance => "fin_"
  | operations => "ops_"
  | inventory => "inv_"
  | hrms => "hrms_"

/-- The procedure that creates a tenant's schema. -/
def procedure (m : ServiceModule) : String := "ensure_" ++ m.name ++ "_tenant_schema"

/-- The module with a name, in any letter case and between white space. -/
def ofName? (s : String) : Option ServiceModule :=
  all.find? fun m => Text.lowerCase (Text.trim s) == m.name

theorem mem_all (m : ServiceModule) : m ∈ all := by cases m <;> decide

end ServiceModule

end Tenancy
