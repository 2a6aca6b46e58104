import Tenancy.Error
import Tenancy.Store.Call

/-! # Which schema a tenant uses

A tenant uses a module's schema when it is active, subscribes to the module and has a schema
registered.  Every question is a live call to the registry, which has the last word on access. -/

namespace Tenancy.Resolver

/-- The row of an active tenant. -/
def activeTenant (t : TenantId) : StoreProgram (Except TenantError TenantRecord) := do
  match ← ask (.findTenant t) with
  | .error e => return .error (.registry t e)
  | .ok none => return .error (.notFound t)
  | .ok (some record) => return if record.active then .ok record else .error (.notFound t)

/-- The schema in a row, if the tenant subscribes to the module and has one. -/
def schemaIn (record : TenantRecord) (t : TenantId) (m : ServiceModule) :
    Except TenantError String :=
  if record.isSubscribed m then
    match record.schemas.get m with
    | some schema => .ok schema
    | none => .error (.schemaMissing t m.name)
  else .error (.moduleNotSubscribed t m.name)

/-- The schema of an active tenant that subscribes to a module. -/
def resolve (t : TenantId) (m : ServiceModule) : StoreProgram (Except TenantError String) := do
  match ← activeTenant t with
  | .error e => return .error e
  | .ok record => return schemaIn record t m

/-- The same for a module given by name; a name of no module makes no call. -/
def resolveNamed (t : TenantId) (service : String) :
    StoreProgram (Except TenantError String) :=
  match ServiceModule.ofName? service with
  | none => return .error (.unknownService service)
  | some m => resolve t m

/-- Whether the registry grants a tenant the module with a name. -/
def verifyAccess (t : TenantId) (service : String) : StoreProgram (Except TenantError Bool) :=
  match ServiceModule.ofName? service with
  | none => return .error (.unknownService service)
  | some m => do
    match ← ask (.hasModule t m) with
    | .error e => return .error (.registry t e)
    | .ok granted => return .ok granted

/-- The row of an active tenant. -/
def tenantInfo (t : TenantId) : StoreProgram (Except TenantError TenantRecord) := activeTenant t

/-- Fails unless the registry grants the tenant the module. -/
def requireAccess (t : TenantId) (m : ServiceModule) : StoreProgram (Except TenantError Unit) := do
  match ← verifyAccess t m.name with
  | .error e => return .error e
  | .ok true => return .ok ()
  | .ok false => return .error (.accessDenied t m.name)

end Tenancy.Resolver
