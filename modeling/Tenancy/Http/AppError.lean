import Tenancy.Config.Error
import Tenancy.Http.Message

/-! # Failures as responses

Each failure has a status, a code for programs and a message for people.  A failure to resolve a
tenant reads the same whatever the reason, so that it does not tell which tenants exist. -/

namespace Tenancy.Http

/-- Why a request failed. -/
inductive AppError where
  | config (cause : Config.ConfigError)
  | tenant (cause : TenantError)
  | session (cause : SessionError)
  | provisioning (cause : ProvisioningError)
  | database (cause : DbError)
  | unauthorized (detail : String)
  | forbidden (detail : String)
  | badRequest (detail : String)
  | internal (detail : String)
  deriving DecidableEq

namespace AppError

def message : AppError → String
  | config e => e.message
  | tenant e => e.message
  | session e => e.message
  | provisioning e => e.message
  | database e => "database: " ++ e.message
  | unauthorized detail => "unauthorized: " ++ detail
  | forbidden detail => "forbidden: " ++ detail
  | badRequest detail => "bad request: " ++ detail
  | internal detail => "internal: " ++ detail

/-- The status and the code of a failure. -/
def statusAndCode : AppError → Nat × String
  | config _ => (500, "config_error")
  | tenant e => if e.isAccessFailure then (403, "forbidden") else (500, "database_error")
  | session (.resolve e) =>
    if e.isAccessFailure then (403, "forbidden") else (500, "database_error")
  | session _ => (500, "database_error")
  | provisioning (.unknownTenant _) => (404, "not_found")
  | provisioning (.schemaNotRegistered _ _) => (404, "not_found")
  | provisioning (.registryUpdate _ _ _) => (502, "registry_inconsistent")
  | provisioning _ => (500, "provisioning_error")
  | database .rowNotFound => (404, "not_found")
  | database _ => (500, "database_error")
  | unauthorized _ => (401, "unauthorized")
  | forbidden _ => (403, "forbidden")
  | badRequest _ => (400, "bad_request")
  | internal _ => (500, "internal_error")

/-- Whether a failure says that a tenant may not use the service. -/
def isAccessFailure : AppError → Bool
  | tenant e => e.isAccessFailure
  | session (.resolve e) => e.isAccessFailure
  | _ => false

/-- The one message for tenants that may not use the service. -/
def accessMessage : String := "tenant not found or inactive"

/-- The message that the caller gets to see. -/
def publicMessage (e : AppError) : String :=
  if e.isAccessFailure then accessMessage else e.message

/-- The body of the answer to a request that failed. -/
def toJson (e : AppError) : Json :=
  .obj [("error", .obj [("code", .str e.statusAndCode.2), ("message", .str e.publicMessage)])]

/-- The answer to a request that failed. -/
def response (e : AppError) : Response := .ofJson e.statusAndCode.1 e.toJson

end AppError

end Tenancy.Http
