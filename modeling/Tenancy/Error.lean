import Tenancy.Database
import Tenancy.ServiceModule
import Tenancy.TenantId

/-! # Failures of the service

One type for each activity that can fail; each constructor is a cause, and `message` words it. -/

namespace Tenancy

/-- Why a tenant has no schema to use. -/
inductive TenantError where
  | notFound (tenant : TenantId)
  | moduleNotSubscribed (tenant : TenantId) (module : String)
  | schemaMissing (tenant : TenantId) (module : String)
  | unknownService (name : String)
  | accessDenied (tenant : TenantId) (module : String)
  /-- The registry could not be asked. -/
  | registry (tenant : TenantId) (cause : DbError)
  deriving DecidableEq

namespace TenantError

def message : TenantError → String
  | notFound t => "tenant " ++ t.text ++ " not found or inactive"
  | moduleNotSubscribed t m => "tenant " ++ t.text ++ " is not subscribed to the " ++ m ++ " module"
  | schemaMissing t m => "tenant " ++ t.text ++ " has no schema for the " ++ m ++ " module"
  | unknownService name => "unknown service name: " ++ name
  | accessDenied t m => "tenant " ++ t.text ++ " does not have access to the " ++ m ++ " module"
  | registry t e => "query tenant registry for " ++ t.text ++ ": " ++ e.message

/-- Whether the failure says that the tenant may not use the service, and not that the registry is
    out of reach. -/
def isAccessFailure : TenantError → Bool
  | registry _ _ => false
  | _ => true

end TenantError

/-- Why a tenant's session could not be handed out. -/
inductive SessionError where
  | resolve (cause : TenantError)
  | acquire (tenant : TenantId) (cause : DbError)
  | searchPath (tenant : TenantId) (schema : String) (cause : DbError)
  deriving DecidableEq

def SessionError.message : SessionError → String
  | resolve e => "get tenant schema: " ++ e.message
  | acquire t e => "acquire connection for tenant " ++ t.text ++ ": " ++ e.message
  | searchPath t schema e =>
    "set search path to " ++ schema ++ " for tenant " ++ t.text ++ ": " ++ e.message

/-- An audit row that could not be written; never fatal by itself. -/
structure AuditLogError where
  tenant : TenantId
  operation : String
  cause : DbError
  deriving DecidableEq

def AuditLogError.message (e : AuditLogError) : String :=
  "audit log " ++ e.operation ++ " failed for tenant " ++ e.tenant.text ++ ": " ++ e.cause.message

/-- Why a tenant was not provisioned, or why its schema cannot be told. -/
inductive ProvisioningError where
  | unknownTenant (tenant : TenantId)
  | registryRead (tenant : TenantId) (cause : DbError)
  /-- The schema was not created; `audit` tells that the attempt left no row either. -/
  | schemaCreation (tenant : TenantId) (schema : String) (cause : DbError)
      (audit : Option AuditLogError)
  /-- The schema exists and the registry does not name it. -/
  | registryUpdate (tenant : TenantId) (schema reason : String)
  | schemaNotRegistered (tenant : TenantId) (module : String)
  deriving DecidableEq

/-- The addition to a message for a missing audit row. -/
def auditSuffix : Option AuditLogError → String
  | none => ""
  | some e => "; also " ++ e.message

def ProvisioningError.message : ProvisioningError → String
  | unknownTenant t => "tenant " ++ t.text ++ " is not present in the tenant registry"
  | registryRead t e => "read tenant registry for " ++ t.text ++ ": " ++ e.message
  | schemaCreation t schema e audit =>
    "provision tenant schema " ++ schema ++ " for " ++ t.text ++ ": " ++ e.message ++
      auditSuffix audit
  | registryUpdate t schema reason =>
    "schema " ++ schema ++ " exists for tenant " ++ t.text ++
      " but the tenant registry was not updated (registry is inconsistent until reconciled): " ++
      reason
  | schemaNotRegistered t m => "tenant " ++ t.text ++ " has no " ++ m ++ " schema registered"

/-- Why a pool of connections could not be opened. -/
inductive ConnectionError where
  | invalidUrl (cluster : Cluster) (cause : DbError)
  /-- The pool may have no connection at all. -/
  | noRoom (cluster : Cluster)
  | opening (cluster : Cluster) (cause : DbError)
  | ping (cluster : Cluster) (cause : DbError)
  deriving DecidableEq

def ConnectionError.message : ConnectionError → String
  | invalidUrl c e => "invalid database url for " ++ c.name ++ ": " ++ e.message
  | noRoom c => "no connection allowed in the " ++ c.name ++ " pool"
  | opening c e => "open " ++ c.name ++ " pool: " ++ e.message
  | ping c e => "ping " ++ c.name ++ " database: " ++ e.message

/-- Why a file gave no text. -/
inductive FileError where
  | notFound
  | isDirectory
  | notADirectory
  | nameTooLong
  /-- A character of the path is NUL. -/
  | nulInName
  | invalidText
  /-- There was no path to try. -/
  | noCandidates
  /-- Another failure, as the system words it. -/
  | system (detail : String)
  deriving DecidableEq

def FileError.message : FileError → String
  | notFound => "No such file or directory (os error 2)"
  | isDirectory => "Is a directory (os error 21)"
  | notADirectory => "Not a directory (os error 20)"
  | nameTooLong => "File name too long (os error 36)"
  | nulInName => "file name contained an unexpected NUL byte"
  | invalidText => "stream did not contain valid UTF-8"
  | noCandidates => "no candidate paths configured"
  | system detail => detail

/-- Why the provisioning procedure was not installed. -/
inductive InstallError where
  | load (tried : String) (cause : FileError)
  | empty (path : String)
  | execute (cause : DbError)
  deriving DecidableEq

def InstallError.message : InstallError → String
  | load tried e => "load provisioning script (tried " ++ tried ++ "): " ++ e.message
  | empty path => "provisioning script is empty: " ++ path
  | execute e => "execute provisioning script: " ++ e.message

/-- Why a bearer token was not accepted. -/
inductive AuthError where
  | missingToken
  | audienceMismatch
  | tenantMissing
  | invalid (reason : String)
  deriving DecidableEq

def AuthError.message : AuthError → String
  | missingToken => "bearer token missing"
  | audienceMismatch => "token audience not accepted"
  | tenantMissing => "tenant claim missing in token"
  | invalid reason => "invalid bearer token: " ++ reason

end Tenancy
