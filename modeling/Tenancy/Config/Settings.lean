import Tenancy.Duration
import Tenancy.TenantId
import Tenancy.Text.Ascii

/-! # Service settings

What a process is configured with, read once when it starts. -/

namespace Tenancy.Config

/-- The connection to one database cluster and the size of its pool. -/
structure DatabaseSettings where
  url : String
  maxOpen : Nat := 25
  /-- How many connections stay open while idle. -/
  minIdle : Nat := 5
  maxLifetime : Duration := .ofSecs 300
  /-- Whether statements are sent without preparing and caching them. -/
  simpleProtocol : Bool := false
  acquireTimeout : Duration := .ofSecs 30
  deriving DecidableEq

/-- The settings of a service process. -/
structure ServiceConfig where
  environment : String
  httpAddress : String
  gracefulDelay : Duration
  requestTimeout : Duration
  /-- The module that the deployment serves. -/
  serviceName : String
  /-- The shared tenant registry. -/
  registryDatabase : DatabaseSettings
  /-- The database of this service. -/
  database : DatabaseSettings
  /-- The role that owns what provisioning creates. -/
  ownerRole : String
  /-- The schema that holds the registry's tables. -/
  registrySchema : String
  defaultTenant : TenantId
  /-- The secret of the internal endpoints; without one they are disabled. -/
  internalSecret : Option String
  scriptPath : Option String
  /-- The browser origins that may call the service. -/
  allowedOrigins : List String
  reconcileInterval : Duration
  reconcileStaleAfter : Duration
  deriving DecidableEq

/-- Whether the process runs in production. -/
def ServiceConfig.isProduction (c : ServiceConfig) : Bool :=
  Text.equalsIgnoringCase c.environment "production"

/-- The origin allowed where none is configured: a local development server. -/
def defaultOrigin : String := "http://localhost:3000"

end Tenancy.Config
