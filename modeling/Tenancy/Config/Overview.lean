import Tenancy.Config.Settings
import Tenancy.Json

/-! # Settings as JSON

The settings of a process as an operator gets to see them.  A span of time is shown as whole
seconds, in digits, and the nanoseconds beyond them. -/

namespace Tenancy

def Duration.toJson (d : Duration) : Json :=
  .obj [("secs", .str (Text.decimal d.secs)), ("nanos", .ofNat d.subsecNanos)]

namespace Config

def DatabaseSettings.toJson (s : DatabaseSettings) : Json :=
  .obj [("url", .str s.url), ("max_open_conns", .ofNat s.maxOpen),
    ("min_idle_conns", .ofNat s.minIdle), ("conn_max_lifetime", s.maxLifetime.toJson),
    ("prefer_simple_protocol", .bool s.simpleProtocol),
    ("acquire_timeout", s.acquireTimeout.toJson)]

def ServiceConfig.toJson (c : ServiceConfig) : Json :=
  .obj [("environment", .str c.environment), ("http_address", .str c.httpAddress),
    ("graceful_delay", c.gracefulDelay.toJson), ("request_timeout", c.requestTimeout.toJson),
    ("service_name", .str c.serviceName), ("tenant_database", c.registryDatabase.toJson),
    ("database", c.database.toJson), ("db_owner_role", .str c.ownerRole),
    ("registry_schema", .str c.registrySchema), ("default_tenant", .ofTenant c.defaultTenant),
    ("internal_secret", .ofText? c.internalSecret),
    ("provision_script_path", .ofText? c.scriptPath),
    ("allowed_origins", .arr (c.allowedOrigins.map .str)),
    ("reconcile_interval", c.reconcileInterval.toJson),
    ("reconcile_stale_after", c.reconcileStaleAfter.toJson),
    ("is_production", .bool c.isProduction)]

end Config

end Tenancy
