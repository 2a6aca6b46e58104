import Tenancy.Config.Validation

/-! # Reading settings from an environment

Every value is trimmed and a blank one counts as unset.  Unset keys take defaults, except for the
two database addresses.  Settings are read in a fixed order and then checked; the first problem
met decides the error. -/

namespace Tenancy.Config

/-- The variables of a process. -/
abbrev Environment := String → Option String

namespace Environment

/-- The variables listed as pairs; the first pair of a key counts. -/
def ofList (vars : List (String × String)) : Environment := fun key => vars.lookup key

/-- The trimmed value of a key that is set. -/
def get (env : Environment) (key : String) : Option String := (env key).bind Text.nonBlank?

/-- The value of a key as `read?` understands it, or a default where the key is unset. -/
def getWith {α : Type} (env : Environment) (read? : String → Option α) (problem : String → Problem)
    (key : String) (default : α) : Except ConfigError α :=
  match env.get key with
  | none => .ok default
  | some raw => match read? raw with
    | some value => .ok value
    | none => .error (.invalid key (problem raw))

end Environment

/-- Reads a count that fits in 32 bits, with an optional plus sign. -/
def readCount? (raw : String) : Option Nat :=
  match raw.toList with
  | '+' :: ds => Text.natBelow? UInt32.size ds
  | ds => Text.natBelow? UInt32.size ds

/-- The words for true. -/
def trueWords : List String := ["1", "true", "yes", "on"]

/-- The words for false. -/
def falseWords : List String := ["0", "false", "no", "off"]

/-- Reads a truth value in any letter case. -/
def readFlag? (raw : String) : Option Bool :=
  let word := Text.lowerCase raw
  if word ∈ trueWords then some true else if word ∈ falseWords then some false else none

/-- A problem with a truth value shows it in lower case. -/
def flagProblem (raw : String) : Problem := .notABoolean (Text.lowerCase raw)

def countOr (env : Environment) : String → Nat → Except ConfigError Nat :=
  env.getWith readCount? .notANumber

def flagOr (env : Environment) : String → Bool → Except ConfigError Bool :=
  env.getWith readFlag? flagProblem

def durationOr (env : Environment) : String → Duration → Except ConfigError Duration :=
  env.getWith Duration.ofText? .notADuration

/-- The settings of the database whose keys begin with `stem`. -/
def loadDatabase (env : Environment) (stem : String) : Except ConfigError DatabaseSettings := do
  let url ← match env.get (stem ++ "URL") with
    | some url => pure url
    | none => .error (.missing (stem ++ "URL"))
  let defaults : DatabaseSettings := { url }
  let maxOpen ← countOr env (stem ++ "MAX_OPEN_CONNS") defaults.maxOpen
  let minIdle ← countOr env (stem ++ "MAX_IDLE_CONNS") defaults.minIdle
  let maxLifetime ← durationOr env (stem ++ "CONN_MAX_LIFETIME") defaults.maxLifetime
  let simpleProtocol ← flagOr env (stem ++ "PREFER_SIMPLE_PROTO") defaults.simpleProtocol
  let acquireTimeout ← durationOr env (stem ++ "ACQUIRE_TIMEOUT") defaults.acquireTimeout
  return ⟨url, maxOpen, minIdle, maxLifetime, simpleProtocol, acquireTimeout⟩

/-- The origins in a list separated by commas; blank ones are dropped. -/
def readOrigins (raw : String) : List String :=
  (raw.toList.splitOn ',').filterMap fun piece => Text.nonBlank? (String.ofList piece)

/-- Reads the default tenant; no tenant where the key is unset. -/
def loadDefaultTenant (env : Environment) : Except ConfigError TenantId :=
  env.getWith TenantId.ofText? .notATenant "DEFAULT_TENANT" .nil

/-- Reads all settings without the checks across them. -/
def read (env : Environment) : Except ConfigError ServiceConfig := do
  let defaultTenant ← loadDefaultTenant env
  let gracefulDelay ← durationOr env "GRACEFUL_DELAY" (.ofSecs 5)
  let requestTimeout ← durationOr env "REQUEST_TIMEOUT" (.ofSecs 30)
  let registryDatabase ← loadDatabase env registryStem
  let database ← loadDatabase env databaseStem
  let reconcileInterval ← durationOr env "RECONCILE_INTERVAL" (.ofSecs 300)
  let reconcileStaleAfter ← durationOr env "RECONCILE_STALE_AFTER" (.ofSecs 600)
  return {
    environment := (env.get "ENVIRONMENT").getD "development"
    httpAddress := (env.get "HTTP_ADDRESS").getD "0.0.0.0:8080"
    gracefulDelay, requestTimeout
    serviceName := (env.get "SERVICE_NAME").getD "operations"
    registryDatabase, database
    ownerRole := (env.get "DB_USER").getD "erp_user"
    registrySchema := (env.get "REGISTRY_SCHEMA").getD "registry"
    defaultTenant
    internalSecret := env.get "FREGO_INTERNAL_SECRET"
    scriptPath := env.get "PROVISION_SCRIPT_PATH"
    allowedOrigins := readOrigins ((env.get "ALLOWED_ORIGINS").getD defaultOrigin)
    reconcileInterval, reconcileStaleAfter }

/-- Reads and checks the settings of a service process. -/
def load (env : Environment) : Except ConfigError ServiceConfig := do
  let config ← read env
  validate config
  return config

end Tenancy.Config
