import Tenancy.Config.Error
import Tenancy.Config.Settings

/-! # Checks across settings

Pool sizes, the module's name, the names that end up in statements, and the spans that must not be
zero, checked in this order; the first failing check decides the error. -/

namespace Tenancy.Config

/-- What the keys of the registry database begin with. -/
def registryStem : String := "TENANT_DB_"

/-- What the keys of the service database begin with. -/
def databaseStem : String := "DB_"

/-- Passes `problem` to the setting `key` unless `condition` holds. -/
def require (condition : Prop) [Decidable condition] (key : String) (problem : Problem) :
    Except ConfigError Unit :=
  if condition then .ok () else .error (.invalid key problem)

/-- Whether a text begins with one of the two schemes of a connection string. -/
def isPostgresUrl (url : String) : Bool :=
  "postgres://".toList.isPrefixOf url.toList || "postgresql://".toList.isPrefixOf url.toList

/-- The checks of one database. -/
def checkDatabase (stem : String) (db : DatabaseSettings) : Except ConfigError Unit := do
  require (isPostgresUrl db.url) (stem ++ "URL") .notAPostgresUrl
  require (db.maxOpen ≠ 0) (stem ++ "MAX_OPEN_CONNS") .noConnections
  require (db.minIdle ≤ db.maxOpen) (stem ++ "MAX_IDLE_CONNS")
    (.idleAboveOpen db.minIdle db.maxOpen)

/-- The longest identifier that the database keeps whole. -/
def maxIdentifier : Nat := 63

/-- Whether a character may stand in a plain identifier; digits may not come first. -/
def isIdentifierChar (first : Bool) (c : Char) : Bool :=
  c.isAlpha || c == '_' || (!first && c.isDigit)

/-- Whether a name needs no quotes: a letter or underscore, then letters, digits and underscores,
    within the length that the database keeps. -/
def isPlainIdentifier (s : String) : Bool :=
  match s.toList with
  | [] => false
  | c :: rest =>
    isIdentifierChar true c && rest.all (isIdentifierChar false) &&
      decide (rest.length + 1 ≤ maxIdentifier)

/-- Checks a configuration. -/
def validate (c : ServiceConfig) : Except ConfigError Unit := do
  checkDatabase registryStem c.registryDatabase
  checkDatabase databaseStem c.database
  require ((ServiceModule.ofName? c.serviceName).isSome) "SERVICE_NAME"
    (.unknownModule c.serviceName)
  require (isPlainIdentifier c.ownerRole) "DB_USER" (.notARole c.ownerRole)
  require (isPlainIdentifier c.registrySchema) "REGISTRY_SCHEMA" (.notASchema c.registrySchema)
  require (c.requestTimeout ≠ ⟨0⟩) "REQUEST_TIMEOUT" .zeroDuration
  require (c.reconcileInterval ≠ ⟨0⟩) "RECONCILE_INTERVAL" .zeroDuration

end Tenancy.Config
