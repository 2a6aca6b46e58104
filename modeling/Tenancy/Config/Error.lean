import Tenancy.Error
import Tenancy.Text.Ascii

/-! # Unacceptable settings -/

namespace Tenancy.Config

/-- What is wrong with a setting. -/
inductive Problem where
  | notATenant (value : String)
  | notANumber (value : String)
  | notABoolean (value : String)
  | notADuration (value : String)
  | notAPostgresUrl
  | noConnections
  | idleAboveOpen (idle maxOpen : Nat)
  | unknownModule (value : String)
  | notARole (value : String)
  | notASchema (value : String)
  | zeroDuration
  /-- A problem in the words of whoever checked the setting. -/
  | described (text : String)
  deriving DecidableEq

def Problem.message : Problem → String
  | notATenant value => "'" ++ value ++ "' is not a tenant id"
  | notANumber value => "expected a non-negative integer, got '" ++ value ++ "'"
  | notABoolean value => "expected a boolean, got '" ++ value ++ "'"
  | notADuration value => "expected a duration like 500ms, 5s, 5m or 1h, got '" ++ value ++ "'"
  | notAPostgresUrl => "expected a postgres:// connection string"
  | noConnections => "must be at least 1"
  | idleAboveOpen idle maxOpen =>
    Text.decimal idle ++ " exceeds MAX_OPEN_CONNS (" ++ Text.decimal maxOpen ++ ")"
  | unknownModule value => (TenantError.unknownService value).message
  | notARole value => "'" ++ value ++ "' is not a valid role name"
  | notASchema value => "'" ++ value ++ "' is not a valid schema name"
  | zeroDuration => "must be greater than zero"
  | described text => text

/-- Why the process must not start. -/
inductive ConfigError where
  | missing (key : String)
  | invalid (key : String) (problem : Problem)
  deriving DecidableEq

/-- The setting that a failure is about. -/
def ConfigError.key : ConfigError → String
  | missing key => key
  | invalid key _ => key

def ConfigError.message : ConfigError → String
  | missing key => "missing required setting: " ++ key
  | invalid key problem => "invalid setting " ++ key ++ ": " ++ problem.message

end Tenancy.Config
