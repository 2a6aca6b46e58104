import Tenancy.Json
import Tenancy.Simulation.Client
import Tenancy.Simulation.Step

/-! # Traces

How the calls that a simulation keeps on record are written down: each as a list of its name and
what it was made with. -/

namespace Tenancy.Simulation

/-- The age of a cutoff against a clock in whole seconds; the earliest cutoff has a name. -/
def ageText (clock cutoff : Timestamp) : String :=
  if cutoff = Timestamp.earliest then "min"
  else Text.signedDecimal ((clock.nanos - cutoff.nanos) / Duration.nanosPerSec)

/-- The rows that a change of status applies to. -/
def targetArguments : Audit.Target → List Json
  | .entry id => [.str "entry", .ofInt id]
  | .pending t m => [.str "pending", .ofTenant t, .str m.name]

/-- What a call to the stores is made with, at a time that the rows' clock shows. -/
def storeArguments (clock : Timestamp) : StoreCall → List Json
  | .findTenant t => [.ofTenant t]
  | .isActive t => [.ofTenant t]
  | .hasModule t m => [.ofTenant t, .str m.name]
  | .setModuleSchema t m schema => [.ofTenant t, .str m.name, .str schema]
  | .insertAudit e => [.ofTenant e.tenant, .str e.module.name, .str e.schema, .str e.actor]
  | .updateAudit target status error =>
    targetArguments target ++ [.str status.name, .ofText? error]
  | .latestAudit t m => [.ofTenant t, .str m.name]
  | .stalledAudits m cutoff => [.str m.name, .str (ageText clock cutoff)]
  | .ensureSchema t schema owner => [.ofTenant t, .str schema, .str owner]
  | .schemaExists schema => [.str schema]

/-- What a call of the service is made with. -/
def callArguments (clock : Timestamp) : ServiceCall → List Json
  | .store c => storeArguments clock c
  | .execute n sql => [.ofNat n, .str sql]
  | .returnConnection n => [.ofNat n]
  | .authenticate token => [.str token]
  | _ => []

/-- The name of a call on record. -/
def callName (c : ServiceCall) : String := (faultName? c).getD "return_connection"

def Logged.toJson (l : Logged) : Json :=
  .arr (.str (callName l.call) :: callArguments l.clock l.call)

def Dump.toJson (d : Dump) : Json :=
  .obj [("tenants", .arr (d.tenants.map TenantRecord.toJson)),
    ("audits", .arr (d.audits.map Audit.Entry.toJson)), ("schemas", .arr (d.schemas.map .str)),
    ("outstanding", .ofNat d.outstanding)]

/-! ## Statements -/

open Postgres (Value Sent)

def valueToJson : Value → Json
  | .null => .null
  | .bool b => .bool b
  | .bigint n => .ofInt n
  | .text s => .str s
  | .uuid t => .ofTenant t
  | .timestamp t => .ofTimestamp t
  | .textArray items => .arr (items.map .ofText?)

/-- A statement: its text and the values of its parameters. -/
def sentToJson (s : Sent) : Json :=
  .arr [.str s.statement.shown, match s.statement.parameters with
    | some values => .arr (values.map valueToJson)
    | none => .null]

/-- The statements that reached a cluster, under a key of its own where there are any. -/
def clusterTrace (record : List Sent) (c : Cluster) (key : String) : List (String × Json) :=
  match record.filter (·.cluster == c) with
  | [] => []
  | statements => [(key, .arr (statements.map sentToJson))]

/-- The statements that reached each cluster. -/
def recordToJson (record : List Sent) : Json :=
  .obj (clusterTrace record .registry "registry" ++ clusterTrace record .operations "operations")

end Tenancy.Simulation
