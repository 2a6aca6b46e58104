import Tenancy.Postgres.Reply
import Tenancy.Service

/-! # Calls to the pools

What a client of the two clusters asks of its pools: a connection, statements on it, and to take it
back.  The two stores and the rest of the service's surroundings are programs over these calls:
`onPools` says which statements each call of the service becomes.

A transaction that is not brought to its end owes the server a rollback, which is sent before the
next statement on the connection, or before the connection comes to rest. -/

namespace Tenancy.Postgres

/-- A call to the pools. -/
inductive PoolCall where
  /-- Takes a connection to a cluster out of its pool. -/
  | checkout (cluster : Cluster)
  /-- Sends a statement. -/
  | send (connection : ConnectionId) (statement : Statement)
  /-- Begins a transaction. -/
  | begin (connection : ConnectionId)
  /-- Has a rollback sent before the next statement. -/
  | oweRollback (connection : ConnectionId)
  /-- Gives a connection back to its pool. -/
  | giveBack (connection : ConnectionId)
  deriving DecidableEq

/-- What a call answers with. -/
abbrev PoolCall.Answer : PoolCall → Type
  | checkout _ => Except DbError ConnectionId
  | send _ _ => Except DbError Reply
  | begin _ => Except DbError Unit
  | oweRollback _ => Unit
  | giveBack _ => Unit

/-- A program that calls the pools. -/
abbrev PoolProgram (α : Type) : Type := Program PoolCall.Answer α

namespace PoolProgram

/-- Makes one call. -/
def call (c : PoolCall) : PoolProgram c.Answer := Program.call c

/-- Runs on a connection of a cluster, which is given back afterwards. -/
def onConnection {α : Type} (c : Cluster)
    (work : ConnectionId → PoolProgram (Except DbError α)) : PoolProgram (Except DbError α) := do
  match ← call (.checkout c) with
  | .error e => return .error e
  | .ok id =>
    let result ← work id
    call (.giveBack id)
    return result

/-- Sends a statement on a connection of its own and reads the answer. -/
def query {α : Type} (c : Cluster) (s : Statement) (read : Reply → Except DbError α) :
    PoolProgram (Except DbError α) :=
  onConnection c fun id => do return (← call (.send id s)).bind read

/-- Sends a statement whose answer does not matter. -/
def execute (id : ConnectionId) (s : Statement) : PoolProgram (Except DbError Unit) := do
  return (← call (.send id s)).map fun _ => ()

/-! ## Transactions -/

/-- Ends a transaction by a statement; a transaction that does not end owes a rollback. -/
def endBy (id : ConnectionId) (s : Statement) : PoolProgram (Except DbError Unit) := do
  match ← call (.send id s) with
  | .error e =>
    call (.oweRollback id)
    return .error e
  | .ok _ => return .ok ()

/-- Runs in a transaction that `last` ends when the work succeeds. -/
def transaction (id : ConnectionId) (work : PoolProgram (Except DbError Unit))
    (last : Statement) : PoolProgram (Except DbError Unit) := do
  match ← call (.begin id) with
  | .error e => return .error e
  | .ok () =>
    match ← work with
    | .error e =>
      call (.oweRollback id)
      return .error e
    | .ok () => endBy id last

end PoolProgram

/-! ## The surroundings of the service -/

/-- What a client of the clusters is set up with. -/
structure Client where
  module : ServiceModule
  /-- The schema that holds the registry's tables. -/
  registrySchema : String
  /-- The time at which its programs run. -/
  now : Timestamp := .earliest

namespace Client

open PoolProgram

/-- Creates a tenant's schema, while no other process does so for the tenant. -/
def ensureSchema (m : ServiceModule) (t : TenantId) (schema owner : String) :
    PoolProgram (Except DbError Unit) :=
  onConnection .operations fun id =>
    transaction id (do
      match ← execute id (OperationsStatement.lockTenant t) with
      | .error e => return .error e
      | .ok () => execute id (OperationsStatement.createSchema m t schema owner)) .commit

/-- A call to the two stores as statements. -/
def onStores (client : Client) : (c : StoreCall) → PoolProgram c.Reply
  | .findTenant t =>
    query .registry (RegistryStatement.findTenant client.registrySchema t) fun r =>
      r.rowList.head?.mapM Row.tenantRecord
  | .isActive t =>
    query .registry (RegistryStatement.isActive client.registrySchema t) fun r =>
      r.one.bind fun row => row.first .bool
  | .hasModule t m =>
    query .registry (RegistryStatement.hasModule client.registrySchema t m) fun r =>
      r.one.bind fun row => (row.first (.optional .bool)).map fun b => b.getD false
  | .setModuleSchema t m schema =>
    query .registry (RegistryStatement.setModuleSchema client.registrySchema t m schema) fun r =>
      .ok r.count
  | .insertAudit e =>
    query .registry (RegistryStatement.insertAudit client.registrySchema e) fun r =>
      r.one.bind fun row => row.first .bigint
  | .updateAudit target status error =>
    query .registry
      (RegistryStatement.updateAudit client.registrySchema target status error) fun r =>
        .ok r.count
  | .latestAudit t m =>
    query .registry (RegistryStatement.latestAudit client.registrySchema t m) fun r =>
      (r.rowList.head?.mapM Row.auditColumns).bind fun columns => columns.mapM Row.auditEntry
  | .stalledAudits m cutoff =>
    query .registry (RegistryStatement.stalledAudits client.registrySchema m cutoff) fun r =>
      Row.auditEntries r.rowList
  | .ensureSchema t schema owner => ensureSchema client.module t schema owner
  | .schemaExists schema =>
    query .operations (OperationsStatement.schemaExists schema) fun r =>
      r.one.bind fun row => row.first .bool

/-- Asks one cluster for a sign of life. -/
def ping (c : Cluster) : PoolProgram (Except DbError Unit) := query c .probe fun _ => .ok ()

/-- Asks both clusters for a sign of life, the registry first. -/
def probe : PoolProgram (Except (Cluster × DbError) Unit) := do
  match ← ping .registry with
  | .error e => return .error (.registry, e)
  | .ok () =>
    match ← ping .operations with
    | .error e => return .error (.operations, e)
    | .ok () => return .ok ()

/-- Runs a script on a connection to the operations database. -/
def runScript (script : String) : PoolProgram (Except DbError Unit) :=
  onConnection .operations fun id => execute id (.plain script)

/-- A call of the service.  One program runs at a time and takes no time, so that locks and waiting
    do nothing; no verifier outside the service is asked. -/
def onPools (client : Client) : (c : ServiceCall) → PoolProgram c.Reply
  | .store c => client.onStores c
  | .lockTenant _ => return ()
  | .unlockTenant _ => return ()
  | .acquireConnection => call (.checkout .operations)
  | .execute id sql => execute id (.plain sql)
  | .showSearchPath id => do
    return (← call (.send id .showSearchPath)).bind fun r =>
      r.one.bind fun row => row.first .text
  | .returnConnection id => call (.giveBack id)
  | .authenticate _ => return .error .missingToken
  | .probe => probe
  | .now => return client.now

/-- A program of the service as statements. -/
def service {α : Type} (client : Client) (p : ServiceProgram α) : PoolProgram α :=
  p.run client.onPools

end Client

end Tenancy.Postgres
