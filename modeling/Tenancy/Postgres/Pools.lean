import Tenancy.Config.Settings
import Tenancy.Postgres.Call
import Tenancy.Postgres.Options
import Tenancy.Postgres.Server

/-! # Pools of connections

A pool hands out a connection that rests in it, or opens one as long as it may.  A connection that
comes back to the operations pool has its search path restored before it rests; where that fails it
is dropped, so that no connection at rest looks names up in a tenant's schema.  A pool whose
connections have no time to live opens a new one each time.

`Pools.perform` is the meaning of a call to the pools. -/

namespace Tenancy.Postgres

/-- A connection as both of its ends see it. -/
structure Connection where
  cluster : Cluster
  /-- The places where names are looked up. -/
  searchPath : String := defaultSearchPath
  /-- Whether a rollback is to be sent before the next statement. -/
  owesRollback : Bool := false
  /-- The texts that were prepared on it and kept. -/
  prepared : List String := []
  deriving DecidableEq

/-- A pool of connections to one cluster. -/
structure Pool where
  /-- How many connections may be open. -/
  limit : Nat := 0
  /-- Whether connections keep what was prepared on them. -/
  keepsPrepared : Bool := true
  /-- Whether connections come to rest; otherwise each is used once. -/
  keepsIdle : Bool := true
  closed : Bool := true
  /-- The connections at rest; the next to be handed out comes first. -/
  idle : List Connection := []

/-- The pools of both clusters, the connections that are out, and the server. -/
structure Pools where
  server : Server
  registry : Pool := {}
  operations : Pool := {}
  /-- The connections that are out. -/
  out : List (ConnectionId × Connection) := []
  lastConnection : ConnectionId := 0

namespace Pools

/-- The pool of a cluster. -/
def pool (p : Pools) : Cluster → Pool
  | .registry => p.registry
  | .operations => p.operations

/-- The pools with a change to that of a cluster. -/
def update (p : Pools) (c : Cluster) (change : Pool → Pool) : Pools :=
  match c with
  | .registry => { p with registry := change p.registry }
  | .operations => { p with operations := change p.operations }

/-- How many connections to a cluster are open. -/
def size (p : Pools) (c : Cluster) : Nat :=
  (p.pool c).idle.length + (p.out.filter (·.2.cluster == c)).length

/-! ## Statements -/

/-- Has a statement prepared on a connection that does not keep it. -/
def prepareOn (p : Pools) (conn : Connection) (s : Statement) : Connection × Pools :=
  if s.parameters.isSome ∧ s.text ∉ conn.prepared then
    ({ conn with
        prepared := if (p.pool conn.cluster).keepsPrepared then s.text :: conn.prepared else [] },
      { p with server := p.server.prepare s.text })
  else (conn, p)

/-- Sends a statement on a connection that owes nothing. -/
def sendNow (p : Pools) (conn : Connection) (s : Statement) :
    Except DbError Reply × Connection × Pools :=
  let (conn, p) := p.prepareOn conn s
  let (reply, searchPath, server) := p.server.respond conn.cluster conn.searchPath s
  (reply, { conn with searchPath }, { p with server })

/-- Sends the rollback that a connection owes. -/
def settle (p : Pools) (conn : Connection) : Except DbError Unit × Connection × Pools :=
  if conn.owesRollback then
    let (reply, conn, p) := p.sendNow { conn with owesRollback := false } .rollback
    (reply.map fun _ => (), conn, p)
  else (.ok (), conn, p)

/-- Sends a statement.  Where a rollback that is owed fails, the statement is not sent. -/
def sendOn (p : Pools) (conn : Connection) (s : Statement) :
    Except DbError Reply × Connection × Pools :=
  match p.settle conn with
  | (.error e, conn, p) => (.error e, conn, p)
  | (.ok (), conn, p) => p.sendNow conn s

/-- Begins a transaction.  A rollback that is owed is sent along, so that the server is told to
    begin even if that fails. -/
def beginOn (p : Pools) (conn : Connection) : Except DbError Unit × Connection × Pools :=
  let (settled, conn, p) := p.settle conn
  let (begun, conn, p) := p.sendNow conn .begin
  (settled.bind fun () => begun.map fun _ => (), conn, p)

/-! ## Connections -/

/-- Hands a connection out. -/
def handOut (p : Pools) (conn : Connection) : ConnectionId × Pools :=
  let id := p.lastConnection + 1
  (id, { p with out := (id, conn) :: p.out, lastConnection := id })

/-- Takes a connection to a cluster out of its pool. -/
def checkout (p : Pools) (c : Cluster) : Except DbError ConnectionId × Pools :=
  if (p.pool c).closed then (.error .poolClosed, p)
  else
    match (p.pool c).idle with
    | conn :: rest =>
      let (id, p) := (p.update c fun pool => { pool with idle := rest }).handOut conn
      (.ok id, p)
    | [] =>
      if p.size c < (p.pool c).limit then
        match p.server.login c with
        | .error e => (.error e, p)
        | .ok () =>
          let (id, p) := p.handOut { cluster := c }
          (.ok id, p)
      else (.error .poolTimedOut, p)

/-- Brings a connection to rest in its pool. -/
def rest (p : Pools) (conn : Connection) : Pools :=
  p.update conn.cluster fun pool => { pool with idle := pool.idle ++ [conn] }

/-- Takes a connection back that is no longer out.  It does not come to rest in a pool that is
    closed or keeps none, and neither does one whose search path is to be restored and is not. -/
def takeBack (p : Pools) (conn : Connection) : Pools :=
  if (p.pool conn.cluster).closed || !(p.pool conn.cluster).keepsIdle then (p.settle conn).2.2
  else if conn.cluster.resetsSearchPath then
    match p.sendOn conn OperationsStatement.resetSearchPath with
    | (.error _, _, p) => p
    | (.ok _, conn, p) => p.rest conn
  else p.rest conn

/-- Runs on a connection that is out. -/
def onOut {α : Type} (p : Pools) (id : ConnectionId)
    (f : Connection → Except DbError α × Connection × Pools) : Except DbError α × Pools :=
  match p.out.lookup id with
  | none => (.error .workerCrashed, p)
  | some conn =>
    let (result, conn, p) := f conn
    (result, { p with out := p.out.map fun o => if o.1 == id then (id, conn) else o })

/-- The answer to a call, and the pools after it. -/
def perform (p : Pools) : (c : PoolCall) → c.Answer × Pools
  | .checkout c => p.checkout c
  | .send id s => p.onOut id fun conn => p.sendOn conn s
  | .begin id => p.onOut id p.beginOn
  | .oweRollback id =>
    ((), { p with out := p.out.map fun o =>
        if o.1 == id then (id, { o.2 with owesRollback := true }) else o })
  | .giveBack id =>
    match p.out.lookup id with
    | none => ((), p)
    | some conn => ((), { p with out := p.out.filter (·.1 != id) }.takeBack conn)

/-- Runs a program. -/
def run {α : Type} : PoolProgram α → Pools → α × Pools
  | .done a, p => (a, p)
  | .ask c k, p =>
    let (answer, p) := p.perform c
    run (k answer) p

/-! ## Opening and closing -/

/-- Closes the pool of a cluster; the connections at rest are gone. -/
def close (p : Pools) (c : Cluster) : Pools :=
  p.update c fun pool => { pool with closed := true, idle := [] }

/-- Closes both pools. -/
def closeAll (p : Pools) : Pools := (p.close .registry).close .operations

/-- The pool that settings describe, with the connections that it opens at first. -/
def opened (c : Cluster) (s : Config.DatabaseSettings) : Pool :=
  let keepsIdle := decide (s.maxLifetime ≠ .ofSecs 0)
  { limit := s.maxOpen, keepsPrepared := !s.simpleProtocol, keepsIdle, closed := false
    idle := if keepsIdle then List.replicate (max 1 (min s.minIdle s.maxOpen)) { cluster := c }
      else [] }

/-- The login of a pool's first connection.  There may be no time to wait for it, or nobody at the
    address; a socket of nobody is not there. -/
def firstLogin (server : Server) (c : Cluster) (s : Config.DatabaseSettings) (u : Url) :
    Except DbError Unit :=
  if s.acquireTimeout = .ofSecs 0 then .error .poolTimedOut
  else if s.url = server.address then server.login c
  else if Options.namesSocket u then .error (.io FileError.notFound.message)
  else .error .poolTimedOut

/-- Asks for a first sign of life.  A pool without one is closed before the connection comes
    back. -/
def firstProbe (p : Pools) (c : Cluster) : Except ConnectionError Unit × Pools :=
  match p.perform (.checkout c) with
  | (.error e, p) => (.error (.ping c e), p.close c)
  | (.ok id, p) =>
    match p.perform (.send id .probe) with
    | (.error e, p) => (.error (.ping c e), ((p.close c).perform (.giveBack id)).2)
    | (.ok _, p) => (.ok (), (p.perform (.giveBack id)).2)

/-- Opens the pool of a cluster. -/
def openPool (p : Pools) (c : Cluster) (s : Config.DatabaseSettings) :
    Except ConnectionError Unit × Pools :=
  match Options.ofAddress s.url with
  | .error e => (.error (.invalidUrl c (.configuration e.message)), p)
  | .ok u =>
    if s.maxOpen = 0 then (.error (.noRoom c), p)
    else
      match firstLogin p.server c s u with
      | .error e => (.error (.opening c e), p)
      | .ok () => (p.update c fun _ => opened c s).firstProbe c

/-- Opens both pools, the registry first; where the second fails, the first is closed. -/
def openBoth (p : Pools) (registry operations : Config.DatabaseSettings) :
    Except ConnectionError Unit × Pools :=
  match p.openPool .registry registry with
  | (.error e, p) => (.error e, p)
  | (.ok (), p) =>
    match p.openPool .operations operations with
    | (.error e, p) => (.error e, p.close .registry)
    | (.ok (), p) => (.ok (), p)

end Pools

end Tenancy.Postgres
