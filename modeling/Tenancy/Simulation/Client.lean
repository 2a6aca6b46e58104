import Tenancy.Http.Site
import Tenancy.Installer
import Tenancy.Postgres.Pools

/-! # Clients of a server that follows a script

A deployment on two pools, taken through steps one after the other: calls to its stores, sessions
kept under names, requests, and a new script for the server.  Each step comes with the statements
that reached the server meanwhile. -/

namespace Tenancy.Simulation

open Postgres (Client Pools PoolCall PoolProgram Rule Sent)

/-- A step of a client. -/
inductive ClientStep where
  /-- Gives the server other rules. -/
  | script (rules : List Rule)
  | store (c : StoreCall)
  | provision (tenant : TenantId) (displayName : Option String) (actor : String)
  /-- Acquires a session and keeps it under a name. -/
  | acquire (tenant : TenantId) (name : String)
  | execute (session sql : String)
  | searchPath (session : String)
  /-- Runs a statement in a transaction that is committed or rolled back. -/
  | transaction (session sql : String) (commit : Bool)
  | release (session : String)
  | ping
  | install (script : Bytes)
  | close
  | request (r : Http.Request)

/-- What a step of a client comes to. -/
inductive ClientResult where
  | nothing
  | stored (c : StoreCall) (r : c.Reply)
  | provisioned (r : Except ProvisioningError String)
  | session (r : Except SessionError Session)
  | executed (r : Except DbError Unit)
  | searchPath (r : Except DbError String)
  | pinged (r : Except (Cluster × DbError) Unit)
  | installed (r : Except InstallError Unit)
  | closed
  | response (r : Http.Response) (id : Http.Site.RequestId)
  /-- There is no session of this name. -/
  | noSession (name : String)

/-- The pools of a client and the sessions that it keeps. -/
structure ClientWorld where
  pools : Pools
  sessions : List (String × Session) := []

/-- A deployment and the client that it runs on. -/
structure ClientSetup where
  client : Client
  site : Http.Site

namespace ClientWorld

/-- Runs a program on the pools. -/
def run {α : Type} (w : ClientWorld) (p : PoolProgram α) : α × ClientWorld :=
  let (a, pools) := w.pools.run p
  (a, { w with pools })

/-- Gives the session of a name back, if there is one. -/
def drop (w : ClientWorld) (name : String) : ClientWorld :=
  match w.sessions.lookup name with
  | none => w
  | some s =>
    let ((), w) := w.run (PoolProgram.call (.giveBack s.connection))
    { w with sessions := w.sessions.filter (·.1 != name) }

/-- Keeps a session under a name; the one kept there before is given back. -/
def keep (w : ClientWorld) (name : String) (s : Session) : ClientWorld :=
  let w := w.drop name
  { w with sessions := (name, s) :: w.sessions }

/-- Runs on the session of a name. -/
def onSession {α : Type} (w : ClientWorld) (name : String) (result : α → ClientResult)
    (p : Session → PoolProgram α) : ClientResult × ClientWorld :=
  match w.sessions.lookup name with
  | none => (.noSession name, w)
  | some s =>
    let (a, w) := w.run (p s)
    (result a, w)

end ClientWorld

/-- An installation of a script that stands in a single file. -/
def installing {α : Type} (script : Bytes) (p : InstallProgram α) : PoolProgram α :=
  p.run fun
    | .readFile _ => return .ok script
    | .runScript text => Client.runScript text

namespace ClientSetup

/-- Takes one step. -/
def step (d : ClientSetup) (w : ClientWorld) : ClientStep → ClientResult × ClientWorld
  | .script rules =>
    (.nothing, { w with pools := { w.pools with server := { w.pools.server with rules } } })
  | .store c =>
    let (r, w) := w.run (d.client.onStores c)
    (.stored c r, w)
  | .provision t name actor =>
    let (r, w) := w.run (d.client.service
      (Service.provision d.site.module d.site.ownerRole t name actor))
    (.provisioned r, w)
  | .acquire t name =>
    let (r, w) := w.run (d.client.service (Session.acquire t d.site.module))
    match r with
    | .ok s => (.session r, w.keep name s)
    | .error _ => (.session r, w)
  | .execute name sql =>
    w.onSession name .executed fun s => PoolProgram.execute s.connection (.plain sql)
  | .searchPath name =>
    w.onSession name .searchPath fun s => d.client.onPools (.showSearchPath s.connection)
  | .transaction name sql commit =>
    w.onSession name .executed fun s =>
      PoolProgram.transaction s.connection (PoolProgram.execute s.connection (.plain sql))
        (if commit then .commit else .rollback)
  | .release name =>
    if (w.sessions.lookup name).isSome then (.nothing, w.drop name) else (.noSession name, w)
  | .ping =>
    let (r, w) := w.run Client.probe
    (.pinged r, w)
  | .install script =>
    let ((r, _), w) := w.run (installing script (Installer.ensure [""] false))
    (.installed r, w)
  | .close => (.closed, { w with pools := w.pools.closeAll })
  | .request r =>
    let (response, w) := w.run (d.client.service (d.site.respond r))
    (.response response (Http.Site.requestId r), w)

/-- The statements on record, in order. -/
def recordOf (p : Pools) : List Sent := p.server.record.reverse

/-- Takes steps in order; the results come with the statements that reached the server. -/
def steps (d : ClientSetup) : ClientWorld → List ClientStep → List (ClientResult × List Sent)
  | _, [] => []
  | w, s :: rest =>
    let w := { w with pools := { w.pools with server := w.pools.server.forget } }
    let (result, w) := d.step w s
    (result, recordOf w.pools) :: d.steps w rest

end ClientSetup

end Tenancy.Simulation
