import Tenancy.Http.Site
import Tenancy.Simulation.Activity

/-! # Scenarios

A scenario puts a deployment into a world and takes it through steps: calls to its parts, requests,
changes behind its back, and several of these side by side. -/

namespace Tenancy.Simulation

open Http (Site Request Response)

/-- A deployment: what its endpoints know, and how long a request may take. -/
structure Deployment where
  site : Site
  requestTimeout : Duration

/-- A step of a scenario. -/
inductive Step where
  | resolve (tenant : TenantId) (service : String)
  | verifyAccess (tenant : TenantId) (service : String)
  | tenantInfo (tenant : TenantId)
  | sessionVerify (tenant : TenantId)
  | sessionResolve (tenant : TenantId)
  | provision (tenant : TenantId) (displayName : Option String) (actor : String)
  | getSchema (tenant : TenantId)
  | lastAttempt (tenant : TenantId)
  | reconcile (staleAfter : Duration)
  /-- Reconciles periodically until the given time has passed. -/
  | reconcileLoop (staleAfter interval : Duration) (run : Nat)
  | acquire (tenant : TenantId) (name : String)
  | execute (session sql : String)
  | release (session : String)
  | request (r : Request)
  | fault (call : String) (f : Fault)
  | putTenant (r : TenantRecord)
  | removeTenant (tenant : TenantId)
  | addAudit (make : Timestamp → Int → Audit.Entry)
  | addSchema (schema : String)
  | dropSchema (schema : String)
  | advance (d : Duration)
  | dump

/-- What a scenario does next. -/
inductive Plan where
  | step (s : Step)
  /-- Drops a plan after a number of milliseconds, unless it has ended before. -/
  | within (millis : Nat) (p : Plan)
  /-- Follows plans side by side. -/
  | together (ps : List Plan)

/-- What a scenario shows of a world. -/
structure Dump where
  tenants : List TenantRecord
  audits : List Audit.Entry
  schemas : List String
  outstanding : Nat

/-- What a step comes to. -/
inductive Result where
  | nothing
  | resolved (r : Except TenantError String)
  | access (r : Except TenantError Bool)
  | tenantInfo (r : Except TenantError TenantRecord)
  | verified (r : Except TenantError Unit)
  | provisioned (m : ServiceModule) (r : Except ProvisioningError String)
  | schema (r : Except ProvisioningError String)
  | attempt (r : Except ProvisioningError (Option Audit.Entry))
  | reconciled (r : Except DbError Reconciliation.Report)
  /-- The background work is over; without an interval it did not begin. -/
  | watched (begun : Bool)
  | session (r : Except SessionError Session)
  | executed (r : Except DbError Unit)
  /-- There is no session of this name. -/
  | noSession (name : String)
  | response (r : Response) (id : Site.RequestId)
  | auditId (id : Int)
  | dumped (d : Dump)
  | finished (r : Result)
  | cancelled
  | all (rs : List Result)
  /-- The step waits for something that will not come. -/
  | stuck

/-- What is shown of a world: rows in the order of their tenants, and schemas in the order of their
    names. -/
def World.dump (w : World) : Dump where
  tenants := w.store.tenants.mergeSort fun a b => a.tenant.toNat ≤ b.tenant.toNat
  audits := w.store.audits
  schemas := w.store.schemas.mergeSort fun a b => decide (a ≤ b)
  outstanding := w.connections.length

namespace Deployment

/-- Keeps a session under a name; the one kept there before is given back. -/
def keep (name : String) (session : Session) : Script Unit := do
  let before ← Script.look
  Script.edit fun w => w.keepSession name session
  match before.sessions.lookup name with
  | none => return
  | some old => Script.ofService old.release

/-- Takes a session and keeps it under a name. -/
def acquire (d : Deployment) (t : TenantId) (name : String) : Script Result := do
  match ← Script.ofService (Session.acquire t d.site.module) with
  | .error e => return .session (.error e)
  | .ok session =>
    keep name session
    return .session (.ok session)

/-- Runs a statement on a kept session, which is not kept meanwhile. -/
def execute (name sql : String) : Script Result := do
  match (← Script.look).sessions.lookup name with
  | none => return .noSession name
  | some session =>
    Script.editAs fun id w => w.takeSession id name
    let result ← Script.ofService (Service.call (.execute session.connection sql))
    keep name session
    return .executed result

/-- Gives a kept session back. -/
def release (name : String) : Script Result := do
  match (← Script.look).sessions.lookup name with
  | none => return .noSession name
  | some s =>
    Script.editAs fun id w => w.takeSession id name
    Script.ofService s.release
    return .nothing

/-- Reconciles in the background at every interval until a number of milliseconds has passed, and
    waits for the last pass to be finished. -/
def reconcileLoop (d : Deployment) (staleAfter interval : Duration) (run : Nat) :
    Script Result := do
  let work := (fun _ => ()) <$> Service.reconcile d.site.module staleAfter
  Script.editAs fun id w => w.watch id interval work
  Script.sleep run
  Script.editAs fun id w => w.tellWatchers id
  Script.join
  return .watched (decide (interval ≠ .ofSecs 0))

/-- Changes the stores behind the service's back. -/
def editStore (change : Store → Store) : Script Result := do
  Script.edit fun w => { w with store := change w.store }
  return .nothing

/-- What the work on a request comes to. -/
def answered (r : Request) (response : Response) : Result := .response response (Site.requestId r)

/-- The script of a step. -/
def script (d : Deployment) : Step → Script Result
  | .resolve t service => .resolved <$> stores (Resolver.resolveNamed t service)
  | .verifyAccess t service => .access <$> stores (Resolver.verifyAccess t service)
  | .tenantInfo t => .tenantInfo <$> stores (Resolver.tenantInfo t)
  | .sessionVerify t => .verified <$> stores (Resolver.requireAccess t d.site.module)
  | .sessionResolve t => .resolved <$> stores (Resolver.resolve t d.site.module)
  | .provision t name actor =>
    .provisioned d.site.module <$>
      service (Service.provision d.site.module d.site.ownerRole t name actor)
  | .getSchema t => .schema <$> stores (Provisioning.registeredSchema d.site.module t)
  | .lastAttempt t => .attempt <$> stores (Provisioning.lastAttempt d.site.module t)
  | .reconcile staleAfter => .reconciled <$> service (Service.reconcile d.site.module staleAfter)
  | .reconcileLoop staleAfter interval run => d.reconcileLoop staleAfter interval run
  | .acquire t name => d.acquire t name
  | .execute name sql => execute name sql
  | .release name => release name
  | .request r => answered r <$> service (d.site.respond r)
  | .fault call f => do
    Script.edit fun w => w.setFault call f
    return .nothing
  | .putTenant r => editStore fun s => s.putTenant r
  | .removeTenant t => editStore fun s => s.removeTenant t
  | .addAudit make => do
    let w ← Script.look
    Script.edit fun w => { w with store := w.store.appendAudit (make w.store.clock) }
    return .auditId (w.store.lastAudit + 1)
  | .addSchema schema => editStore fun s => s.addSchema schema
  | .dropSchema schema => editStore fun s => s.dropSchema schema
  | .advance duration => do
    Script.edit fun w => w.advanceClock duration
    return .nothing
  | .dump => do return .dumped (← Script.look).dump
where
  service {α : Type} (p : ServiceProgram α) : Script α := Script.ofService p
  stores {α : Type} (p : StoreProgram α) : Script α := Script.ofService (Service.onStores p)

/-- A step that begins at a time.  A request is limited in time, unless it only asks what is
    allowed. -/
def begin (d : Deployment) (time : Nat) (task : TaskId) (s : Step) : Activity Result :=
  let work := Activity.task task (.ready (d.script s))
  match s with
  | .request r =>
    if Site.isPreflight r then work
    else
      .limited (time + d.requestTimeout.millis) true (answered r (d.site.outer r .timedOut)) id work
  | _ => work

mutual

/-- A plan that begins at a time, and the next free name of a task. -/
def start (d : Deployment) (time : Nat) : Plan → TaskId → Activity Result × TaskId
  | .step s, id => (d.begin time id s, id + 1)
  | .within millis p, id =>
    let (inner, next) := d.start time p id
    (.limited (time + millis) false .cancelled .finished inner, next)
  | .together ps, id =>
    let (members, next) := d.startAll time ps id
    (.group .all members, next)

/-- Plans that begin at a time, and the next free name of a task. -/
def startAll (d : Deployment) (time : Nat) :
    List Plan → TaskId → List (Activity Result) × TaskId
  | [], id => ([], id)
  | p :: rest, id =>
    let (first, id) := d.start time p id
    let (rest, id) := d.startAll time rest id
    (first :: rest, id)

end

/-- Follows a plan to its end; the calls made come grouped by step. -/
def follow (d : Deployment) (w : World) (p : Plan) : Result × List Logged × World :=
  let (result, calls, w) := (d.start w.time p 0).1.run w
  (result.getD .stuck, calls, w)

/-- Follows plans one after the other; the results come with the calls made. -/
def followAll (d : Deployment) : List Plan → World → List (Result × List Logged) × World
  | [], w => ([], w)
  | p :: rest, w =>
    let (result, calls, w) := d.follow w p
    let (results, w) := d.followAll rest w
    ((result, calls) :: results, w)

/-- Gives all kept sessions back. -/
def releaseAll (w : World) : World :=
  { w with
    sessions := []
    connections := w.connections.filter fun c => match c.2 with
      | .task _ => true
      | .session _ => false }

end Deployment

end Tenancy.Simulation
