import Tenancy.Lock
import Tenancy.Session
import Tenancy.Store.Memory
import Tenancy.Ticker

/-! # A world in memory

The surroundings of a service process as one value: the two stores, the verifier's tokens, the
connections that are out, the tenant locks, what runs in the background, and time.  Calls can be
told to take time and to fail.
Time only passes when everything waits; the clock that stamps rows stands still until it is moved. -/

namespace Tenancy.Simulation

/-- What is told about the coming calls of one name. -/
structure Fault where
  /-- One entry for each coming call: how it fails, or that it does not. -/
  queue : List (Option DbError) := []
  /-- How the calls after those fail. -/
  always : Option DbError := none
  /-- How long a call takes, in milliseconds. -/
  delay : Nat := 0
  /-- How many coming calls take that long; all of them where nothing is said. -/
  delayTimes : Option Nat := none

/-- Names a task of the simulation. -/
abbrev TaskId := Lock.CallerId

/-- Who has a connection. -/
inductive Holder where
  | task (id : TaskId)
  /-- It is kept under a name. -/
  | session (name : String)
  deriving DecidableEq

/-- A call as it was made: by whom, and what the rows' clock showed. -/
structure Logged where
  task : TaskId
  clock : Timestamp
  call : ServiceCall

/-- A program that waits for the reply to a call, which comes at `due`. -/
structure Pending where
  call : ServiceCall
  due : Nat
  next : call.Reply → ServiceProgram Unit

/-- Work that is done in the background again and again, until somebody tells it to stop; what is
    under way then is finished. -/
structure Watcher where
  /-- The task that began it, as long as it is around. -/
  owner : Option TaskId
  work : ServiceProgram Unit
  ticker : Ticker
  isTold : Bool := false
  /-- What is under way. -/
  pending : Option Pending := none

/-- The surroundings of a service process. -/
structure World where
  store : Store := {}
  faults : List (String × Fault) := []
  tokens : List (String × Except AuthError Principal) := []
  locks : Lock.Table := {}
  /-- The connections that are out, and who has them. -/
  connections : List (ConnectionId × Holder) := []
  lastConnection : ConnectionId := 0
  /-- Sessions kept under names. -/
  sessions : List (String × Session) := []
  watchers : List Watcher := []
  /-- Milliseconds since the start. -/
  time : Nat := 0
  /-- The calls made, last first. -/
  log : List Logged := []

/-- The name under which calls of a kind are told to fail or take time; nothing for those that
    cannot be told. -/
def faultName? : ServiceCall → Option String
  | .store (.findTenant _) => some "find_tenant"
  | .store (.isActive _) => some "is_active"
  | .store (.hasModule _ _) => some "has_module"
  | .store (.setModuleSchema _ _ _) => some "set_module_schema"
  | .store (.insertAudit _) => some "insert_audit"
  | .store (.updateAudit _ _ _) => some "update_audit"
  | .store (.latestAudit _ _) => some "latest_audit"
  | .store (.stalledAudits _ _) => some "stalled_audits"
  | .store (.ensureSchema _ _ _) => some "ensure_tenant_schema"
  | .store (.schemaExists _) => some "schema_exists"
  | .acquireConnection => some "acquire_connection"
  | .execute _ _ => some "execute_statement"
  | .authenticate _ => some "authenticate"
  | _ => none

/-- Whether a call is put on record. -/
def isLogged (c : ServiceCall) : Bool :=
  (faultName? c).isSome || match c with
    | .returnConnection _ => true
    | _ => false

/-- The rows of a log for a module that were added last, one for each tenant. -/
def lastAdded (s : Store) (m : ServiceModule) : List Audit.Entry :=
  (s.auditsOf m).filter fun e =>
    (s.auditsOf m).all fun other => other.tenant != e.tenant || decide (other.id ≤ e.id)

/-- What a call that does not fail answers, and the stores after it.  Rows of the log can be given
    any time of creation here; the newest of them is the one that was added last. -/
def answer (s : Store) : (c : StoreCall) → c.Value × Store
  | .latestAudit t m => ((lastAdded s m).find? (·.tenant == t), s)
  | .stalledAudits m cutoff =>
    ((lastAdded s m).filter fun e => e.status == .schemaCreated && decide (e.createdAt < cutoff), s)
  | c => s.apply c

namespace World

/-- What is told about the calls of a name. -/
def fault (w : World) (name : String) : Fault := (w.faults.lookup name).getD {}

/-- The world with something told about the calls of a name, in the place of what was told
    before. -/
def setFault (w : World) (name : String) (f : Fault) : World :=
  { w with faults := (name, f) :: w.faults.filter (·.1 != name) }

/-- Puts a call on record. -/
def record (w : World) (id : TaskId) (c : ServiceCall) : World :=
  if isLogged c then { w with log := ⟨id, w.store.clock, c⟩ :: w.log } else w

/-- How long a call takes, and the world in which it has begun. -/
def beginDelay (w : World) (c : ServiceCall) : Nat × World :=
  match faultName? c with
  | none => (0, w)
  | some name =>
    let f := w.fault name
    match f.delayTimes with
    | none => (f.delay, w)
    | some 0 => (0, w)
    | some (n + 1) => (f.delay, w.setFault name { f with delayTimes := some n })

/-- How a call fails, if it does, and the world after that was looked up. -/
def nextFault (w : World) (c : ServiceCall) : Option DbError × World :=
  match faultName? c with
  | none => (none, w)
  | some name =>
    let f := w.fault name
    match f.queue with
    | [] => (f.always, w)
    | e :: rest => (e, w.setFault name { f with queue := rest })

/-- Hands out a connection. -/
def openConnection (w : World) (id : TaskId) : ConnectionId × World :=
  let n := w.lastConnection + 1
  (n, { w with lastConnection := n, connections := w.connections ++ [(n, .task id)] })

/-- Takes a connection back. -/
def closeConnection (w : World) (n : ConnectionId) : World :=
  { w with connections := w.connections.filter (·.1 != n) }

/-- What the verifier says about a token. -/
def verify (w : World) (token : String) : Except AuthError Principal :=
  (w.tokens.lookup token).getD (.error (.invalid "unknown token"))

/-- The reply to a call whose time has come, and the world after it.  Calls that cannot fail, and
    locks, which are not replied to here, leave the world alone. -/
def perform (w : World) (id : TaskId) (c : ServiceCall) : c.Reply × World :=
  match c with
  | .store c =>
    match w.nextFault (.store c) with
    | (some e, w) => (.error e, w)
    | (none, w) =>
      let (value, store) := answer w.store c
      (.ok value, { w with store })
  | .acquireConnection =>
    match w.nextFault .acquireConnection with
    | (some e, w) => (.error e, w)
    | (none, w) =>
      let (n, w) := w.openConnection id
      (.ok n, w)
  | .execute n sql =>
    match w.nextFault (.execute n sql) with
    | (some e, w) => (.error e, w)
    | (none, w) => (.ok (), w)
  | .returnConnection n => ((), w.closeConnection n)
  | .authenticate token =>
    match w.nextFault (.authenticate token) with
    | (some e, w) => (.error (.invalid e.message), w)
    | (none, w) => (w.verify token, w)
  | .showSearchPath _ => (.ok "", w)
  | .probe => (.ok (), w)
  | .now => (w.store.clock, w)
  | .lockTenant _ => ((), w)
  | .unlockTenant _ => ((), { w with locks := w.locks.drop id })

/-- Tells the watchers of a task to stop. -/
def tellWatchers (w : World) (id : TaskId) : World :=
  { w with watchers := w.watchers.map fun x =>
      if x.owner == some id then { x with isTold := true } else x }

/-- Takes back everything that a task holds, and tells its watchers to stop. -/
def dropTask (w : World) (id : TaskId) : World :=
  let held := (w.connections.filter (·.2 == .task id)).map (·.1)
  let w := held.foldl (fun w n =>
    (w.record id (.returnConnection n)).closeConnection n) w
  { w with locks := w.locks.drop id }.tellWatchers id

/-- Keeps a session under a name; the session kept there before is no longer kept. -/
def keepSession (w : World) (name : String) (s : Session) : World :=
  { w with
    sessions := (name, s) :: w.sessions.filter (·.1 != name)
    connections := w.connections.map fun c =>
      if c.1 == s.connection then (c.1, .session name) else c }

/-- No longer keeps a session under a name; a task has it instead. -/
def takeSession (w : World) (id : TaskId) (name : String) : World :=
  { w with
    sessions := w.sessions.filter (·.1 != name)
    connections := w.connections.map fun c =>
      if c.2 == .session name then (c.1, .task id) else c }

/-- Moves the clock that stamps rows. -/
def advanceClock (w : World) (d : Duration) : World :=
  { w with store := { w.store with clock := w.store.clock.add d } }

/-- Begins work in the background that is due at once and then at every interval; without an
    interval nothing begins. -/
def watch (w : World) (id : TaskId) (interval : Duration) (work : ServiceProgram Unit) : World :=
  match Ticker.start? interval w.time with
  | some ticker => { w with watchers := w.watchers ++ [{ owner := some id, work, ticker }] }
  | none => w

end World

end Tenancy.Simulation
