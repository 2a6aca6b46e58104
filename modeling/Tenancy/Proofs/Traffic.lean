import Mathlib.Logic.Function.Basic
import Tenancy.Proofs.PoolEffect
import Tenancy.Session

/-!
# Users of the pools, side by side

Any number of users call the pools, one call at a time: some acquire sessions and keep them, some run
programs over the stores, install a script or ask for a sign of life. `State.step` lets one of them
make its next call, use or release its session, or drops it where it waits. It also lets the server
change how it answers, and connections at rest come and go.

The calls are those of the programs in `Tenancy.Postgres.Client`, and the pools answer them as
`Pools.perform` says. `State.log` has every statement that reached the server, with the places where
names were looked up when it ran and with the one that it ran for.
-/

namespace Tenancy.Postgres.Traffic

/-- Names a user of the pools. -/
abbrev UserId := Nat

/-- What a user of the pools does. -/
inductive Job where
  /-- Acquires a session for a tenant. -/
  | session (tenant : TenantId) (module : ServiceModule)
  /-- Runs a program over the stores, such as an attempt to provision a tenant. -/
  | stores (p : StoreProgram Unit)
  /-- Runs a script. -/
  | install (script : String)
  /-- Asks both clusters for a sign of life. -/
  | probe

/-- The program of a job; a session is all that it may leave behind. -/
def Job.program (client : Client) : Job → PoolProgram (Option Session)
  | .session t m => Except.toOption <$> client.service (Session.acquire t m)
  | .stores p => (fun _ => none) <$> client.service (Service.onStores p)
  | .install script => (fun _ => none) <$> Client.runScript script
  | .probe => (fun _ => none) <$> Client.probe

/-- For whom a statement runs. -/
inductive Issuer where
  /-- The user of a session. -/
  | session (s : Session)
  /-- A user outside a session; one that acquires a session does not have it yet. -/
  | other
  /-- The pool, which restores the search path of a connection that comes back. -/
  | pool
  deriving DecidableEq

/-- A statement that reached the server. -/
structure Event where
  issuer : Issuer
  sent : Sent
  deriving DecidableEq

/-- A connection in the hands of a user. -/
structure Grip where
  connection : ConnectionId
  /-- A transaction was begun on it. -/
  begun : Bool := false
  deriving DecidableEq

/-- A user, and what is left of its program. -/
structure User where
  rest : PoolProgram (Option Session)
  held : List Grip := []

namespace User

/-- The session of a user that has one. -/
def session? (u : User) : Option Session :=
  match u.rest with
  | .done session => session
  | .ask _ _ => none

/-- For whom the statements of a user run. -/
def issuer (u : User) : Issuer :=
  match u.session? with
  | some session => .session session
  | none => .other

/-- A statement that a user's call brought to the server. -/
def event (u : User) (c : PoolCall) (sent : Sent) : Event :=
  match c with
  | .giveBack _ =>
    ⟨if sent.statement = OperationsStatement.resetSearchPath then .pool else u.issuer, sent⟩
  | _ => ⟨u.issuer, sent⟩

/-- The user after a call. -/
def took (u : User) : (c : PoolCall) → c.Answer → User
  | .checkout _, .ok id => { u with held := ⟨id, false⟩ :: u.held }
  | .begin id, _ =>
    { u with held := u.held.map fun g => if g.connection = id then { g with begun := true } else g }
  | .giveBack id, _ => { u with held := u.held.filter (·.connection ≠ id) }
  | _, _ => u

end User

/-- The pools and one user, whose turn it is. -/
structure Turn where
  pools : Pools
  user : User
  /-- The statements that reached the server, the last one first. -/
  log : List Event

namespace Turn

/-- After a call of the user: its answer, and the pools that it led to. -/
def after (T : Turn) (c : PoolCall) (answer : c.Answer) (pools : Pools) : Turn where
  pools
  user := T.user.took c answer
  log := (pools.sentSince T.pools).map (T.user.event c) ++ T.log

/-- The user makes a call. -/
def call (T : Turn) (c : PoolCall) : c.Answer × Turn :=
  let (answer, pools) := T.pools.perform c
  (answer, T.after c answer pools)

/-- The user goes on with a program. -/
def resume (T : Turn) (rest : PoolProgram (Option Session)) : Turn :=
  { T with user := { T.user with rest } }

/-- Makes the next call of the user's program. -/
def proceed (T : Turn) : Turn :=
  match T.user.rest with
  | .ask c k =>
    let (answer, T) := T.call c
    T.resume (k answer)
  | .done _ => T

/-- Makes a call with the user's session. -/
def use (c : Session → PoolCall) (T : Turn) : Turn :=
  match T.user.session? with
  | some session => (T.call (c session)).2
  | none => T

/-- Makes the calls of a program. -/
def follow : PoolProgram Unit → Turn → Turn
  | .done (), T => T
  | .ask c k, T =>
    let (answer, T) := T.call c
    follow (k answer) T

/-- Releases the user's session. -/
def release (client : Client) (T : Turn) : Turn :=
  match T.user.session? with
  | some session => (follow (client.service session.release) T).resume (.done none)
  | none => T

/-- The call that the user waits for happens, and nobody hears of the answer. -/
def reach (T : Turn) : Turn :=
  match T.user.rest with
  | .ask c _ => (T.call c).2
  | .done _ => T

/-- Has what was begun rolled back. -/
def oweRollbacks (T : Turn) : Turn :=
  (T.user.held.filter (·.begun)).foldl (fun T g => (T.call (.oweRollback g.connection)).2) T

/-- Gives back all that the user has. -/
def giveAllBack (T : Turn) : Turn :=
  T.user.held.foldl (fun T g => (T.call (.giveBack g.connection)).2) T

/-- The user is dropped where it waits, or with its session. The call that it waits for may have
    reached the server, and a transaction that it began may have to be rolled back. -/
def drop (reached rollback : Bool) (T : Turn) : Turn :=
  let T := if reached then T.reach else T
  let T := if rollback then T.oweRollbacks else T
  T.giveAllBack.resume (.done none)

end Turn

/-- The pools, their users, and the statements that reached the server, the last one first. -/
structure State where
  pools : Pools
  users : UserId → Option User := fun _ => none
  log : List Event := []

/-- One move. -/
inductive Move where
  /-- A user appears. -/
  | start (user : UserId) (job : Job)
  | proceed (user : UserId)
  /-- The user of a session sends a statement. -/
  | send (user : UserId) (s : Statement)
  /-- The user of a session begins a transaction. -/
  | begin (user : UserId)
  /-- The user of a session drops its transaction. -/
  | abandon (user : UserId)
  | release (user : UserId)
  | drop (user : UserId) (reached rollback : Bool)
  /-- The server answers by other rules from now on. -/
  | script (rules : List Rule) (refusals : List (Cluster × ServerError))
  /-- A connection at rest is closed. -/
  | retire (cluster : Cluster) (place : Nat)
  /-- A connection is opened before anyone asks for it. -/
  | replenish (cluster : Cluster)
  | close (cluster : Cluster)

/-- The statements that users of sessions send do not change the search path. -/
def Move.KeepsPath : Move → Prop
  | .send _ s => s.KeepsPath
  | _ => True

namespace State

/-- Both pools are opened as settings say, by a server that nothing was sent to. -/
def opened (server : Server) (registry operations : Config.DatabaseSettings) : State :=
  let pools := (Pools.openBoth { server := server.forget } registry operations).2
  { pools, log := pools.server.record.map (⟨.other, ·⟩) }

/-- Gives a user its turn. -/
def turn (S : State) (id : UserId) (f : Turn → Turn) : State :=
  match S.users id with
  | none => S
  | some user =>
    let T := f ⟨S.pools, user, S.log⟩
    ⟨T.pools, Function.update S.users id (some T.user), T.log⟩

/-- Makes one move; one that cannot be made changes nothing. -/
def step (client : Client) (S : State) : Move → State
  | .start id job =>
    if (S.users id).isNone then
      { S with users := Function.update S.users id (some { rest := job.program client }) }
    else S
  | .proceed id => S.turn id Turn.proceed
  | .send id s => S.turn id (Turn.use fun session => .send session.connection s)
  | .begin id => S.turn id (Turn.use fun session => .begin session.connection)
  | .abandon id => S.turn id (Turn.use fun session => .oweRollback session.connection)
  | .release id => S.turn id (Turn.release client)
  | .drop id reached rollback => S.turn id (Turn.drop reached rollback)
  | .script rules refusals =>
    { S with pools := { S.pools with server := { S.pools.server with rules, refusals } } }
  | .retire c place =>
    { S with pools := S.pools.update c fun pool => { pool with idle := pool.idle.eraseIdx place } }
  | .replenish c =>
    if (S.pools.pool c).closed = false ∧ S.pools.size c < (S.pools.pool c).limit then
      { S with pools := S.pools.rest { cluster := c } }
    else S
  | .close c => { S with pools := S.pools.close c }

/-- Makes moves in order. -/
def run (client : Client) (S : State) (moves : List Move) : State :=
  moves.foldl (step client) S

end State

end Tenancy.Postgres.Traffic
