import Mathlib.Logic.Function.Basic
import Tenancy.Proofs.Lock
import Tenancy.Service
import Tenancy.Store.Memory

/-!
# Processes side by side

Service processes for one module share the registry and the operations database. Each has its own
table of tenant locks, and any number of tasks: attempts to provision tenants, and passes of
reconciliation. `State.step` lets one task take one step, and a list of moves is one interleaving,
call by call. A task may be dropped wherever it waits; the call that it is waiting for then takes
effect at that moment or never.

What a task does is the program of its job. The log keeps every store call that took effect, with
the stores it met, latest first, so that a statement about a whole run is one about its log.

## Key results

- `State.step_change`: what one move can do
- `State.run_append`: a run in two parts
-/

namespace Tenancy

namespace Lock.Table

/-! ## What the task of a caller does to its process's table -/

/-- A mutex that nobody has is given to a caller, if it waits for it. -/
def grantTo (T : Table) (id : CallerId) : Table :=
  match T.caller? id with
  | some c => if c.phase = .waiting ∧ T.isOwned c.mutex = false then T.setPhase id .granted else T
  | none => T

/-- A caller goes: it gives its mutex up if it holds it, and otherwise waits no longer. -/
def withdraw (T : Table) (id : CallerId) : Table :=
  match T.caller? id with
  | some c =>
    match c.phase with
    | .waiting | .granted => T.removeCaller id
    | .holding => T.setPhase id .leaving
    | .leaving => T
  | none => T

/-- A caller that gave its mutex up looks after the table's entry. -/
def tidy (T : Table) (id : CallerId) : Table :=
  match T.caller? id with
  | some c => if c.phase = .leaving then T.leave c else T
  | none => T

end Lock.Table

namespace Interleaving

/-- Names a process. -/
abbrev ProcessId := Nat

/-- Names a task, of whichever process. -/
abbrev TaskId := Lock.CallerId

/-- What a process is asked to do. -/
inductive Job where
  | provision (owner : String) (tenant : TenantId) (displayName : Option String) (actor : String)
  | reconcile (staleAfter : Duration)
  deriving DecidableEq

/-- What a job comes to. -/
inductive Outcome where
  | provisioned (result : Except ProvisioningError String)
  | reconciled (result : Except DbError Reconciliation.Report)

namespace Job

/-- The program of a job. -/
def program (m : ServiceModule) : Job → ServiceProgram Outcome
  | provision owner t displayName actor =>
    Outcome.provisioned <$> Service.provision m owner t displayName actor
  | reconcile staleAfter => Outcome.reconciled <$> Service.reconcile m staleAfter

/-- The tenant that a job provisions. -/
def tenant? : Job → Option TenantId
  | provision _ t _ _ => some t
  | reconcile _ => none

end Job

/-- A store call that took effect: whose it was, and the stores it met. -/
structure Event where
  task : TaskId
  call : StoreCall
  before : Store

/-- The stores after a call. -/
def Event.after (e : Event) : Store := (e.before.apply e.call).2

/-- A job under way. -/
structure Task where
  process : ProcessId
  job : Job
  /-- What is left of the job's program. -/
  rest : ServiceProgram Outcome
  /-- Whether it is between acquiring its tenant's lock and returning. -/
  inside : Bool := false
  dropped : Bool := false

/-- The stores, and the processes that share them. -/
structure State where
  store : Store
  /-- Each process has a table of tenant locks. -/
  locks : ProcessId → Lock.Table
  tasks : TaskId → Option Task
  /-- The store calls that took effect, latest first. -/
  log : List Event

/-- What happens next. -/
inductive Move where
  /-- A process is asked to do a job; the task's name must be new. -/
  | start (id : TaskId) (process : ProcessId) (job : Job)
  /-- A task makes its next call; a store call fails where a failure is given. -/
  | proceed (id : TaskId) (failure : Option DbError)
  /-- A tenant's lock that nobody has is given to a task that waits for it. -/
  | grant (id : TaskId)
  /-- A task whose lock was given up looks after the table's entry. -/
  | tidy (id : TaskId)
  /-- A task is dropped where it waits. A store call that it waits for takes effect at this moment or
      never; it is not left to take effect after a later move. -/
  | drop (id : TaskId) (applied : Bool)
  /-- The time that rows are stamped with changes. -/
  | tick (now : Timestamp)

/-- What a task sees of a state. -/
structure View where
  store : Store
  log : List Event
  inside : Bool

/-- What a task sees after a store call, of whichever task, took effect. -/
def View.perform (v : View) (id : TaskId) (c : StoreCall) : View :=
  { v with store := (v.store.apply c).2, log := ⟨id, c, v.store⟩ :: v.log }

/-- What a call of a task may be answered with, and what the task sees then. -/
inductive Answers (id : TaskId) : View → (c : ServiceCall) → c.Reply → View → Prop where
  | applied (v : View) (c : StoreCall) :
    Answers id v (.store c) (.ok (v.store.apply c).1) (v.perform id c)
  | failed (v : View) (c : StoreCall) (e : DbError) : Answers id v (.store c) (.error e) v
  | locked (v : View) (t : TenantId) : Answers id v (.lockTenant t) () { v with inside := true }
  | unlocked (v : View) (t : TenantId) :
    Answers id v (.unlockTenant t) () { v with inside := false }
  | now (v : View) : Answers id v .now v.store.clock v

namespace State

/-- No process is doing anything. -/
def idle (s : Store) : State where
  store := s
  locks _ := {}
  tasks _ := none
  log := []

/-- What a task sees. -/
def view (S : State) (task : Task) : View := ⟨S.store, S.log, task.inside⟩

/-- The state with a task changed or added. -/
def setTask (S : State) (id : TaskId) (task : Task) : State :=
  { S with tasks := Function.update S.tasks id (some task) }

/-- The state with a process's table changed. -/
def setLocks (S : State) (p : ProcessId) (T : Lock.Table) : State :=
  { S with locks := Function.update S.locks p T }

/-- The state after a store call took effect. -/
def perform (S : State) (id : TaskId) (c : StoreCall) : State :=
  { S with store := (S.store.apply c).2, log := ⟨id, c, S.store⟩ :: S.log }

/-- A task makes its next call. -/
def proceed (S : State) (id : TaskId) (task : Task) (failure : Option DbError) : State :=
  match task.rest with
  | .ask (.store c) k =>
    match failure with
    | some e => S.setTask id { task with rest := k (.error e) }
    | none => (S.perform id c).setTask id { task with rest := k (.ok (S.store.apply c).1) }
  | .ask (.lockTenant t) k =>
    let T := S.locks task.process
    if T.mayResume id then
      (S.setLocks task.process (T.resume id)).setTask id
        { task with rest := k (), inside := true }
    else if (T.caller? id).isNone then S.setLocks task.process (T.arrive id t)
    else S
  | .ask (.unlockTenant _) k =>
    (S.setLocks task.process ((S.locks task.process).withdraw id)).setTask id
      { task with rest := k (), inside := false }
  | .ask .now k => S.setTask id { task with rest := k S.store.clock }
  | _ => S

/-- The state after the store call that a task waits for took effect, if there is one. -/
def performNext (S : State) (id : TaskId) (task : Task) : State :=
  match task.rest with
  | .ask (.store c) _ => S.perform id c
  | _ => S

/-- A task is dropped, unless it has returned. -/
def drop (S : State) (id : TaskId) (task : Task) (applied : Bool) : State :=
  match task.rest with
  | .done _ => S
  | .ask _ _ =>
    let S := if applied then S.performNext id task else S
    (S.setLocks task.process ((S.locks task.process).withdraw id)).setTask id
      { task with dropped := true }

/-- One move. A move that cannot be made changes nothing. -/
def step (m : ServiceModule) (S : State) : Move → State
  | .start id p job =>
    if (S.tasks id).isNone then S.setTask id { process := p, job, rest := job.program m } else S
  | .proceed id failure =>
    match S.tasks id with
    | some task => if task.dropped then S else S.proceed id task failure
    | none => S
  | .grant id =>
    match S.tasks id with
    | some task => S.setLocks task.process ((S.locks task.process).grantTo id)
    | none => S
  | .tidy id =>
    match S.tasks id with
    | some task => S.setLocks task.process ((S.locks task.process).tidy id)
    | none => S
  | .drop id applied =>
    match S.tasks id with
    | some task => if task.dropped then S else S.drop id task applied
    | none => S
  | .tick now => { S with store := { S.store with clock := now } }

/-- One interleaving. -/
def run (m : ServiceModule) (S : State) (moves : List Move) : State := moves.foldl (step m) S

@[simp] theorem run_nil (m : ServiceModule) (S : State) : S.run m [] = S := rfl

@[simp] theorem run_cons (m : ServiceModule) (S : State) (move : Move) (moves : List Move) :
    S.run m (move :: moves) = (S.step m move).run m moves := rfl

theorem run_append (m : ServiceModule) (S : State) (before after : List Move) :
    S.run m (before ++ after) = (S.run m before).run m after := List.foldl_append

/-! ## What one move can do -/

/-- What a move changes of what tasks see and do. Tables of locks may change with it. -/
inductive Change (m : ServiceModule) (S : State) (move : Move) (S' : State) : Prop where
  /-- Nothing changes but tables of locks. -/
  | still (hstore : S'.store = S.store) (hlog : S'.log = S.log) (htasks : S'.tasks = S.tasks)
  | ticked (now : Timestamp) (hmove : move = .tick now)
      (hstore : S'.store = { S.store with clock := now }) (hlog : S'.log = S.log)
      (htasks : S'.tasks = S.tasks)
  | started (id : TaskId) (p : ProcessId) (job : Job) (hmove : move = .start id p job)
      (hnew : S.tasks id = none) (hstore : S'.store = S.store) (hlog : S'.log = S.log)
      (htasks : S'.tasks = Function.update S.tasks id
        (some { process := p, job, rest := job.program m }))
  /-- A call of a task was answered. -/
  | answered (id : TaskId) (task : Task) (c : ServiceCall) (k : c.Reply → ServiceProgram Outcome)
      (r : c.Reply) (v : View) (hid : S.tasks id = some task) (hlive : task.dropped = false)
      (hrest : task.rest = .ask c k) (hanswer : Answers id (S.view task) c r v)
      (hstore : S'.store = v.store) (hlog : S'.log = v.log)
      (htasks : S'.tasks = Function.update S.tasks id
        (some { task with rest := k r, inside := v.inside }))
  /-- A task was dropped. -/
  | dropped (id : TaskId) (task : Task) (hid : S.tasks id = some task)
      (hstore : S'.store = S.store) (hlog : S'.log = S.log)
      (htasks : S'.tasks = Function.update S.tasks id (some { task with dropped := true }))
  /-- A task was dropped and its store call took effect. -/
  | droppedApplied (id : TaskId) (task : Task) (c : StoreCall)
      (k : c.Reply → ServiceProgram Outcome) (hid : S.tasks id = some task)
      (hlive : task.dropped = false) (hrest : task.rest = .ask (.store c) k)
      (hstore : S'.store = (S.store.apply c).2) (hlog : S'.log = ⟨id, c, S.store⟩ :: S.log)
      (htasks : S'.tasks = Function.update S.tasks id (some { task with dropped := true }))

private theorem proceed_change (m : ServiceModule) (S : State) {id : TaskId} {task : Task}
    (hid : S.tasks id = some task) (hlive : task.dropped = false) (failure : Option DbError) :
    Change m S (.proceed id failure) (S.proceed id task failure) := by
  unfold proceed
  split
  · next c k hrest =>
    split
    · next e =>
      exact .answered id task _ k _ _ hid hlive hrest (.failed _ c e) rfl rfl rfl
    · exact .answered id task _ k _ _ hid hlive hrest (.applied _ c) rfl rfl rfl
  · next t k hrest =>
    dsimp only
    split
    · exact .answered id task _ k _ _ hid hlive hrest (.locked _ t) rfl rfl rfl
    · split <;> exact .still rfl rfl rfl
  · next t k hrest =>
    exact .answered id task _ k _ _ hid hlive hrest (.unlocked _ t) rfl rfl rfl
  · next k hrest => exact .answered id task _ k _ _ hid hlive hrest (.now _) rfl rfl rfl
  · exact .still rfl rfl rfl

private theorem drop_change (m : ServiceModule) (S : State) {id : TaskId} {task : Task}
    (hid : S.tasks id = some task) (hlive : task.dropped = false) (applied : Bool) :
    Change m S (.drop id applied) (S.drop id task applied) := by
  obtain ⟨process, job, rest, inside, dropped⟩ := task
  cases rest with
  | done a => exact .still rfl rfl rfl
  | ask c k =>
    cases applied with
    | false => exact .dropped id _ hid rfl rfl rfl
    | true =>
      -- only a store call can take effect after its task is gone
      cases c with
      | store c => exact .droppedApplied id _ c k hid hlive rfl rfl rfl rfl
      | _ => exact .dropped id _ hid rfl rfl rfl

/-- What one move can do. -/
theorem step_change (m : ServiceModule) (S : State) (move : Move) :
    Change m S move (S.step m move) := by
  cases move with
  | start id p job =>
    simp only [step]
    split
    · next hnew => exact .started id p job rfl (Option.isNone_iff_eq_none.mp hnew) rfl rfl rfl
    · exact .still rfl rfl rfl
  | proceed id failure =>
    simp only [step]
    split
    · next task hid =>
      split
      · exact .still rfl rfl rfl
      · next hlive => exact proceed_change m S hid (by simpa using hlive) failure
    · exact .still rfl rfl rfl
  | grant id =>
    simp only [step]
    split <;> exact .still rfl rfl rfl
  | tidy id =>
    simp only [step]
    split <;> exact .still rfl rfl rfl
  | drop id applied =>
    simp only [step]
    split
    · next task hid =>
      split
      · exact .still rfl rfl rfl
      · next hlive => exact drop_change m S hid (by simpa using hlive) applied
    · exact .still rfl rfl rfl
  | tick now => exact .ticked now rfl rfl rfl rfl

end State

end Interleaving

end Tenancy
