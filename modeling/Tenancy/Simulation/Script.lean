import Tenancy.Simulation.World

/-! # Scripts

A script is what a task of the simulation does: a program of the service, together with looks at the
world and changes behind the service's back.  `advance` runs a script until it ends or has to
wait. -/

namespace Tenancy.Simulation

/-- A call of a script: to the surroundings of the service, or to the simulation itself. -/
inductive Action where
  | service (c : ServiceCall)
  /-- Changes the world at once, as the task that it is. -/
  | edit (change : TaskId → World → World)
  /-- Looks at the world. -/
  | look
  /-- Waits for a number of milliseconds. -/
  | sleep (millis : Nat)
  /-- Waits until no watcher of the task is left. -/
  | join

/-- What an action answers with. -/
abbrev Action.Reply : Action → Type
  | service c => c.Reply
  | edit _ => Unit
  | look => World
  | sleep _ => Unit
  | join => Unit

/-- A program of the simulation. -/
abbrev Script (α : Type) : Type := Program Action.Reply α

namespace Script

/-- A program of the service as part of the simulation. -/
def ofService {α : Type} (p : ServiceProgram α) : Script α :=
  p.lift Action.service fun _ reply => reply

def edit (change : World → World) : Script Unit := Program.call (Action.edit fun _ => change)

def editAs (change : TaskId → World → World) : Script Unit := Program.call (Action.edit change)

def look : Script World := Program.call Action.look

def sleep (millis : Nat) : Script Unit := Program.call (Action.sleep millis)

def join : Script Unit := Program.call Action.join

end Script

/-- What a task waits for. -/
inductive Wait where
  | time (due : Nat)
  /-- A tenant lock at which it has arrived. -/
  | lock
  /-- The end of its watchers. -/
  | watchers

namespace Wait

/-- Whether a task need not wait any longer. -/
def isOver (id : TaskId) (w : World) : Wait → Bool
  | time due => decide (due ≤ w.time)
  | lock => w.locks.mayResume id
  | watchers => w.watchers.all fun x => x.owner != some id

/-- The world in which a task goes on. -/
def leave (id : TaskId) (w : World) : Wait → World
  | lock => { w with locks := w.locks.resume id }
  | _ => w

end Wait

/-- How far a task is. -/
inductive Stage (α : Type) where
  | ready (p : Script α)
  /-- A call was made and takes until `due`. -/
  | delayed (c : ServiceCall) (due : Nat) (next : c.Reply → Script α)
  | waiting (wait : Wait) (next : Script α)
  | ended (a : α)

/-- The tenant locks after a task arrived at one; it may go on with it at once where nobody has
    it. -/
def arriveAt (locks : Lock.Table) (id : TaskId) (t : TenantId) : Lock.Table :=
  let arrived := locks.arrive id t
  match arrived.caller? id with
  | some c => arrived.grantNext c.mutex
  | none => arrived

/-- Runs a script until it ends or has to wait. -/
def advance {α : Type} (id : TaskId) : Script α → World → Stage α × World
  | .done a, w => (.ended a, w)
  | .ask (.edit change) next, w => advance id (next ()) (change id w)
  | .ask .look next, w => advance id (next w) w
  | .ask (.sleep millis) next, w =>
    let wait := Wait.time (w.time + millis)
    if wait.isOver id w then advance id (next ()) w else (.waiting wait (next ()), w)
  | .ask .join next, w =>
    if Wait.watchers.isOver id w then advance id (next ()) w
    else (.waiting .watchers (next ()), w)
  | .ask (.service (.lockTenant t)) next, w =>
    let w := { w with locks := arriveAt w.locks id t }
    if Wait.lock.isOver id w then advance id (next ()) (Wait.lock.leave id w)
    else (.waiting .lock (next ()), w)
  | .ask (.service c) next, w =>
    let (delay, w) := (w.record id c).beginDelay c
    if delay = 0 then
      let (reply, w) := w.perform id c
      advance id (next reply) w
    else (.delayed c (w.time + delay) next, w)

namespace Stage

variable {α : Type}

/-- Whether a task can go on now. -/
def isRunnable (id : TaskId) (w : World) : Stage α → Bool
  | ready _ => true
  | delayed _ due _ => decide (due ≤ w.time)
  | waiting wait _ => wait.isOver id w
  | ended _ => false

/-- The moment at which a task goes on by itself. -/
def wakeTime? : Stage α → Option Nat
  | delayed _ due _ => some due
  | waiting (.time due) _ => some due
  | _ => none

/-- Goes on, if the task can. -/
def resume (id : TaskId) (stage : Stage α) (w : World) : Stage α × World :=
  if stage.isRunnable id w then
    match stage with
    | ready p => advance id p w
    | delayed c _ next =>
      let (reply, w) := w.perform id c
      advance id (next reply) w
    | waiting wait next => advance id next (wait.leave id w)
    | ended a => (ended a, w)
  else (stage, w)

end Stage

end Tenancy.Simulation
