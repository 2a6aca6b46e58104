import Tenancy.Simulation.Script
import Tenancy.Simulation.Watcher

/-! # Tasks side by side

An activity is a task, an activity with a time limit, or several activities side by side.  Those
take turns in the order of their list: a task runs until it ends or has to wait.  At its limit an
activity is dropped with all that its tasks hold.  When all wait, time jumps to the next moment at
which a task or something in the background can go on. -/

namespace Tenancy.Simulation

/-- Something that goes on and comes to a result. -/
inductive Activity (α : Type) where
  | ended (result : α)
  | task (id : TaskId) (stage : Stage α)
  /-- At `due` it is dropped, with the result `late`; one that ends in time has the result that
      `inTime` makes of its own.  With `isStrict` the limit is looked at before the activity goes
      on, so that one which could end at this very moment is dropped. -/
  | limited (due : Nat) (isStrict : Bool) (late : α) (inTime : α → α) (inner : Activity α)
  /-- It ends when all its members have, with a result made of theirs. -/
  | group (combine : List α → α) (members : List (Activity α))

namespace Activity

variable {α : Type}

def result? : Activity α → Option α
  | ended a => some a
  | _ => none

mutual

/-- The tasks that have not ended. -/
def tasks : Activity α → List (TaskId × Stage α)
  | ended _ => []
  | task id stage => [(id, stage)]
  | limited _ _ _ _ inner => inner.tasks
  | group _ members => tasksOfAll members

/-- The tasks of several activities that have not ended. -/
def tasksOfAll : List (Activity α) → List (TaskId × Stage α)
  | [] => []
  | a :: rest => a.tasks ++ tasksOfAll rest

end

mutual

/-- The time limits that may still be reached. -/
def limits : Activity α → List Nat
  | ended _ => []
  | task _ _ => []
  | limited due _ _ _ inner => due :: inner.limits
  | group _ members => limitsOfAll members

/-- The time limits of several activities. -/
def limitsOfAll : List (Activity α) → List Nat
  | [] => []
  | a :: rest => a.limits ++ limitsOfAll rest

end

/-- Drops the tasks of an activity, in order; none of them goes on in between. -/
def drop (a : Activity α) (w : World) : World := a.tasks.foldl (fun w t => w.dropTask t.1) w

/-- Whether a turn would change anything. -/
def isRunnable (a : Activity α) (w : World) : Bool :=
  a.tasks.any (fun t => t.2.isRunnable t.1 w) || a.limits.any (· ≤ w.time)

/-- The moments at which the activity goes on by itself. -/
def wakeTimes (a : Activity α) : List Nat := a.tasks.filterMap (·.2.wakeTime?) ++ a.limits

mutual

/-- One turn. -/
def turn : Activity α → World → Activity α × World
  | ended a, w => (ended a, w)
  | task id stage, w =>
    match stage.resume id w with
    | (.ended a, w) => (ended a, w)
    | (stage, w) => (task id stage, w)
  | limited due isStrict late inTime inner, w =>
    if isStrict ∧ due ≤ w.time then (ended late, inner.drop w)
    else
      match inner.turn w with
      | (ended a, w) => (ended (inTime a), w)
      | (inner, w) =>
        if due ≤ w.time then (ended late, inner.drop w)
        else (limited due isStrict late inTime inner, w)
  | group combine members, w =>
    let (members, w) := turnAll members w
    match members.mapM result? with
    | some results => (ended (combine results), w)
    | none => (group combine members, w)

/-- One turn of each activity. -/
def turnAll : List (Activity α) → World → List (Activity α) × World
  | [], w => ([], w)
  | a :: rest, w =>
    let (a, w) := a.turn w
    let (rest, w) := turnAll rest w
    (a :: rest, w)

end

/-- The next moment at which the activity or something in the background can go on. -/
def nextWake? (a : Activity α) (w : World) : Option Nat :=
  ((a.wakeTimes ++ w.watchers.map Watcher.wakeTime).filter (w.time < ·)).min?

/-- Runs an activity until it ends; one that waits for something which will not come is dropped,
    without a result. -/
def settle : (rounds : Nat) → Activity α → World → Option α × World
  | 0, a, w => (none, a.drop w)
  | rounds + 1, a, w =>
    match a.turn w with
    | (ended result, w) => (some result, w)
    | (a, w) =>
      let w := w.turnWatchers
      if a.isRunnable w || w.watchers.any (·.isRunnable w.time) then settle rounds a w
      else match a.nextWake? w with
        | some time => settle rounds a { w with time }
        | none => (none, a.drop w)

/-- How many rounds and jumps in time a simulation makes before it is given up. -/
def patience : Nat := 1000000000

/-- Runs an activity.  The result comes with the calls made meanwhile: those of each task together,
    in the order of the tasks.  What runs in the background from before belongs to none of them. -/
def run (a : Activity α) (w : World) : Option α × List Logged × World :=
  let watchers := w.watchers.map fun x => { x with owner := none }
  let (result, w) := settle patience a { w with watchers, log := [] }
  (result, w.log.reverse.mergeSort fun x y => decide (x.task ≤ y.task), { w with log := [] })

end Activity

end Tenancy.Simulation
