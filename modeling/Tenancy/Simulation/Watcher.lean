import Tenancy.Simulation.World

/-! # Work in the background

A watcher rests until its ticker is due, and then works until it has to wait or is done.  When it is
told to stop it ends as soon as it rests.  Its calls are put on record among those of the first
task. -/

namespace Tenancy.Simulation

namespace Watcher

/-- The task among whose calls those of watchers are put on record. -/
def place : TaskId := 0

/-- Works until the program is done or has to wait. -/
def goOn (x : Watcher) : ServiceProgram Unit → World → Watcher × World
  | .done (), w => ({ x with pending := none }, w)
  | .ask c next, w =>
    let (delay, w) := (w.record place c).beginDelay c
    if delay = 0 then
      let (reply, w) := w.perform place c
      x.goOn (next reply) w
    else ({ x with pending := some ⟨c, w.time + delay, next⟩ }, w)

/-- Whether it can go on at a time. -/
def isRunnable (x : Watcher) (time : Nat) : Bool :=
  match x.pending with
  | some p => decide (p.due ≤ time)
  | none => x.isTold || decide (x.ticker.due ≤ time)

/-- The moment at which it goes on by itself. -/
def wakeTime (x : Watcher) : Nat :=
  match x.pending with
  | some p => p.due
  | none => x.ticker.due

/-- One turn of a watcher that can go on; nothing is left of one that ends. -/
def turn (x : Watcher) (w : World) : Option Watcher × World :=
  match x.pending with
  | some p =>
    let (reply, w) := w.perform place p.call
    let (x, w) := x.goOn (p.next reply) w
    (some x, w)
  | none =>
    if x.isTold then (none, w)
    else
      let (x, w) := { x with ticker := x.ticker.next w.time }.goOn x.work w
      (some x, w)

end Watcher

/-- One turn of each watcher that can go on. -/
def World.turnWatchers (w : World) : World :=
  w.watchers.foldl (fun w x =>
    if x.isRunnable w.time then
      let (x, w) := x.turn w
      { w with watchers := w.watchers ++ x.toList }
    else { w with watchers := w.watchers ++ [x] }) { w with watchers := [] }

end Tenancy.Simulation
