import Mathlib.Data.List.Induction
import Mathlib.Logic.Function.Basic
import Tenancy.Installer

/-!
# Callers that install

Any number of callers install the provisioning procedure in one process. A cell says whether that
was done; they take turns at it. `State.step` lets one of them take one step, and a list of moves is
one interleaving. A caller looks at the cell: if the procedure is installed then it returns, and
otherwise it attempts an installation if nobody else has the turn, and waits on if somebody has.

Of the cell this assumes that one attempt is made at a time, that it keeps the value of the first
one that succeeds, and that a waiting caller may attempt one after a failure and where the caller
that had the turn was dropped. Which of several waiting callers looks next is left open.

What a caller does with its turn is the program `Installer.ensure`. The log keeps what callers did,
latest first.

## Key results

- `Installer.ensure_eq`, `Installer.reading_cons`: the program of a caller, call by call
-/

namespace Tenancy

/-! ## The program of a caller -/

namespace Installer

/-- What a caller ends with: its result, and whether the procedure is installed then. -/
abbrev Ending : Type := Except InstallError Unit × Bool

/-- What an attempt does after its script was run. -/
def afterRun : Except DbError Unit → InstallProgram Ending
  | .error e => .done (.error (.execute e), false)
  | .ok () => .done (.ok (), true)

/-- What it does after it looked for a script. -/
def afterLoad : Except InstallError String → InstallProgram Ending
  | .error e => .done (.error e, false)
  | .ok script => .ask (.runScript script) afterRun

/-- An attempt that has still to look under the paths in `todo`; `last` is what the path before them
    said. -/
def reading (paths todo : List String) (last : Option FileError) : InstallProgram Ending :=
  loadFrom paths todo last >>= afterLoad

/-- What an attempt does with the file under a path. -/
def afterRead (paths : List String) (path : String) (rest : List String)
    (reply : Except FileError Bytes) : InstallProgram Ending :=
  match textOf reply with
  | .error e => reading paths rest (some e)
  | .ok script =>
    if (Text.nonBlank? script).isSome then .ask (.runScript script) afterRun
    else .done (.error (.empty path), false)

theorem reading_nil (paths : List String) (last : Option FileError) :
    reading paths [] last = .done (.error (notLoaded paths last), false) := rfl

theorem reading_cons (paths : List String) (path : String) (rest : List String)
    (last : Option FileError) :
    reading paths (path :: rest) last = .ask (.readFile path) (afterRead paths path rest) := by
  rw [reading, loadFrom, readFile, Program.call_bind, Program.ask_bind]
  congr 1
  funext reply
  rw [afterRead]
  cases textOf reply with
  | error e => rfl
  | ok script =>
    dsimp only
    split <;> rfl

/-- A caller that finds the procedure installed is done; another one begins an attempt. -/
theorem ensure_eq (paths : List String) (installed : Bool) : ensure paths installed =
    if installed then .done (.ok (), true) else reading paths paths none := by
  cases installed with
  | true => rfl
  | false =>
    rw [ensure, if_neg Bool.false_ne_true, if_neg Bool.false_ne_true, attempt, reading,
      LawfulMonad.bind_assoc]
    congr 1
    funext loaded
    cases loaded with
    | error e => rfl
    | ok script =>
      show Program.ask _ _ = Program.ask _ _
      congr 1
      funext reply
      rcases reply with e | ⟨⟩ <;> rfl

end Installer

namespace Installation

open Installer (Ending)

/-- Names a caller. -/
abbrev CallerId := Nat

/-- How far a caller is. -/
inductive Phase where
  /-- It waits for its turn. -/
  | waiting
  /-- It has the turn, and this is left of its program. -/
  | attempting (rest : InstallProgram Ending)
  | returned (result : Except InstallError Unit)
  | dropped

/-- What a caller does. -/
inductive Act where
  /-- It looks whether the procedure is installed, and sees this. -/
  | looked (installed : Bool)
  | read (path : String) (reply : Except FileError Bytes)
  /-- It begins to run a script. -/
  | began (script : String)
  /-- The run of its script is over. -/
  | ended (script : String) (reply : Except DbError Unit)
  deriving DecidableEq

structure Event where
  caller : CallerId
  act : Act
  deriving DecidableEq

/-- The cell, its callers and what they find around them. -/
structure State where
  files : String → Except FileError Bytes
  /-- Whether the cell has its value. -/
  installed : Bool
  /-- Who has the turn. -/
  turn : Option CallerId
  callers : CallerId → Option Phase
  /-- What was done, latest first. -/
  log : List Event

/-- What happens next. -/
inductive Move where
  /-- Somebody calls; the name must be new. -/
  | call (id : CallerId)
  /-- A caller that waits looks at the cell. -/
  | look (id : CallerId)
  /-- The call that an attempt waits for is answered. A file is what it is then; `reply` answers the
      run of a script. -/
  | proceed (id : CallerId) (reply : Except DbError Unit)
  /-- A caller is dropped where it waits. -/
  | drop (id : CallerId)
  /-- Files change. -/
  | change (files : String → Except FileError Bytes)

namespace State

/-- Nobody has called. -/
def fresh (files : String → Except FileError Bytes) : State where
  files := files
  installed := false
  turn := none
  callers _ := none
  log := []

/-- The state after a caller did something. -/
def note (S : State) (id : CallerId) (act : Act) : State := { S with log := ⟨id, act⟩ :: S.log }

/-- A caller changes its phase and gives the turn up if it has it. -/
def finish (S : State) (id : CallerId) (phase : Phase) : State :=
  { S with
    turn := if S.turn = some id then none else S.turn
    callers := Function.update S.callers id (some phase) }

/-- A caller takes the turn, or keeps it, and goes on with a program up to its next call. The cell
    keeps what it has, or gets its value where the program ends in a success. -/
def resume (S : State) (id : CallerId) : InstallProgram Ending → State
  | .done (result, installed) =>
    { S.finish id (.returned result) with installed := S.installed || installed }
  | .ask c k =>
    let S := match c with
      | .runScript script => S.note id (.began script)
      | .readFile _ => S
    { S with
      turn := some id
      callers := Function.update S.callers id (some (.attempting (.ask c k))) }

/-- One move. A move that cannot be made changes nothing. -/
def step (paths : List String) (S : State) : Move → State
  | .call id =>
    if (S.callers id).isNone then
      { S with callers := Function.update S.callers id (some .waiting) }
    else S
  | .look id =>
    match S.callers id with
    | some .waiting =>
      if S.installed = true ∨ S.turn = none then
        (S.note id (.looked S.installed)).resume id (Installer.ensure paths S.installed)
      else S
    | _ => S
  | .proceed id reply =>
    match S.callers id with
    | some (.attempting (.ask (.readFile path) k)) =>
      (S.note id (.read path (S.files path))).resume id (k (S.files path))
    | some (.attempting (.ask (.runScript script) k)) =>
      (S.note id (.ended script reply)).resume id (k reply)
    | _ => S
  | .drop id =>
    match S.callers id with
    | some .waiting | some (.attempting _) => S.finish id .dropped
    | _ => S
  | .change files => { S with files := files }

/-- One interleaving. -/
def run (paths : List String) (S : State) (moves : List Move) : State := moves.foldl (step paths) S

/-- A caller's script is being run. -/
def Running (S : State) (id : CallerId) (script : String) : Prop :=
  ∃ k, S.callers id = some (.attempting (.ask (.runScript script) k))

/-- What a caller did, latest first. -/
def story (S : State) (id : CallerId) : List Act :=
  (S.log.filter (·.caller = id)).map (·.act)

end State

/-- Whether a script was run without failure. -/
def Act.succeeds : Act → Bool
  | .ended _ (.ok ()) => true
  | _ => false

/-- Some run of a script succeeded. -/
def Succeeded (log : List Event) : Prop := ∃ e ∈ log, e.act.succeeds = true

end Installation

end Tenancy
