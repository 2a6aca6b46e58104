import Tenancy.Installer
import Tenancy.Simulation.FileTree

/-! # Installations in memory

A tree of files and a database that runs scripts, as one value.  Callers that come at the same time
take turns, so that they are run one after the other. -/

namespace Tenancy.Simulation

/-- The surroundings of an installation. -/
structure InstallWorld where
  files : FileTree
  /-- How each coming run of a script fails, or that it does not. -/
  failures : List (Option DbError)
  /-- How the runs after those fail. -/
  alwaysFail : Option DbError
  installed : Bool := false
  /-- The scripts that were run, last first. -/
  runs : List String := []

namespace InstallWorld

/-- The reply to a call, and the surroundings after it. -/
def perform (w : InstallWorld) : (c : InstallCall) → c.Reply × InstallWorld
  | .readFile path => (w.files.read path, w)
  | .runScript script =>
    let w := { w with runs := script :: w.runs }
    let (failure, w) : Option DbError × InstallWorld :=
      match w.failures with
      | [] => (w.alwaysFail, w)
      | f :: rest => (f, { w with failures := rest })
    match failure with
    | some e => (.error e, w)
    | none => (.ok (), w)

/-- Runs a program. -/
def run {α : Type} : InstallProgram α → InstallWorld → α × InstallWorld
  | .done a, w => (a, w)
  | .ask c k, w =>
    let (reply, w) := w.perform c
    run (k reply) w

/-- One caller installs. -/
def ensure (paths : List String) (w : InstallWorld) : Except InstallError Unit × InstallWorld :=
  let ((result, installed), w) := run (Installer.ensure paths w.installed) w
  (result, { w with installed })

/-- Several callers install at the same time. -/
def ensureMany (paths : List String) :
    Nat → InstallWorld → List (Except InstallError Unit) × InstallWorld
  | 0, w => ([], w)
  | n + 1, w =>
    let (first, w) := w.ensure paths
    let (rest, w) := ensureMany paths n w
    (first :: rest, w)

end InstallWorld

end Tenancy.Simulation
