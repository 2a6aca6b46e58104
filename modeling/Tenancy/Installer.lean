import Tenancy.Error
import Tenancy.Program
import Tenancy.Text.Blank
import Tenancy.Text.Utf8

/-! # Installing the provisioning procedure

The script that creates the procedure is looked for under several paths and run once for each
process, so that a new deployment always brings its own version along.  After the first success no
script is run again; a failure leaves it to the next caller to try.  Callers take turns. -/

namespace Tenancy

/-- What an installation asks for. -/
inductive InstallCall where
  | readFile (path : String)
  | runScript (script : String)
  deriving DecidableEq

/-- What a call answers with. -/
abbrev InstallCall.Reply : InstallCall → Type
  | readFile _ => Except FileError Bytes
  | runScript _ => Except DbError Unit

/-- A program of an installation. -/
abbrev InstallProgram (α : Type) : Type := Program InstallCall.Reply α

namespace Installer

def readFile (path : String) : InstallProgram (Except FileError Bytes) :=
  Program.call (InstallCall.readFile path)

def runScript (script : String) : InstallProgram (Except DbError Unit) :=
  Program.call (InstallCall.runScript script)

/-- Where the script is looked for by default: relative to where the process runs, and then where
    a container image has it. -/
def defaultCandidates : List String :=
  ["db/provision_tenant.sql", "../db/provision_tenant.sql", "/app/db/provision_tenant.sql"]

/-- The paths to try, one that was configured first. -/
def candidates (configured : Option String) : List String :=
  configured.toList ++ defaultCandidates

/-- The text of a file. -/
def textOf (read : Except FileError Bytes) : Except FileError String :=
  read.bind fun bytes =>
    match bytes.text? with
    | some s => .ok s
    | none => .error .invalidText

/-- The failure to find a script under any of the paths; `last` is what the last of them said. -/
def notLoaded (paths : List String) (last : Option FileError) : InstallError :=
  .load (", ".intercalate paths) (last.getD .noCandidates)

/-- Reads the first of the remaining paths that has a text.  A blank script is a failure, and the
    paths after it are not tried. -/
def loadFrom (paths : List String) : List String → Option FileError →
    InstallProgram (Except InstallError String)
  | [], last => return .error (notLoaded paths last)
  | path :: rest, _ => do
    match textOf (← readFile path) with
    | .error e => loadFrom paths rest (some e)
    | .ok script =>
      if (Text.nonBlank? script).isSome then return .ok script else return .error (.empty path)

/-- One attempt to install: loads the script and runs it. -/
def attempt (paths : List String) : InstallProgram (Except InstallError Unit) := do
  match ← loadFrom paths paths none with
  | .error e => return .error e
  | .ok script =>
    match ← runScript script with
    | .error e => return .error (.execute e)
    | .ok () => return .ok ()

/-- Installs unless that was done before; also tells whether it is done now. -/
def ensure (paths : List String) (installed : Bool) :
    InstallProgram (Except InstallError Unit × Bool) := do
  if installed then return (.ok (), true)
  else
    match ← attempt paths with
    | .ok () => return (.ok (), true)
    | .error e => return (.error e, false)

end Installer

end Tenancy
