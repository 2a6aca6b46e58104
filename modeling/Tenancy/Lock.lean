import Tenancy.TenantId

/-! # Tenant locks

Attempts for one tenant run one at a time.  A table maps a tenant to the mutex of its lock, for as
long as somebody needs it: a caller that arrives finds the entry or makes one and refers to its
mutex from then on, waits until the mutex is given to it, holds it, and leaves in two steps.  First
it gives the mutex up, which passes it on to whoever waits longest; then it removes the tenant's
entry if nobody refers to the entry's mutex any more.  A caller may be dropped while it waits; it
then goes without the second step. -/

namespace Tenancy.Lock

/-- Names a caller. -/
abbrev CallerId := Nat

/-- Names a mutex. -/
abbrev MutexId := Nat

/-- How far a caller is. -/
inductive Phase where
  /-- It refers to a mutex and waits for it. -/
  | waiting
  /-- The mutex was given to it, and it has not noticed yet. -/
  | granted
  | holding
  /-- It has given the mutex up and has the table's entry still to look after. -/
  | leaving
  deriving DecidableEq, Repr

/-- Whether a caller in this phase has the mutex. -/
def Phase.owns : Phase → Bool
  | granted | holding => true
  | waiting | leaving => false

/-- Whether a caller in this phase refers to its mutex. -/
def Phase.refers : Phase → Bool
  | waiting | granted | holding => true
  | leaving => false

/-- A caller and the mutex that it found under its tenant. -/
structure Caller where
  id : CallerId
  tenant : TenantId
  mutex : MutexId
  phase : Phase
  deriving DecidableEq

/-- The entries of the table, and the callers in the order of their arrival. -/
structure Table where
  entries : List (TenantId × MutexId) := []
  nextMutex : MutexId := 0
  callers : List Caller := []

namespace Table

/-- The mutex under a tenant. -/
def entry? (T : Table) (t : TenantId) : Option MutexId := T.entries.lookup t

/-- The caller with a name. -/
def caller? (T : Table) (id : CallerId) : Option Caller := T.callers.find? (·.id == id)

/-- Whether some caller has a mutex. -/
def isOwned (T : Table) (mutex : MutexId) : Bool :=
  T.callers.any fun c => c.mutex == mutex && c.phase.owns

/-- Whether some caller refers to a mutex. -/
def isReferred (T : Table) (mutex : MutexId) : Bool :=
  T.callers.any fun c => c.mutex == mutex && c.phase.refers

/-- The table with the phase of a caller changed. -/
def setPhase (T : Table) (id : CallerId) (phase : Phase) : Table :=
  { T with callers := T.callers.map fun c => if c.id == id then { c with phase } else c }

/-- The table without a caller. -/
def removeCaller (T : Table) (id : CallerId) : Table :=
  { T with callers := T.callers.filter (·.id != id) }

/-- Gives a mutex that nobody has to the caller that waits for it longest. -/
def grantNext (T : Table) (mutex : MutexId) : Table :=
  if T.isOwned mutex then T
  else match T.callers.find? fun c => c.mutex == mutex && c.phase == .waiting with
    | some c => T.setPhase c.id .granted
    | none => T

/-- A caller arrives for a tenant and waits. -/
def arrive (T : Table) (id : CallerId) (t : TenantId) : Table :=
  match T.entry? t with
  | some mutex => { T with callers := T.callers ++ [⟨id, t, mutex, .waiting⟩] }
  | none =>
    { entries := (t, T.nextMutex) :: T.entries
      nextMutex := T.nextMutex + 1
      callers := T.callers ++ [⟨id, t, T.nextMutex, .waiting⟩] }

/-- A caller to which its mutex was given goes on. -/
def resume (T : Table) (id : CallerId) : Table := T.setPhase id .holding

/-- A caller gives its mutex up. -/
def giveUp (T : Table) (c : Caller) : Table := (T.setPhase c.id .leaving).grantNext c.mutex

/-- A caller that gave its mutex up leaves the table, and the tenant's entry goes with it unless
    somebody refers to the entry's mutex. -/
def leave (T : Table) (c : Caller) : Table :=
  let T := T.removeCaller c.id
  match T.entry? c.tenant with
  | some mutex =>
    if T.isReferred mutex then T
    else { T with entries := T.entries.filter (·.1 != c.tenant) }
  | none => T

/-- A caller is dropped before it holds its mutex; if the mutex was given to it already, the next
    one gets it. -/
def abandon (T : Table) (c : Caller) : Table := (T.removeCaller c.id).grantNext c.mutex

/-- A caller goes away, in whatever phase it is. -/
def drop (T : Table) (id : CallerId) : Table :=
  match T.caller? id with
  | none => T
  | some c =>
    match c.phase with
    | .waiting | .granted => T.abandon c
    | .holding => (T.giveUp c).leave c
    | .leaving => T.leave c

/-- Whether a caller may go on and hold its mutex. -/
def mayResume (T : Table) (id : CallerId) : Bool :=
  (T.caller? id).any (·.phase == .granted)

end Table

end Tenancy.Lock
