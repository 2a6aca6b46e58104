import Tenancy.Store.Call

/-! # Reconciliation

A pass looks at the attempts that stopped between the creation of a schema and its registration, and
finishes or fails each of them.  A registry that names another schema is left to an operator. -/

namespace Tenancy.Reconciliation

/-- What a pass did with the attempts it found. -/
structure Report where
  /-- The schema was registered and the attempt marked as successful. -/
  repaired : Nat := 0
  /-- The schema was registered already and the attempt marked as successful. -/
  confirmed : Nat := 0
  /-- The schema does not exist and the attempt was marked as failed. -/
  failed : Nat := 0
  /-- The registry names another schema. -/
  conflicts : Nat := 0
  /-- Some call failed. -/
  errors : Nat := 0
  deriving DecidableEq, Repr

/-- What became of one attempt. -/
inductive Outcome where
  | repaired
  | confirmed
  | failed
  | conflict
  deriving DecidableEq, Repr

/-- The report with one more attempt counted. -/
def Report.count (r : Report) : Except DbError Outcome → Report
  | .ok .repaired => { r with repaired := r.repaired + 1 }
  | .ok .confirmed => { r with confirmed := r.confirmed + 1 }
  | .ok .failed => { r with failed := r.failed + 1 }
  | .ok .conflict => { r with conflicts := r.conflicts + 1 }
  | .error _ => { r with errors := r.errors + 1 }

/-- The error text of an attempt whose schema does not exist. -/
def schemaNotFound : String := "schema not found in operations database during reconciliation"

/-- Marks the row of an attempt, and then has the given outcome. -/
def settle (e : Audit.Entry) (status : Audit.Status) (error : Option String) (outcome : Outcome) :
    StoreProgram (Except DbError Outcome) := do
  match ← ask (.updateAudit (.entry e.id) status error) with
  | .error err => return .error err
  | .ok _ => return .ok outcome

/-- Registers the schema of an attempt for a tenant that has none. -/
def repair (m : ServiceModule) (e : Audit.Entry) : StoreProgram (Except DbError Outcome) := do
  match ← ask (.setModuleSchema e.tenant m e.schema) with
  | .error err => return .error err
  | .ok 0 => return .ok .conflict
  | .ok (_ + 1) => settle e .success none .repaired

/-- Finishes or fails one attempt. -/
def entry (m : ServiceModule) (e : Audit.Entry) : StoreProgram (Except DbError Outcome) := do
  match ← ask (.schemaExists e.schema) with
  | .error err => return .error err
  | .ok false => settle e .failed (some schemaNotFound) .failed
  | .ok true =>
    match ← ask (.findTenant e.tenant) with
    | .error err => return .error err
    | .ok record =>
      match record.bind fun r => r.schemas.get m with
      | none => repair m e
      | some registered =>
        if registered = e.schema then settle e .success none .confirmed
        else return .ok .conflict

/-- Works through attempts one after the other, adding to a report. -/
def entries (m : ServiceModule) : List Audit.Entry → Report → StoreProgram Report
  | [], report => return report
  | e :: rest, report => do
    let outcome ← entry m e
    entries m rest (report.count outcome)

/-- One pass over the attempts that are older than a cutoff. -/
def pass (m : ServiceModule) (cutoff : Timestamp) : StoreProgram (Except DbError Report) := do
  match ← ask (.stalledAudits m cutoff) with
  | .error err => return .error err
  | .ok stalled =>
    let report ← entries m stalled {}
    return .ok report

/-! ## Cutoff -/

/-- The longest span that can be taken from a timestamp, in milliseconds: they fit in a signed word
    of 64 bits. -/
def maxSpanMillis : Nat := 0x7fffffffffffffff

/-- A span, or the longest one where it is longer. -/
def clampSpan (d : Duration) : Duration :=
  if d.nanos ≤ maxSpanMillis * 1000000 then d else .ofMillis maxSpanMillis

/-- The point that rows must be older than to count as stale: as far back as `staleAfter` says, and
    never before the least timestamp. -/
def cutoff (now : Timestamp) (staleAfter : Duration) : Timestamp :=
  let t := now.sub (clampSpan staleAfter)
  if Timestamp.earliest ≤ t then t else Timestamp.earliest

end Tenancy.Reconciliation
