import Tenancy.Store.Call

/-! # The two stores as a value

The registry's rows, its audit log and the schemas of the operations database, as one value with
the effect of each call on it.  `Store.apply` is the meaning of a call that does not fail. -/

namespace Tenancy

/-- The contents of both stores, and the time that stamps rows. -/
structure Store where
  /-- The registry's rows, one for a tenant. -/
  tenants : List TenantRecord := []
  /-- The audit log, oldest row first. -/
  audits : List Audit.Entry := []
  /-- The id of the row added last. -/
  lastAudit : Int := 0
  /-- The schemas of the operations database. -/
  schemas : List String := []
  /-- The time. -/
  clock : Timestamp := .ofNanos 0

namespace Store

/-- The row of a tenant. -/
def tenant? (s : Store) (t : TenantId) : Option TenantRecord :=
  s.tenants.find? (·.tenant == t)

/-- The store with a row added, or put in the place of the tenant's row. -/
def putTenant (s : Store) (r : TenantRecord) : Store :=
  if (s.tenant? r.tenant).isSome then
    { s with tenants := s.tenants.map fun old => if old.tenant == r.tenant then r else old }
  else { s with tenants := s.tenants ++ [r] }

/-- The store without a tenant's row. -/
def removeTenant (s : Store) (t : TenantId) : Store :=
  { s with tenants := s.tenants.filter (·.tenant != t) }

/-- The store with a row at the end of the audit log; `make` builds the row from its id. -/
def appendAudit (s : Store) (make : Int → Audit.Entry) : Store :=
  { s with audits := s.audits ++ [make (s.lastAudit + 1)], lastAudit := s.lastAudit + 1 }

/-- The store with a schema in the operations database. -/
def addSchema (s : Store) (schema : String) : Store :=
  if schema ∈ s.schemas then s else { s with schemas := s.schemas ++ [schema] }

/-- The store without a schema. -/
def dropSchema (s : Store) (schema : String) : Store :=
  { s with schemas := s.schemas.filter (· != schema) }

/-- The rows of the audit log for a module. -/
def auditsOf (s : Store) (m : ServiceModule) : List Audit.Entry :=
  s.audits.filter (·.moduleName == m.name)

/-- The rows of the audit log that are attempts to provision a tenant for a module. -/
def attemptsOf (s : Store) (m : ServiceModule) : List Audit.Entry :=
  (s.auditsOf m).filter (·.action == Audit.provisionAction)

/-- Whether a row is older than no row of its tenant among `rows`. -/
def isNewestIn (rows : List Audit.Entry) (e : Audit.Entry) : Bool :=
  rows.all fun other => other.tenant != e.tenant || !e.isOlder other

/-- The newest attempt for a tenant and module. -/
def latestAudit (s : Store) (t : TenantId) (m : ServiceModule) : Option Audit.Entry :=
  ((s.attemptsOf m).filter (·.tenant == t)).find? (isNewestIn (s.attemptsOf m))

/-- Puts a row before the first of `rows` that was not created earlier. -/
def insertByTime (e : Audit.Entry) : List Audit.Entry → List Audit.Entry
  | [] => [e]
  | other :: rest =>
    if e.createdAt ≤ other.createdAt then e :: other :: rest else other :: insertByTime e rest

/-- The rows in the order in which they were created.  No order is laid down for rows created at
    the same time; they stay as they stand. -/
def byTime (rows : List Audit.Entry) : List Audit.Entry := rows.foldr insertByTime []

/-- Of each tenant the newest attempt for a module, where that stopped before registration and is
    older than the cutoff, in the order in which they were created. -/
def stalledAudits (s : Store) (m : ServiceModule) (cutoff : Timestamp) : List Audit.Entry :=
  (byTime (s.attemptsOf m)).filter fun e =>
    isNewestIn (s.attemptsOf m) e && e.status == .schemaCreated && decide (e.createdAt < cutoff)

/-- The row that an attempt begins with. -/
def newEntry (s : Store) (e : Audit.NewEntry) (id : Int) : Audit.Entry :=
  { id, tenant := e.tenant, moduleName := e.module.name, action := Audit.provisionAction
    schema := e.schema, status := .pending, error := none, actor := some e.actor
    createdAt := s.clock }

/-- The store after a module's column was written; a tenant without a row changes nothing. -/
def setModuleSchema (s : Store) (t : TenantId) (m : ServiceModule) (schema : String) : Store :=
  { s with tenants := s.tenants.map fun r =>
      if r.tenant == t then r.withSchema m schema s.clock else r }

/-- The store after rows of the audit log changed their status. -/
def updateAudit (s : Store) (target : Audit.Target) (status : Audit.Status)
    (error : Option String) : Store :=
  { s with audits := s.audits.map fun e => if target.covers e then e.mark status error else e }

/-- What a call that does not fail answers, and the stores after it. -/
def apply (s : Store) : (c : StoreCall) → c.Value × Store
  | .findTenant t => (s.tenant? t, s)
  | .isActive t => ((s.tenant? t).any (·.active), s)
  | .hasModule t m => ((s.tenant? t).any (·.mayUse m), s)
  | .setModuleSchema t m schema =>
    (if (s.tenant? t).isSome then 1 else 0, s.setModuleSchema t m schema)
  | .insertAudit e => (s.lastAudit + 1, s.appendAudit (s.newEntry e))
  | .updateAudit target status error =>
    ((s.audits.filter target.covers).length, s.updateAudit target status error)
  | .latestAudit t m => (s.latestAudit t m, s)
  | .stalledAudits m cutoff => (s.stalledAudits m cutoff, s)
  | .ensureSchema _ schema _ => ((), s.addSchema schema)
  | .schemaExists schema => (decide (schema ∈ s.schemas), s)

end Store

/-- Runs a program against the stores; `fails` says which of its calls, counted from zero, fail
    and how.  A call that fails has no effect. -/
def StoreProgram.runWith {α : Type} (fails : Nat → Option DbError) :
    StoreProgram α → (index : Nat) → Store → α × Store
  | .done a, _, s => (a, s)
  | .ask c k, index, s =>
    match fails index with
    | some e => runWith fails (k (.error e)) (index + 1) s
    | none => runWith fails (k (.ok (s.apply c).1)) (index + 1) (s.apply c).2

/-- Runs a program against the stores without failing calls. -/
def StoreProgram.runOn {α : Type} (p : StoreProgram α) (s : Store) : α × Store :=
  p.runWith (fun _ => none) 0 s

end Tenancy
