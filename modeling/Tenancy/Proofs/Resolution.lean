import Tenancy.Provisioning
import Tenancy.Session

/-!
# What resolution and acquisition come down to

The resolver makes one call, for the tenant's row, and judges the reply; so does the lookup of a
registered schema. The acquisition of a session goes on with a connection and one statement. Here
these programs are written call by call.

## Key results

- `Resolver.resolve_eq`, `Resolver.verdict_eq_ok_iff`: resolution, and what it makes of a reply
- `Provisioning.registeredSchema_eq`: the lookup of a registered schema
- `Session.acquire_eq`: the acquisition of a session
-/

namespace Tenancy

variable {m : ServiceModule} {t : TenantId} {record : Option TenantRecord} {schema : String}

namespace Resolver

/-- What the resolver makes of the registry's reply about a tenant. -/
def verdict (t : TenantId) (m : ServiceModule) :
    Except DbError (Option TenantRecord) → Except TenantError String
  | .ok (some r) => if r.active then schemaIn r t m else .error (.notFound t)
  | .ok none => .error (.notFound t)
  | .error e => .error (.registry t e)

theorem resolve_eq (t : TenantId) (m : ServiceModule) :
    resolve t m = .ask (.findTenant t) fun reply => .done (verdict t m reply) := by
  rw [resolve, activeTenant, ask, Program.call_bind, Program.ask_bind]
  congr 1
  funext reply
  rcases reply with e | (_ | r)
  · rfl
  · rfl
  · simp only [verdict]
    cases r.active <;> rfl

/-- A tenant has a schema to use if its row is active, subscribes to the module and names one. -/
theorem verdict_eq_ok_iff : verdict t m (.ok record) = .ok schema ↔
    ∃ r, record = some r ∧ r.active = true ∧ r.isSubscribed m = true ∧
      r.schemas.get m = some schema := by
  cases record with
  | none => simp [verdict]
  | some r =>
    simp only [verdict, schemaIn, Option.some.injEq, exists_eq_left']
    cases r.active <;> cases r.isSubscribed m <;> cases r.schemas.get m <;> simp

/-- Where a reply gives it none, the reason is one of access. -/
theorem isAccessFailure_of_verdict {e : TenantError} (h : verdict t m (.ok record) = .error e) :
    e.isAccessFailure = true := by
  cases record with
  | none =>
    cases h
    rfl
  | some r =>
    revert h
    simp only [verdict, schemaIn]
    cases r.active <;> cases r.isSubscribed m <;> cases r.schemas.get m <;>
      simp only [Bool.false_eq_true, if_false, if_true] <;> rintro ⟨⟩ <;> rfl

end Resolver

namespace Provisioning

/-- What the lookup of a registered schema makes of the registry's reply about a tenant. -/
def lookup (t : TenantId) (m : ServiceModule) :
    Except DbError (Option TenantRecord) → Except ProvisioningError String
  | .ok (some r) =>
    if r.active then
      match r.schemas.get m with
      | some schema => .ok schema
      | none => .error (.schemaNotRegistered t m.name)
    else .error (.unknownTenant t)
  | .ok none => .error (.unknownTenant t)
  | .error e => .error (.registryRead t e)

theorem registeredSchema_eq (m : ServiceModule) (t : TenantId) :
    registeredSchema m t = .ask (.findTenant t) fun reply => .done (lookup t m reply) := by
  rw [registeredSchema, ask, Program.call_bind]
  congr 1
  funext reply
  rcases reply with e | (_ | r)
  · rfl
  · rfl
  · simp only [lookup]
    cases r.active <;> cases r.schemas.get m <;> rfl

end Provisioning

namespace Session

/-- What an acquisition does after the end of the statement that binds the connection. -/
def afterBinding (t : TenantId) (schema : String) (connection : ConnectionId) :
    Except DbError Unit → ServiceProgram (Except SessionError Session)
  | .ok () => .done (.ok ⟨t, schema, connection⟩)
  | .error e =>
    .ask (.returnConnection connection) fun _ => .done (.error (.searchPath t schema e))

/-- What it does after the source's reply. -/
def afterConnection (t : TenantId) (schema : String) :
    Except DbError ConnectionId → ServiceProgram (Except SessionError Session)
  | .ok connection =>
    .ask (.execute connection (Sql.searchPathStatement schema)) (afterBinding t schema connection)
  | .error e => .done (.error (.acquire t e))

/-- What it does after the resolver's verdict. -/
def afterVerdict (t : TenantId) :
    Except TenantError String → ServiceProgram (Except SessionError Session)
  | .ok schema => .ask .acquireConnection (afterConnection t schema)
  | .error e => .done (.error (.resolve e))

theorem bind_eq (t : TenantId) (schema : String) (connection : ConnectionId) :
    bind t schema connection = .ask (.execute connection (Sql.searchPathStatement schema))
      (afterBinding t schema connection) := by
  rw [bind, Service.call, Program.call_bind]
  congr 1
  funext reply
  cases reply <;> rfl

theorem acquire_eq (t : TenantId) (m : ServiceModule) :
    acquire t m =
      .ask (.store (.findTenant t)) fun reply => afterVerdict t (Resolver.verdict t m reply) := by
  rw [acquire, Resolver.resolve_eq]
  simp only [Service.onStores, Program.lift, Program.ask_bind, Program.done_bind]
  congr 1
  funext reply
  cases Resolver.verdict t m reply with
  | error e => rfl
  | ok schema =>
    show Program.ask _ _ = Program.ask _ _
    congr 1
    funext reply
    cases reply with
    | error e => rfl
    | ok connection => exact bind_eq t schema connection

end Session

end Tenancy
