import Tenancy.Proofs.ModuleName
import Tenancy.Proofs.Observation
import Tenancy.Proofs.Refusal
import Tenancy.Proofs.Repair

/-!
# Where a provisioned tenant is routed to

The schema that an attempt returns is the one that it asked the operations database for, and after
the attempt it is the registered one. The name was derived or reused, written to a column, and is
trimmed whenever it is read. So the lookup of the schema, the resolver, the session and the next
attempt could each come to a name of their own; they all come to the registered one.

## Key results

- `Provisioning.creations_attempt`: which schema an attempt asks for
- `Store.Routes.of_registered`: a registered name is what everything is routed to
- `Provisioning.routes_of_ok`: the schema that an attempt returns is created and routed to
-/

namespace Tenancy

open Program (Guarded)

variable {m : ServiceModule} {t : TenantId} {schema : String} {s : Store}

/-! ## Statements that a program runs -/

/-- The statement that a call runs, and the connection that it runs on. -/
def ServiceCall.statement? : ServiceCall → Option (ConnectionId × String)
  | .execute connection sql => some (connection, sql)
  | _ => none

/-- The statements that a program of the service runs, first one first, where no call to the stores
    fails. -/
def ServiceProgram.statementsOn {α : Type} (others : (c : ServiceCall) → c.Reply) :
    ServiceProgram α → Store → List (ConnectionId × String)
  | .done _, _ => []
  | .ask c k, s =>
    let replied := ServiceCall.perform others c s
    c.statement?.toList ++ statementsOn others (k replied.1) replied.2

/-! ## Schemas that an attempt asks for -/

/-- The calls that were made to create a schema, first one first. -/
def Observed.creations {α : Type} (run : Observed α) : List Made :=
  run.calls.filter (·.call.kind = .ensureSchema)

namespace Provisioning

open StoreProgram

variable {owner actor : String} {displayName : Option String} {inserted : Except DbError Int}
  {faults : Faults} {made : List Made} {record : TenantRecord}

/-- An attempt that has chosen its schema asks for it once, and for no other. -/
private theorem creations_create (hmade : ∀ call ∈ made, call.call.kind ≠ .ensureSchema) :
    (observe faults (create m owner t schema inserted) made s).creations =
      [⟨.ensureSchema t schema owner, faults .ensureSchema 0⟩] := by
  have hrest : ∀ reply, (afterCreation m t schema inserted reply).Makes fun c =>
      decide (c.kind = .ensureSchema) = false :=
    afterCreation_makes rfl fun _ _ _ => rfl
  have hnone : made.filter (·.call.kind = .ensureSchema) = [] := by simpa using hmade
  have hcount : Made.count made .ensureSchema = 0 := by simpa [Made.count] using hmade
  rw [create_eq, Observed.creations]
  cases hfault : faults .ensureSchema 0 with
  | some e =>
    rw [observe_failed (hcount ▸ hfault), filter_calls_of_makes (hrest _), List.filter_append,
      hnone]
    rfl
  | none =>
    rw [observe_applied (hcount ▸ hfault), filter_calls_of_makes (hrest _), List.filter_append,
      hnone]
    rfl

/-- An attempt that finds its tenant asks for the schema it is about, once, and for no other. -/
theorem creations_attempt (hfind : faults .findTenant 0 = none) (hrow : s.tenant? t = some record) :
    (observe faults (attempt m owner t displayName actor) [] s).creations =
      [⟨.ensureSchema t (schemaFor m record t displayName) owner, faults .ensureSchema 0⟩] := by
  obtain ⟨inserted, failure, s', hrun, -⟩ := observe_attempt_of_found hfind hrow
  rw [hrun]
  exact creations_create (by simp [StoreCall.kind])

private theorem afterCreation_returns (e : DbError) :
    (afterCreation m t schema inserted (.error e)).Returns fun r => ∃ e, r = .error e :=
  fun _ => ⟨_, rfl⟩

/-- An attempt that has chosen its schema returns it, and not where it could not be created. -/
private theorem ok_create (hmade : ∀ call ∈ made, call.call.kind ≠ .ensureSchema) {name : String}
    (hok : (observe faults (create m owner t schema inserted) made s).result = .ok name) :
    name = schema ∧ faults .ensureSchema 0 = none := by
  have hname : (create m owner t schema inserted).Returns fun r => ∀ name, r = .ok name →
      name = schema :=
    create_returns (fun _ h => (Except.ok.inj h).symm) (fun _ => nofun) fun _ => nofun
  refine ⟨result_of_returns hname faults made s name hok, ?_⟩
  have hcount : Made.count made .ensureSchema = 0 := by simpa [Made.count] using hmade
  cases hfault : faults .ensureSchema 0 with
  | none => rfl
  | some e =>
    rw [create_eq, observe_failed (hcount ▸ hfault)] at hok
    obtain ⟨e', he'⟩ := result_of_returns (afterCreation_returns e) faults _ s
    rw [he'] at hok
    cases hok

/-- An attempt that returns a schema has found its tenant and created the schema it is about. -/
theorem exists_of_ok
    (hok : (observe faults (attempt m owner t displayName actor) [] s).result = .ok schema) :
    faults .findTenant 0 = none ∧ faults .ensureSchema 0 = none ∧
      ∃ record, s.tenant? t = some record ∧ schema = schemaFor m record t displayName := by
  rcases found_or_ended m owner t displayName actor faults s with
    ⟨hfind, record, hrow⟩ | ⟨e, herror, -⟩
  · obtain ⟨inserted, failure, s', hrun, -⟩ := observe_attempt_of_found hfind hrow
    rw [hrun] at hok
    obtain ⟨hname, hcreated⟩ := ok_create (by simp [StoreCall.kind]) hok
    exact ⟨hfind, hcreated, record, hrow, hname⟩
  · rw [herror] at hok
    cases hok

/-! ## The schema after an attempt -/

/-- An attempt registers the schema that it returns, and that schema exists. -/
private def routedAttempt (m : ServiceModule) (owner : String) (t : TenantId)
    (displayName : Option String) (actor : String) :
    Outline (alone (fun _ => True) fun _ _ => True) m owner t displayName actor
      fun schema s => s.registered? m t = some schema ∧ schema ∈ s.schemas where
  start _ := True
  chosen schema _ := Text.nonBlank? schema = some schema
  noted schema _ _ := Text.nonBlank? schema = some schema
  failing _ _ _ := True
  created schema _ s := Text.nonBlank? schema = some schema ∧ schema ∈ s.schemas
  registered schema _ s := s.registered? m t = some schema ∧ schema ∈ s.schemas
  find := alone_apply (fun _ _ _ => trivial)
    (fun _ _ _ record _ => nonBlank?_schemaFor m record t displayName) fun _ _ _ _ _ h => nomatch h
  insert _ := alone_apply (fun _ _ _ => trivial) (fun _ _ h => h) fun _ _ _ h => h
  ensure schema _ := by
    refine alone_apply (fun _ _ _ => trivial) ?_ ?_
    · intro s _ h
      exact ⟨fun _ => ⟨h, Store.mem_schemas_apply.mpr (.inr ⟨t, owner, rfl⟩)⟩, nofun⟩
    · exact fun _ _ _ _ => ⟨nofun, fun _ _ => trivial⟩
  fail _ _ _ := alone_apply (fun _ _ _ => trivial) (fun _ _ _ => trivial) fun _ _ _ _ => trivial
  progress schema _ := by
    refine alone_apply (fun _ _ _ => trivial) ?_ fun _ _ _ h => h
    exact fun s _ h => ⟨h.1, s.schemas_subset_apply _ h.2⟩
  register schema _ := by
    refine alone_apply (fun _ _ _ => trivial) ?_ fun _ _ _ _ _ => nofun
    intro s _ h rows hrows
    exact ⟨Store.registered?_of_rows (Except.ok.inj hrows) h.1, s.schemas_subset_apply _ h.2⟩
  succeed schema _ := by
    refine alone_apply (fun _ _ _ => trivial) ?_ ?_
    · rintro s _ h s' ⟨rfl, -⟩
      exact ⟨h.1, s.schemas_subset_apply _ h.2⟩
    · rintro s _ _ h s' ⟨rfl, -⟩
      exact h
  finish _ _ _ _ h := by
    rintro ⟨rfl, -⟩
    exact h

end Provisioning

/-! ## What a registered name is used for -/

/-- A schema is the one that a tenant is routed to, whichever way that is found out. -/
structure Store.Routes (m : ServiceModule) (t : TenantId) (schema : String) (s : Store) : Prop where
  lookup : s.isActive t = true → ((Provisioning.registeredSchema m t).runOn s).1 = .ok schema
  resolve : (s.tenant? t).any (·.mayUse m) = true →
    ((Resolver.resolve t m).runOn s).1 = .ok schema
  resolveNamed : (s.tenant? t).any (·.mayUse m) = true → ∀ service, m.Spelled service →
    ((Resolver.resolveNamed t service).runOn s).1 = .ok schema
  /-- A session looks names up in the schema. -/
  acquire : (s.tenant? t).any (·.mayUse m) = true →
    ∀ (others : (c : ServiceCall) → c.Reply) connection,
      others .acquireConnection = .ok connection →
      (Session.acquire t m).statementsOn others s =
        [(connection, Sql.searchPathStatement schema)]
  /-- A further attempt that finds the tenant asks for the schema, whatever display name it is
      given. -/
  again : ∀ (owner : String) (displayName : Option String) (actor : String) (faults : Faults),
    faults .findTenant 0 = none →
      (StoreProgram.observe faults (Provisioning.attempt m owner t displayName actor) []
        s).creations = [⟨.ensureSchema t schema owner, faults .ensureSchema 0⟩]

/-- A registered name is what everything is routed to. -/
theorem Store.Routes.of_registered (h : s.registered? m t = some schema) : s.Routes m t schema := by
  -- everybody reads the same column and trims it; none sees how it was written
  obtain ⟨record, hrow, hname⟩ := Option.bind_eq_some_iff.mp h
  have hverdict : (s.tenant? t).any (·.mayUse m) = true →
      Resolver.verdict t m (.ok (s.tenant? t)) = .ok schema := by
    intro hmay
    rw [hrow, Option.any_some, TenantRecord.mayUse, Bool.and_eq_true] at hmay
    exact Resolver.verdict_eq_ok_iff.mpr ⟨record, hrow, hmay.1, hmay.2, hname⟩
  have hresolve : (s.tenant? t).any (·.mayUse m) = true →
      ((Resolver.resolve t m).runOn s).1 = .ok schema := by
    intro hmay
    rw [Resolver.resolve_eq, runOn_ask]
    exact hverdict hmay
  constructor
  · intro hactive
    rw [Store.isActive, hrow, Option.any_some] at hactive
    exact Provisioning.runOn_registeredSchema hrow hactive hname
  · exact hresolve
  · intro hmay service hservice
    rw [Resolver.resolveNamed, ServiceModule.ofName?_of_spelled hservice]
    exact hresolve hmay
  · intro hmay others connection hconnection
    rw [Session.acquire_eq]
    show (Session.afterVerdict t (Resolver.verdict t m (.ok (s.tenant? t)))).statementsOn others s =
      _
    rw [hverdict hmay]
    show (Session.afterConnection t schema (others .acquireConnection)).statementsOn others s = _
    rw [hconnection, Session.afterConnection, ServiceProgram.statementsOn]
    show [_] ++ (Session.afterBinding t schema connection
      (others (.execute connection (Sql.searchPathStatement schema)))).statementsOn others s = _
    cases others (.execute connection (Sql.searchPathStatement schema)) <;> rfl
  · intro owner displayName actor faults hfind
    rw [Provisioning.creations_attempt hfind hrow, Provisioning.schemaFor_of_get hname]

namespace Provisioning

/-- An attempt that returns a schema has created it, for its tenant and the owner, and has asked for
    no other. As long as nobody writes to the stores, everything is then routed to that schema, at
    any time. -/
theorem routes_of_ok (m : ServiceModule) (owner : String) (t : TenantId)
    (displayName : Option String) (actor : String) (faults : Faults) (s : Store) (schema : String)
    (hok : (StoreProgram.observe faults (attempt m owner t displayName actor) [] s).result =
      .ok schema) :
    let run := StoreProgram.observe faults (attempt m owner t displayName actor) [] s
    run.creations = [⟨.ensureSchema t schema owner, none⟩] ∧ schema ∈ run.store.schemas ∧
      ∀ now, Store.Routes m t schema { run.store with clock := now } := by
  intro run
  obtain ⟨hfind, hcreated, record, hrow, hschema⟩ := exists_of_ok hok
  obtain ⟨-, hpost⟩ := StoreProgram.observe_of_guarded (fun _ _ _ _ => trivial)
    ((routedAttempt m owner t displayName actor).guarded (v := s) trivial) trivial faults []
  obtain ⟨hregistered, hexists⟩ := hpost schema hok
  refine ⟨?_, hexists, fun now => .of_registered hregistered⟩
  rw [creations_attempt hfind hrow, ← hschema, hcreated]

/-- No call about the audit log succeeds. -/
def silent : Faults := fun kind _ => if kind.isAudit then some .poolTimedOut else none

/-- A registered name between white space is used again without it, also where the audit log cannot
    be reached. -/
theorem routes_of_ok_padded :
    let run := StoreProgram.observe silent
      (attempt .operations "app" ⟨3⟩ (some "Globex") "api") [] Store.padded
    run.result = .ok "ops_main" ∧
      run.creations = [⟨.ensureSchema ⟨3⟩ "ops_main" "app", none⟩] ∧
      Store.Routes .operations ⟨3⟩ "ops_main" { run.store with clock := .ofNanos 7 } := by
  intro run
  have hok : run.result = .ok "ops_main" := by decide +kernel
  obtain ⟨hcreations, -, hroutes⟩ := routes_of_ok .operations "app" ⟨3⟩ (some "Globex") "api" silent
    Store.padded "ops_main" hok
  exact ⟨hok, hcreations, hroutes (.ofNanos 7)⟩

end Provisioning

end Tenancy
