import Tenancy.Proofs.ModuleName
import Tenancy.Proofs.Observation
import Tenancy.Proofs.Resolution

/-!
# Who may use which schema

Four questions are asked about a tenant and a module: which schema the tenant uses, for the module
itself or for a name of it, whether the registry grants the module, and which schema is registered,
as an operator asks. Each makes one call, about the tenant's row, and judges the reply on its own.
Here what they judge by is said of the row, and the answers are compared.

## Key results

- `Resolver.verdict_eq_ok_iff_uses`, `Resolver.verdict_eq_error_iff`: the resolver's two kinds of
  answer
- `Provisioning.lookup_eq_ok_iff`: the operator's answer
- `StoreProgram.result_eq_of_row`: programs that ask only about a tenant's row
- `Resolver.answers_agree`: all of them agree
-/

namespace Tenancy

/-! ## What is said of a row -/

namespace TenantRecord

variable {r : TenantRecord} {m : ServiceModule} {schema : String}

/-- One of the tenant's subscriptions is the module's name, up to the case of ASCII letters. -/
def Subscribes (r : TenantRecord) (m : ServiceModule) : Prop :=
  ∃ name ∈ r.modules, Text.equalsIgnoringCase name m.name = true

/-- The module's column has a schema, up to white space around it. -/
def Registers (r : TenantRecord) (m : ServiceModule) (schema : String) : Prop :=
  ∃ raw, r.schemas.column m = some raw ∧ Text.trim raw = schema ∧ schema ≠ ""

theorem isSubscribed_iff : r.isSubscribed m = true ↔ r.Subscribes m := by
  simp [isSubscribed, Subscribes]

theorem get_eq_some_iff : r.schemas.get m = some schema ↔ r.Registers m schema := by
  simp only [ModuleSchemas.get, Option.bind_eq_some_iff, Text.nonBlank?_eq_some_iff, Registers]

theorem get_eq_none_iff : r.schemas.get m = none ↔ ∀ schema, ¬r.Registers m schema := by
  simp only [Option.eq_none_iff_forall_ne_some, ne_eq, get_eq_some_iff]

end TenantRecord

/-- A row, if there is one, lets its tenant use a schema for a module. -/
def Uses (m : ServiceModule) (row : Option TenantRecord) (schema : String) : Prop :=
  ∃ r, row = some r ∧ r.active = true ∧ r.Subscribes m ∧ r.Registers m schema

/-- The first of the conditions that fails: the row is there and active, it subscribes to the module,
    it has a schema for it. -/
inductive Refused (t : TenantId) (m : ServiceModule) : Option TenantRecord → TenantError → Prop
  | unknown : Refused t m none (.notFound t)
  | inactive {r : TenantRecord} (hactive : r.active = false) : Refused t m (some r) (.notFound t)
  | unsubscribed {r : TenantRecord} (hactive : r.active = true) (hsubscribed : ¬r.Subscribes m) :
    Refused t m (some r) (.moduleNotSubscribed t m.name)
  | unregistered {r : TenantRecord} (hactive : r.active = true) (hsubscribed : r.Subscribes m)
    (hschema : ∀ schema, ¬r.Registers m schema) : Refused t m (some r) (.schemaMissing t m.name)

/-! ## Answers to one call -/

namespace Resolver

variable {t : TenantId} {m : ServiceModule} {row : Option TenantRecord} {schema service : String}
  {e : TenantError}

theorem verdict_eq_ok_iff_uses : verdict t m (.ok row) = .ok schema ↔ Uses m row schema := by
  simp only [verdict_eq_ok_iff, TenantRecord.isSubscribed_iff, TenantRecord.get_eq_some_iff, Uses]

theorem verdict_eq_error_iff : verdict t m (.ok row) = .error e ↔ Refused t m row e := by
  constructor
  · intro h
    rcases row with _ | r
    · cases h
      exact .unknown
    · simp only [verdict, schemaIn] at h
      split at h
      next hactive =>
        split at h
        next hsubscribed =>
          have hsubscribed := TenantRecord.isSubscribed_iff.mp hsubscribed
          split at h
          · cases h
          next hschema =>
            cases h
            exact .unregistered hactive hsubscribed (TenantRecord.get_eq_none_iff.mp hschema)
        next hsubscribed =>
          cases h
          exact .unsubscribed hactive fun hsub => hsubscribed (TenantRecord.isSubscribed_iff.mpr hsub)
      next hactive =>
        cases h
        exact .inactive (eq_false_of_ne_true hactive)
  · rintro (_ | hactive | ⟨hactive, hsubscribed⟩ | ⟨hactive, hsubscribed, hschema⟩)
    · rfl
    · simp [verdict, hactive]
    · simp [verdict, schemaIn, hactive, TenantRecord.isSubscribed_iff, hsubscribed]
    · simp [verdict, schemaIn, hactive, TenantRecord.isSubscribed_iff, hsubscribed,
        TenantRecord.get_eq_none_iff.mpr hschema]

/-- A name of a module asks about the module. -/
theorem resolveNamed_of_name (h : Text.lowerCase (Text.trim service) = m.name) :
    resolveNamed t service = resolve t m := by
  rw [resolveNamed, ServiceModule.ofName?_eq_some_iff.mpr h]

/-- Another name asks nothing. -/
theorem resolveNamed_of_ne (h : ∀ m : ServiceModule, Text.lowerCase (Text.trim service) ≠ m.name) :
    resolveNamed t service = .done (.error (.unknownService service)) := by
  rw [resolveNamed, ServiceModule.ofName?_eq_none_iff.mpr h]
  rfl

/-- What the registry's reply about a module comes to. -/
def granted (t : TenantId) : Except DbError Bool → Except TenantError Bool
  | .ok granted => .ok granted
  | .error e => .error (.registry t e)

theorem verifyAccess_of_name (h : Text.lowerCase (Text.trim service) = m.name) :
    verifyAccess t service = .ask (.hasModule t m) fun reply => .done (granted t reply) := by
  rw [verifyAccess, ServiceModule.ofName?_eq_some_iff.mpr h]
  show Program.ask _ _ = Program.ask _ _
  congr 1
  funext reply
  cases reply <;> rfl

end Resolver

namespace Provisioning

variable {t : TenantId} {m : ServiceModule} {row : Option TenantRecord} {schema : String}

/-- An operator is told a schema that the row of an active tenant registers. -/
theorem lookup_eq_ok_iff : lookup t m (.ok row) = .ok schema ↔
    ∃ r, row = some r ∧ r.active = true ∧ r.Registers m schema := by
  cases row with
  | none => simp [lookup]
  | some r =>
    simp only [lookup, Option.some.injEq, exists_eq_left', ← TenantRecord.get_eq_some_iff]
    cases r.active <;> cases r.schemas.get m <;> simp

end Provisioning

/-! ## Programs that ask about one row -/

/-- A call reads a tenant's row, and no other, and writes nothing. -/
def StoreCall.ReadsRow (t : TenantId) (c : StoreCall) : Prop :=
  c = .findTenant t ∨ ∃ m, c = .hasModule t m

/-- The result of a program that asks only about a tenant's row depends on nothing but the row. -/
theorem StoreProgram.result_eq_of_row {α : Type} {p : StoreProgram α} {t : TenantId} {s s' : Store}
    (h : p.Makes (StoreCall.ReadsRow t)) (hrow : s'.tenant? t = s.tenant? t) :
    (p.runOn s').1 = (p.runOn s).1 := by
  induction p with
  | done a => rfl
  | ask c k ih =>
    obtain ⟨rfl | ⟨m, rfl⟩, hnext⟩ := h
    · have hsame : (s'.apply (.findTenant t)).1 = (s.apply (.findTenant t)).1 := hrow
      rw [runOn_ask, runOn_ask, hsame]
      exact ih _ (hnext _)
    · have hsame : (s'.apply (.hasModule t m)).1 = (s.apply (.hasModule t m)).1 := by
        simp only [Store.apply, hrow]
      rw [runOn_ask, runOn_ask, hsame]
      exact ih _ (hnext _)

namespace Resolver

variable {t : TenantId} {m : ServiceModule}

/-! ## The answers -/

section Answers

variable {s : Store} {row : Option TenantRecord} {schema service : String}

theorem runOn_resolve (s : Store) (t : TenantId) (m : ServiceModule) :
    ((resolve t m).runOn s).1 = verdict t m (.ok (s.tenant? t)) := by
  rw [resolve_eq, runOn_ask]
  rfl

theorem runOn_registeredSchema_eq (s : Store) (t : TenantId) (m : ServiceModule) :
    ((Provisioning.registeredSchema m t).runOn s).1 =
      Provisioning.lookup t m (.ok (s.tenant? t)) := by
  rw [Provisioning.registeredSchema_eq, runOn_ask]
  rfl

/-- The registry's failure is told as such. -/
theorem resolve_of_failed {fails : Nat → Option DbError} {cause : DbError}
    (h : fails 0 = some cause) (s : Store) :
    ((resolve t m).runWith fails 0 s).1 = .error (.registry t cause) := by
  rw [resolve_eq, StoreProgram.runWith, h]
  rfl

/-- The registry's failure is the only one that is not one of access. -/
theorem isAccessFailure_eq_false_iff {fails : Nat → Option DbError} {e : TenantError}
    (h : ((resolve t m).runWith fails 0 s).1 = .error e) :
    e.isAccessFailure = false ↔ ∃ cause, e = .registry t cause := by
  cases hfails : fails 0 with
  | some cause =>
    rw [resolve_of_failed hfails] at h
    cases h
    exact ⟨fun _ => ⟨cause, rfl⟩, fun _ => rfl⟩
  | none =>
    rw [resolve_eq, StoreProgram.runWith, hfails] at h
    have haccess : e.isAccessFailure = true := isAccessFailure_of_verdict h
    constructor
    · intro hnot
      rw [haccess] at hnot
      cases hnot
    · rintro ⟨cause, rfl⟩
      cases haccess

/-- The resolver asks of a row what the lookup asks, and the subscription besides. -/
theorem uses_iff : Uses m row schema ↔
    Provisioning.lookup t m (.ok row) = .ok schema ∧ ∃ r, row = some r ∧ r.Subscribes m := by
  rw [Provisioning.lookup_eq_ok_iff]
  constructor
  · rintro ⟨r, hrow, hactive, hsubscribed, hschema⟩
    exact ⟨⟨r, hrow, hactive, hschema⟩, r, hrow, hsubscribed⟩
  · rintro ⟨⟨r, rfl, hactive, hschema⟩, r', hr', hsubscribed⟩
    cases hr'
    exact ⟨r, rfl, hactive, hsubscribed, hschema⟩

/-- A tenant that uses a schema is granted the module. -/
theorem verifyAccess_of_uses (h : Uses m (s.tenant? t) schema)
    (hname : Text.lowerCase (Text.trim service) = m.name) :
    ((verifyAccess t service).runOn s).1 = .ok true := by
  obtain ⟨r, hrow, hactive, hsubscribed, -⟩ := h
  have hmay : (s.apply (.hasModule t m)).1 = true := by
    show (s.tenant? t).any (·.mayUse m) = true
    rw [hrow, Option.any_some, TenantRecord.mayUse, hactive,
      TenantRecord.isSubscribed_iff.mpr hsubscribed]
    rfl
  rw [verifyAccess_of_name hname, runOn_ask, hmay]
  rfl

/-- Rows of other tenants change no answer. -/
theorem answers_eq_of_row {s' : Store} (hrow : s'.tenant? t = s.tenant? t) (m : ServiceModule) :
    ((resolve t m).runOn s').1 = ((resolve t m).runOn s).1 ∧
      ((Provisioning.registeredSchema m t).runOn s').1 =
        ((Provisioning.registeredSchema m t).runOn s).1 ∧
      ∀ service, ((resolveNamed t service).runOn s').1 = ((resolveNamed t service).runOn s).1 ∧
        ((verifyAccess t service).runOn s').1 = ((verifyAccess t service).runOn s).1 := by
  have hresolve : ∀ k, ((resolve t k).runOn s').1 = ((resolve t k).runOn s).1 := fun k => by
    rw [resolve_eq]
    exact StoreProgram.result_eq_of_row ⟨.inl rfl, fun _ => trivial⟩ hrow
  refine ⟨hresolve m, ?_, fun service => ⟨?_, ?_⟩⟩
  · rw [Provisioning.registeredSchema_eq]
    exact StoreProgram.result_eq_of_row ⟨.inl rfl, fun _ => trivial⟩ hrow
  · rw [resolveNamed]
    cases ServiceModule.ofName? service with
    | none => rfl
    | some k => exact hresolve k
  · rw [verifyAccess]
    cases ServiceModule.ofName? service with
    | none => rfl
    | some k =>
      refine StoreProgram.result_eq_of_row ⟨.inr ⟨k, rfl⟩, fun reply => ?_⟩ hrow
      cases reply <;> trivial

end Answers

/-- The answers about a tenant and a module agree, in every state of the registry. The resolver answers
    with the schema that the tenant's row lets it use, and otherwise with the first condition that
    fails; where the registry cannot be asked, it says so, and that alone is no failure of access. It
    answers with a schema if the operator is told the same one and the tenant subscribes, and then the
    registry grants the module. A name asks about the module that it is, trimmed and in lower case,
    and a name of none asks nothing. Rows of other tenants change no answer. -/
theorem answers_agree (s : Store) (t : TenantId) (m : ServiceModule) :
    let resolved (s : Store) := ((resolve t m).runOn s).1
    let lookedUp (s : Store) := ((Provisioning.registeredSchema m t).runOn s).1
    (∀ schema, resolved s = .ok schema ↔ Uses m (s.tenant? t) schema) ∧
      (∀ e, resolved s = .error e ↔ Refused t m (s.tenant? t) e) ∧
      (∀ fails : Nat → Option DbError,
        (∀ cause, fails 0 = some cause →
          ((resolve t m).runWith fails 0 s).1 = .error (.registry t cause)) ∧
        ∀ e, ((resolve t m).runWith fails 0 s).1 = .error e →
          (e.isAccessFailure = false ↔ ∃ cause, e = .registry t cause)) ∧
      (∀ schema, resolved s = .ok schema ↔
        lookedUp s = .ok schema ∧ ∃ r, s.tenant? t = some r ∧ r.Subscribes m) ∧
      (∀ schema service, resolved s = .ok schema →
        Text.lowerCase (Text.trim service) = m.name →
          ((verifyAccess t service).runOn s).1 = .ok true) ∧
      (∀ service, Text.lowerCase (Text.trim service) = m.name →
        resolveNamed t service = resolve t m) ∧
      (∀ service, (∀ k : ServiceModule, Text.lowerCase (Text.trim service) ≠ k.name) →
        resolveNamed t service = .done (.error (.unknownService service))) ∧
      ∀ s' : Store, s'.tenant? t = s.tenant? t →
        resolved s' = resolved s ∧ lookedUp s' = lookedUp s ∧
        ∀ service, ((resolveNamed t service).runOn s').1 = ((resolveNamed t service).runOn s).1 ∧
          ((verifyAccess t service).runOn s').1 = ((verifyAccess t service).runOn s).1 := by
  intro resolved lookedUp
  have hresolved : resolved s = verdict t m (.ok (s.tenant? t)) := runOn_resolve s t m
  have huses : ∀ schema, resolved s = .ok schema ↔ Uses m (s.tenant? t) schema := fun schema => by
    rw [hresolved, verdict_eq_ok_iff_uses]
  refine ⟨huses, ?_, ?_, ?_, ?_, ?_, ?_, ?_⟩
  · intro e
    rw [hresolved, verdict_eq_error_iff]
  · intro fails
    exact ⟨fun cause hcause => resolve_of_failed hcause s, fun e he => isAccessFailure_eq_false_iff he⟩
  · intro schema
    have hlookup : lookedUp s = Provisioning.lookup t m (.ok (s.tenant? t)) :=
      runOn_registeredSchema_eq s t m
    rw [huses, hlookup, uses_iff]
  · intro schema service hok hname
    exact verifyAccess_of_uses ((huses schema).mp hok) hname
  · intro service hname
    exact resolveNamed_of_name hname
  · intro service hname
    exact resolveNamed_of_ne hname
  · intro s' hrow
    exact answers_eq_of_row hrow m

/-- A registry with one tenant, whose subscription is written in capital letters and whose schema has
    white space around it. -/
def capitals : Store where
  tenants :=
    [{ tenant := ⟨3⟩, slug := "globex", displayName := "Globex", contactEmail := none, active := true
       modules := ["OPERATIONS"], schemas := { operations := some " ops_main " }
       modifiedAt := none }]

/-- The tenant uses its schema, for every spelling of the module; it does not subscribe to another. A
    row of another tenant changes nothing. -/
theorem answers_agree_capitals :
    let t : TenantId := ⟨3⟩
    let others : Store := { capitals with tenants := capitals.tenants ++ capitals.tenants.map fun r =>
      { r with tenant := ⟨4⟩, active := false } }
    ((resolve t .operations).runOn capitals).1 = .ok "ops_main" ∧
      ((Provisioning.registeredSchema .operations t).runOn capitals).1 = .ok "ops_main" ∧
      ((verifyAccess t " Operations").runOn capitals).1 = .ok true ∧
      resolveNamed t " Operations" = resolve t .operations ∧
      resolveNamed t "payroll" = .done (.error (.unknownService "payroll")) ∧
      ((resolve t .operations).runOn others).1 = .ok "ops_main" ∧
      ((resolve t .finance).runOn capitals).1 = .error (.moduleNotSubscribed t "finance") ∧
      ((resolve t .finance).runWith (fun _ => some .poolTimedOut) 0 capitals).1 =
        .error (.registry t .poolTimedOut) := by
  intro t others
  obtain ⟨huses, -, -, hlookup, hgranted, hnamed, hunknown, hrows⟩ :=
    answers_agree capitals t .operations
  obtain ⟨-, hrefused, hfailed, -⟩ := answers_agree capitals t .finance
  have hok : ((resolve t .operations).runOn capitals).1 = .ok "ops_main" := by
    refine (huses _).mpr ⟨_, rfl, rfl, ?_, ?_⟩
    · exact ⟨"OPERATIONS", List.mem_singleton.mpr rfl, by decide +kernel⟩
    · exact ⟨" ops_main ", rfl, by decide +kernel, by decide⟩
  have hname : Text.lowerCase (Text.trim " Operations") = ServiceModule.operations.name := by
    decide +kernel
  refine ⟨hok, ((hlookup _).mp hok).1, hgranted _ _ hok hname, hnamed _ hname, ?_, ?_, ?_, ?_⟩
  · refine hunknown _ fun k => ?_
    cases k <;> decide +kernel
  · exact (hrows others rfl).1.trans hok
  · refine (hrefused _).mpr (.unsubscribed rfl ?_)
    rintro ⟨name, hmem, hname⟩
    cases List.mem_singleton.mp hmem
    exact absurd hname (by decide +kernel)
  · exact (hfailed _).1 _ rfl

end Resolver

end Tenancy
