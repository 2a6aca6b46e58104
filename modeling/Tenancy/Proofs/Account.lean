import Tenancy.Proofs.BestEffort
import Tenancy.Proofs.SchemaName

/-!
# What the result of an attempt says

The calls of an attempt fail independently of each other, and some failures change which calls come
after them. Whatever fails, the result tells what was left in the two stores: nothing, a schema that
no row names, or a schema that the tenant's row names. The attempt's own row in the log says how far
it came, as far as it could be written. That row is the last one of the log, and an attempt that has
one changes no other.

## Key results

- `Store.OwnRow.answer_mark`: what marking the own row leaves
- `Provisioning.observe_create_of_failed`, `observe_create_of_created`,
  `observe_register_of_failed`, `observe_register_of_missing`, `observe_register_of_written`: an
  attempt step by step, as its calls fail
- `Provisioning.account_attempt`: each result, with what it says
-/

namespace Tenancy

/-- How a call is answered that fails as it is told to, and the stores after it. -/
def Store.answer (s : Store) (c : StoreCall) : Option DbError → c.Reply × Store
  | none => (.ok (s.apply c).1, (s.apply c).2)
  | some e => (.error e, s)

theorem StoreProgram.observe_ask {α : Type} {faults : Faults} {made : List Made} {s : Store}
    {c : StoreCall} {k : c.Reply → StoreProgram α} {failure : Option DbError}
    (h : faults c.kind (Made.count made c.kind) = failure) :
    observe faults (.ask c k) made s =
      observe faults (k (s.answer c failure).1) (made ++ [⟨c, failure⟩])
        (s.answer c failure).2 := by
  cases failure with
  | none => exact observe_applied h
  | some e => exact observe_failed h

theorem Made.count_append (made : List Made) (c : StoreCall) (failure : Option DbError)
    (kind : StoreCall.Kind) : count (made ++ [⟨c, failure⟩]) kind =
      count made kind + if c.kind = kind then 1 else 0 := by
  simp [count, List.countP_cons]

/-- A call about the log, failed or not, leaves everything but the log. -/
theorem Store.sameBesideAudit_answer (s : Store) {c : StoreCall} (hc : c.kind.isAudit = true)
    (failure : Option DbError) : s.SameBesideAudit (s.answer c failure).2 := by
  cases failure with
  | none => exact .apply_audit s hc
  | some e => exact .refl s

/-! ## The own row -/

namespace Store

variable {s s' s'' : Store} {new : Audit.NewEntry} {status : Audit.Status} {error : Option String}

/-- The row of an attempt that began in `s` is the last one in the log of `s'`, with a status and an
    error text. Where ids number the rows, those before it are as they were. -/
def OwnRow (s : Store) (new : Audit.NewEntry) (status : Audit.Status) (error : Option String)
    (s' : Store) : Prop :=
  ∃ before, s'.audits = before ++ [{ s.newEntry new (s.lastAudit + 1) with status, error }] ∧
    (s.Keyed → before = s.audits)

theorem ownRow_insertAudit (s : Store) (new : Audit.NewEntry) :
    s.OwnRow new .pending none (s.apply (.insertAudit new)).2 := ⟨s.audits, rfl, fun _ => rfl⟩

/-- A new schema changes nothing in the registry. -/
theorem exists_addSchema_eq (s : Store) (schema : String) :
    ∃ schemas, s.addSchema schema = { s with schemas } := by
  unfold addSchema
  split
  · exact ⟨s.schemas, rfl⟩
  · exact ⟨_, rfl⟩

theorem OwnRow.of_audits_eq (h : s.OwnRow new status error s') (haudits : s''.audits = s'.audits) :
    s.OwnRow new status error s'' := by
  rw [OwnRow, haudits]
  exact h

/-- A change of the own row's status changes no other row of a log that ids number. -/
theorem OwnRow.answer_mark (h : s.OwnRow new status error s') (status' : Audit.Status)
    (error' : Option String) (failure : Option DbError) :
    s.OwnRow new (if failure.isSome then status else status')
      (if failure.isSome then error else error'.orElse fun _ => error)
      (s'.answer (.updateAudit (.entry (s.lastAudit + 1)) status' error') failure).2 := by
  cases failure with
  | some e => exact h
  | none =>
    obtain ⟨before, haudits, hbefore⟩ := h
    let mark (e : Audit.Entry) : Audit.Entry :=
      if (Audit.Target.entry (s.lastAudit + 1)).covers e then e.mark status' error' else e
    refine ⟨before.map mark, ?_, fun hkeyed => ?_⟩
    · show s'.audits.map mark = _
      rw [haudits, List.map_append]
      simp [mark, Audit.Target.covers, newEntry, Audit.Entry.mark]
    · -- no row from before has an id as high as the own one
      rw [hbefore hkeyed]
      refine (List.map_congr_left fun e he => ?_).trans (List.map_id s.audits)
      have hle := hkeyed.le_last e he
      have hne : e.id ≠ s.lastAudit + 1 := by omega
      simp [mark, Audit.Target.covers, hne]

end Store

/-! ## How an attempt ends -/

namespace Provisioning

open StoreProgram

variable {m : ServiceModule} {owner : String} {t : TenantId} {displayName : Option String}
  {actor schema : String} {record : TenantRecord} {faults : Faults} {s : Store} {e : DbError}
  {α : Type} {made : List Made} {inserted : Except DbError Int} {new : Audit.NewEntry}

/-- The stores after a change of the own row's status, if there is a row. -/
def marked (inserted : Except DbError Int) (status : Audit.Status) (failure : Option DbError)
    (s : Store) : Store :=
  match inserted with
  | .ok id => (s.answer (.updateAudit (.entry id) status none) failure).2
  | .error _ => s

theorem sameBesideAudit_marked (inserted : Except DbError Int) (status : Audit.Status)
    (failure : Option DbError) (s : Store) :
    s.SameBesideAudit (marked inserted status failure s) := by
  cases inserted with
  | ok id => exact s.sameBesideAudit_answer rfl failure
  | error e => exact .refl s

/-- A change of the own row's status is the next call of its kind, or it is not made. -/
theorem observe_markOwn (faults : Faults) (inserted : Except DbError Int) (status : Audit.Status)
    (p : StoreProgram α) (made : List Made) (s : Store) : ∃ made',
      observe faults (markOwn inserted status >>= fun _ => p) made s =
        observe faults p made'
          (marked inserted status (faults .updateAudit (Made.count made .updateAudit)) s) ∧
      Made.count made' .setModuleSchema = Made.count made .setModuleSchema ∧
      (inserted.toOption.isSome = true →
        Made.count made' .updateAudit = Made.count made .updateAudit + 1) := by
  cases inserted with
  | error e => exact ⟨made, rfl, rfl, nofun⟩
  | ok id =>
    -- the reply is not looked at
    exact ⟨made ++ [⟨.updateAudit (.entry id) status none, _⟩], observe_ask rfl,
      Made.count_append .., fun _ => Made.count_append ..⟩

/-- How an attempt ends whose schema could not be created. -/
theorem observe_create_of_failed (made : List Made) (inserted : Except DbError Int) (s : Store)
    (he : faults .ensureSchema (Made.count made .ensureSchema) = some e) :
    (observe faults (create m owner t schema inserted) made s).result =
        .error (.schemaCreation t schema e (auditFailure inserted t)) ∧
      (observe faults (create m owner t schema inserted) made s).store =
        (s.answer (.updateAudit (failureTarget inserted t m) .failed (some e.message))
          (faults .updateAudit (Made.count made .updateAudit))).2 := by
  -- the change of status is counted without the call that has just failed
  have hcount : Made.count (made ++ [⟨.ensureSchema t schema owner, some e⟩]) .updateAudit =
      Made.count made .updateAudit := Made.count_append ..
  rw [create_eq, observe_ask he]
  show (observe _ (.ask (.updateAudit _ _ _) _) _ _).result = _ ∧
    (observe _ (.ask (.updateAudit _ _ _) _) _ _).store = _
  rw [observe_ask (congrArg _ hcount)]
  exact ⟨rfl, rfl⟩

/-- An attempt whose schema was created goes on to register it. -/
theorem observe_create_of_created (made : List Made) (inserted : Except DbError Int) (s : Store)
    (hensure : faults .ensureSchema (Made.count made .ensureSchema) = none) :
    ∃ made', observe faults (create m owner t schema inserted) made s =
        observe faults (register m t schema inserted) made' (marked inserted .schemaCreated
          (faults .updateAudit (Made.count made .updateAudit)) (s.addSchema schema)) ∧
      Made.count made' .setModuleSchema = Made.count made .setModuleSchema ∧
      (inserted.toOption.isSome = true →
        Made.count made' .updateAudit = Made.count made .updateAudit + 1) := by
  have hmarks : Made.count (made ++ [⟨.ensureSchema t schema owner, none⟩]) .updateAudit =
      Made.count made .updateAudit := Made.count_append ..
  have hwrites : Made.count (made ++ [⟨.ensureSchema t schema owner, none⟩]) .setModuleSchema =
      Made.count made .setModuleSchema := Made.count_append ..
  rw [create_eq, observe_ask hensure, ← hmarks, ← hwrites]
  exact observe_markOwn faults inserted .schemaCreated (register m t schema inserted) _ _

/-- How an attempt ends whose schema could not be registered. -/
theorem observe_register_of_failed
    (he : faults .setModuleSchema (Made.count made .setModuleSchema) = some e) :
    (observe faults (register m t schema inserted) made s).result =
        .error (.registryUpdate t schema e.message) ∧
      (observe faults (register m t schema inserted) made s).store = s := by
  rw [register, ask, Program.call_bind, observe_ask he]
  exact ⟨rfl, rfl⟩

/-- How an attempt ends whose tenant has no row any more when its schema is to be registered: the write
    changes no row, and no row of the log is marked after it. -/
theorem observe_register_of_missing
    (hwrite : faults .setModuleSchema (Made.count made .setModuleSchema) = none)
    (hmissing : (s.tenant? t).isSome = false) :
    observe faults (register m t schema inserted) made s =
      ⟨.error (.registryUpdate t schema "tenant row disappeared from the registry"), s,
        made ++ [⟨.setModuleSchema t m schema, none⟩]⟩ := by
  have hanswer : s.answer (.setModuleSchema t m schema) none = (.ok 0, s) := by
    have hrows : (s.apply (.setModuleSchema t m schema)).1 = 0 := if_neg (by simp [hmissing])
    rw [Store.answer, hrows, Store.apply, s.setModuleSchema_of_isNone hmissing]
  rw [register, ask, Program.call_bind, observe_ask hwrite, hanswer]
  rfl

/-- How an attempt ends that registered its schema. -/
theorem observe_register_of_written
    (hwrite : faults .setModuleSchema (Made.count made .setModuleSchema) = none)
    (hrow : (s.tenant? t).isSome = true) :
    (observe faults (register m t schema inserted) made s).result = .ok schema ∧
      (observe faults (register m t schema inserted) made s).store =
        marked inserted .success (faults .updateAudit (Made.count made .updateAudit))
          (s.setModuleSchema t m schema) := by
  have hcount : Made.count (made ++ [⟨.setModuleSchema t m schema, none⟩]) .updateAudit =
      Made.count made .updateAudit := Made.count_append ..
  -- there is one row to write to
  have hanswer : s.answer (.setModuleSchema t m schema) none =
      (.ok 1, s.setModuleSchema t m schema) := by
    rw [Store.answer, show (s.apply (.setModuleSchema t m schema)).1 = 1 from if_pos hrow]
    rfl
  have hnext : observe faults (register m t schema inserted) made s =
      observe faults (markOwn inserted .success >>= fun _ => .done (.ok schema))
        (made ++ [⟨.setModuleSchema t m schema, none⟩]) (s.setModuleSchema t m schema) := by
    rw [register, ask, Program.call_bind, observe_ask hwrite, hanswer]
    rfl
  obtain ⟨made', hrun, -⟩ := observe_markOwn faults inserted .success
    (.done (.ok schema) : StoreProgram (Except ProvisioningError String))
    (made ++ [⟨.setModuleSchema t m schema, none⟩]) (s.setModuleSchema t m schema)
  rw [hnext, hrun, hcount]
  exact ⟨rfl, rfl⟩

/-! ## The log -/

/-- The reply to the attempt to add a row, and the stores after it. -/
def begun (faults : Faults) (new : Audit.NewEntry) (s : Store) : Except DbError Int × Store :=
  s.answer (.insertAudit new) (faults .insertAudit 0)

/-- What an attempt that began in `s` leaves in the log: its own row with a status and an error
    text, or, where the row could not be added, the rows `others`. -/
structure Logs (faults : Faults) (s : Store) (new : Audit.NewEntry) (status : Audit.Status)
    (error : Option String) (others : List Audit.Entry) (s' : Store) : Prop where
  own : faults .insertAudit 0 = none → s.OwnRow new status error s'
  others : ∀ e, faults .insertAudit 0 = some e → s'.audits = others

namespace Logs

variable {new : Audit.NewEntry} {status : Audit.Status} {error : Option String}
  {others : List Audit.Entry} {s' s'' : Store}

theorem of_audits_eq (h : Logs faults s new status error others s')
    (haudits : s''.audits = s'.audits) : Logs faults s new status error others s'' where
  own hinsert := (h.own hinsert).of_audits_eq haudits
  others e hinsert := haudits.trans (h.others e hinsert)

/-- A later status of the own row. -/
theorem marked (h : Logs faults s new status error others s') (status' : Audit.Status)
    (failure : Option DbError) :
    Logs faults s new (if failure.isSome then status else status') error others
      (Provisioning.marked (begun faults new s).1 status' failure s') where
  own hinsert := by
    rw [begun, hinsert]
    show s.OwnRow new _ error (s'.answer (.updateAudit (.entry (s.lastAudit + 1)) status' none)
      failure).2
    simpa using (h.own hinsert).answer_mark status' none failure
  others e hinsert := by
    rw [begun, hinsert]
    exact h.others e hinsert

end Logs

theorem logs_begun (faults : Faults) (new : Audit.NewEntry) (s : Store) :
    Logs faults s new .pending none s.audits (begun faults new s).2 where
  own hinsert := by
    rw [begun, hinsert]
    exact s.ownRow_insertAudit new
  others e hinsert := by
    rw [begun, hinsert]
    rfl

/-- The own row fails with an error text, or all rows of the tenant that are pending do. -/
theorem logs_failed (faults : Faults) (new : Audit.NewEntry) (s : Store) (message : String) :
    Logs faults s new .failed (some message)
      (s.updateAudit (.pending new.tenant new.module) .failed (some message)).audits
      ((begun faults new s).2.answer (.updateAudit (failureTarget (begun faults new s).1
        new.tenant new.module) .failed (some message)) none).2 where
  own hinsert := by
    rw [begun, hinsert]
    exact (s.ownRow_insertAudit new).answer_mark .failed (some message) none
  others e hinsert := by
    rw [begun, hinsert]
    rfl

/-- The stores when an attempt has created its schema and marked its row. -/
def created (faults : Faults) (new : Audit.NewEntry) (s : Store) : Store :=
  marked (begun faults new s).1 .schemaCreated (faults .updateAudit 0)
    ((begun faults new s).2.addSchema new.schema)

theorem sameBesideAudit_begun (faults : Faults) (new : Audit.NewEntry) (s : Store) :
    s.SameBesideAudit (begun faults new s).2 :=
  s.sameBesideAudit_answer rfl _

theorem sameBesideAudit_created (faults : Faults) (new : Audit.NewEntry) (s : Store) :
    (s.addSchema new.schema).SameBesideAudit (created faults new s) := by
  have hcreated : (s.addSchema new.schema).SameBesideAudit
      ((begun faults new s).2.addSchema new.schema) :=
    ((sameBesideAudit_begun faults new s).apply
      (show (StoreCall.ensureSchema new.tenant new.schema "").kind.isAudit = false from rfl)).2
  exact hcreated.trans (sameBesideAudit_marked _ _ _ _)

theorem tenants_created (faults : Faults) (new : Audit.NewEntry) (s : Store) :
    (created faults new s).tenants = s.tenants := by
  obtain ⟨schemas, hadded⟩ := s.exists_addSchema_eq new.schema
  rw [← (sameBesideAudit_created faults new s).tenants, hadded]

theorem tenants_setModuleSchema_created (faults : Faults) (new : Audit.NewEntry) (s : Store) :
    ((created faults new s).setModuleSchema new.tenant new.module new.schema).tenants =
      (s.setModuleSchema new.tenant new.module new.schema).tenants := by
  have hclock : (created faults new s).clock = s.clock := by
    obtain ⟨schemas, hadded⟩ := s.exists_addSchema_eq new.schema
    rw [← (sameBesideAudit_created faults new s).clock, hadded]
  simp only [Store.setModuleSchema, tenants_created, hclock]

theorem mem_schemas_created {name : String} :
    name ∈ (created faults new s).schemas ↔ name ∈ s.schemas ∨ name = new.schema := by
  rw [← (sameBesideAudit_created faults new s).schemas, Store.mem_addSchema]

theorem logs_created (faults : Faults) (new : Audit.NewEntry) (s : Store) :
    Logs faults s new (if (faults .updateAudit 0).isSome then .pending else .schemaCreated) none
      s.audits (created faults new s) := by
  have haudits : ((begun faults new s).2.addSchema new.schema).audits =
      (begun faults new s).2.audits := by
    obtain ⟨schemas, hadded⟩ := (begun faults new s).2.exists_addSchema_eq new.schema
    rw [hadded]
  exact ((logs_begun faults new s).of_audits_eq haudits).marked .schemaCreated _

/-! ## What each result says -/

/-- A write of a tenant's column takes effect and changes a row. -/
def Registers (faults : Faults) (s : Store) (new : Audit.NewEntry) : Prop :=
  faults .setModuleSchema 0 = none ∧
    (s.apply (.setModuleSchema new.tenant new.module new.schema)).1 ≠ 0

/-- What the result of an attempt says that found its tenant. -/
structure FoundAccount (new : Audit.NewEntry) (faults : Faults) (s : Store)
    (run : Observed (Except ProvisioningError String)) : Prop where
  /-- A schema that could not be created: nothing is left but the row that says so. Where the
      attempt has no row, those of the tenant that are pending say so. -/
  uncreated : ∀ e, faults .ensureSchema 0 = some e →
    (∃ audit, run.result = .error (.schemaCreation new.tenant new.schema e audit)) ∧
    run.store.tenants = s.tenants ∧ run.store.schemas = s.schemas ∧
    (faults .updateAudit 0 = none →
      Logs faults s new .failed (some e.message)
        (s.audits.map fun row => if (Audit.Target.pending new.tenant new.module).covers row
          then row.mark .failed (some e.message) else row) run.store) ∧
    (faults .updateAudit 0 ≠ none → Logs faults s new .pending none s.audits run.store)
  /-- A schema that could not be registered: it exists, and no tenant's row has changed. -/
  unregistered : faults .ensureSchema 0 = none → ¬Registers faults s new →
    (∃ reason, run.result = .error (.registryUpdate new.tenant new.schema reason)) ∧
    run.store.tenants = s.tenants ∧
    (∀ name, name ∈ run.store.schemas ↔ name ∈ s.schemas ∨ name = new.schema) ∧
    Logs faults s new (if (faults .updateAudit 0).isSome then .pending else .schemaCreated) none
      s.audits run.store
  /-- A schema that is returned: it exists, it is registered, and no other row has changed. -/
  registered : faults .ensureSchema 0 = none → Registers faults s new →
    run.result = .ok new.schema ∧
    run.store.registered? new.module new.tenant = some new.schema ∧
    (run.store.tenants = s.tenants.map fun row =>
      if row.tenant == new.tenant then row.withSchema new.module new.schema s.clock else row) ∧
    (∀ name, name ∈ run.store.schemas ↔ name ∈ s.schemas ∨ name = new.schema) ∧
    Logs faults s new
      (if (faults .updateAudit 1).isSome
        then if (faults .updateAudit 0).isSome then .pending else .schemaCreated
        else .success) none s.audits run.store

/-- What the result of an attempt says. -/
structure Account (m : ServiceModule) (t : TenantId) (displayName : Option String) (actor : String)
    (faults : Faults) (s : Store) (run : Observed (Except ProvisioningError String)) : Prop where
  /-- The tenant's row could not be read: nothing else was done. -/
  unread : ∀ e, faults .findTenant 0 = some e →
    run = ⟨.error (.registryRead t e), s, [⟨.findTenant t, some e⟩]⟩
  /-- The tenant has no row: nothing else was done. -/
  unknown : faults .findTenant 0 = none → s.tenant? t = none →
    run = ⟨.error (.unknownTenant t), s, [⟨.findTenant t, none⟩]⟩
  /-- The attempt is about the registered schema, or one derived from the display name. -/
  found : ∀ record, faults .findTenant 0 = none → s.tenant? t = some record →
    FoundAccount ⟨t, m, (record.schemas.get m).getD (SchemaName.forTenant m t displayName), actor⟩
      faults s run

section Found

variable (hfind : faults .findTenant 0 = none) (hrow : s.tenant? new.tenant = some record)
  (hschema : schemaFor new.module record new.tenant displayName = new.schema)

include hfind hrow hschema

/-- An attempt that finds its tenant tries to add its row, and goes on either way. -/
theorem observe_attempt_begun :
    observe faults (attempt new.module owner new.tenant displayName new.actor) [] s =
      observe faults (create new.module owner new.tenant new.schema (begun faults new s).1)
        [⟨.findTenant new.tenant, none⟩, ⟨.insertAudit new, faults .insertAudit 0⟩]
        (begun faults new s).2 := by
  rw [attempt_eq, observe_applied hfind,
    show (s.apply (.findTenant new.tenant)).1 = some record from hrow, afterLookup, hschema,
    observe_ask rfl]
  rfl

/-- How an attempt ends whose schema is not created. -/
theorem observe_attempt_of_uncreated (he : faults .ensureSchema 0 = some e) :
    (observe faults (attempt new.module owner new.tenant displayName new.actor) [] s).result =
        .error (.schemaCreation new.tenant new.schema e
          (auditFailure (begun faults new s).1 new.tenant)) ∧
      (observe faults (attempt new.module owner new.tenant displayName new.actor) [] s).store =
        ((begun faults new s).2.answer (.updateAudit (failureTarget (begun faults new s).1
          new.tenant new.module) .failed (some e.message)) (faults .updateAudit 0)).2 := by
  rw [observe_attempt_begun hfind hrow hschema]
  exact observe_create_of_failed _ _ _ he

/-- An attempt whose schema is created goes on to register it, after one change to its own row. -/
theorem observe_attempt_created (hensure : faults .ensureSchema 0 = none) :
    ∃ made, observe faults (attempt new.module owner new.tenant displayName new.actor) [] s =
        observe faults (register new.module new.tenant new.schema (begun faults new s).1) made
          (created faults new s) ∧
      Made.count made .setModuleSchema = 0 ∧
      (faults .insertAudit 0 = none → Made.count made .updateAudit = 1) := by
  rw [observe_attempt_begun hfind hrow hschema]
  obtain ⟨made, hrun, hwrites, hmarks⟩ := observe_create_of_created
    [⟨.findTenant new.tenant, none⟩, ⟨.insertAudit new, faults .insertAudit 0⟩]
    (begun faults new s).1 (begun faults new s).2 hensure
  refine ⟨made, hrun, hwrites, fun hinsert => hmarks ?_⟩
  rw [begun, hinsert]
  rfl

/-- An attempt that finds its tenant accounts for what it does. -/
theorem foundAccount_attempt : FoundAccount new faults s
    (observe faults (attempt new.module owner new.tenant displayName new.actor) [] s) where
  uncreated e he := by
    obtain ⟨hresult, hstore⟩ := observe_attempt_of_uncreated hfind hrow hschema he
    -- whichever rows fail, the call is about the log alone
    have hsame := (sameBesideAudit_begun faults new s).trans
      ((begun faults new s).2.sameBesideAudit_answer
        (show (StoreCall.updateAudit (failureTarget (begun faults new s).1 new.tenant new.module)
          .failed (some e.message)).kind.isAudit = true from rfl) (faults .updateAudit 0))
    rw [hresult, hstore]
    refine ⟨⟨_, rfl⟩, hsame.tenants.symm, hsame.schemas.symm, fun hmarked => ?_, fun hmarked => ?_⟩
    · rw [hmarked]
      exact logs_failed faults new s e.message
    · obtain ⟨e', he'⟩ := Option.ne_none_iff_exists'.mp hmarked
      rw [he']
      exact logs_begun faults new s
  unregistered hensure hwrite := by
    obtain ⟨made, hrun, hwrites, -⟩ := observe_attempt_created hfind hrow hschema hensure
    rw [hrun]
    cases hfault : faults .setModuleSchema 0 with
    | none =>
      -- nobody removed the tenant's row since the lookup, so the write has one to change
      have hone : (s.apply (.setModuleSchema new.tenant new.module new.schema)).1 = 1 :=
        if_pos (by rw [hrow]; rfl)
      exact absurd ⟨hfault, by rw [hone]; exact Nat.one_ne_zero⟩ hwrite
    | some e =>
      obtain ⟨hresult, hstore⟩ := observe_register_of_failed (hwrites ▸ hfault)
      rw [hresult, hstore]
      exact ⟨⟨_, rfl⟩, tenants_created faults new s, fun _ => mem_schemas_created,
        logs_created faults new s⟩
  registered hensure hwrite := by
    obtain ⟨made, hrun, hwrites, hmarks⟩ := observe_attempt_created hfind hrow hschema hensure
    have hcreated : ((created faults new s).tenant? new.tenant).isSome = true := by
      rw [Store.tenant?, tenants_created]
      exact congrArg Option.isSome hrow
    obtain ⟨hresult, hstore⟩ := observe_register_of_written (hwrites ▸ hwrite.1) hcreated
    rw [hrun, hresult, hstore]
    -- the write leaves the log, and the mark that may follow it leaves everything else
    generalize hwritten : (created faults new s).setModuleSchema new.tenant new.module new.schema =
      written
    have hsame : written.SameBesideAudit _ := sameBesideAudit_marked (begun faults new s).1 .success
      (faults .updateAudit (Made.count made .updateAudit)) written
    have htenants : _ = (s.setModuleSchema new.tenant new.module new.schema).tenants :=
      hsame.tenants.symm.trans (hwritten ▸ tenants_setModuleSchema_created faults new s)
    have hlogs := ((logs_created faults new s).of_audits_eq
      (show written.audits = (created faults new s).audits from hwritten ▸ rfl)).marked .success
      (faults .updateAudit (Made.count made .updateAudit))
    refine ⟨rfl, ?_, htenants, fun name => ?_, fun hinsert => ?_, hlogs.others⟩
    · rw [Store.registered?, Store.tenant?, htenants]
      refine (s.registered?_setModuleSchema_self new.tenant new.module new.schema).trans ?_
      rw [if_pos (by rw [hrow]; rfl), ← hschema, nonBlank?_schemaFor]
    · rw [← hsame.schemas, ← hwritten]
      exact mem_schemas_created
    · rw [← hmarks hinsert]
      exact hlogs.own hinsert

end Found

/-- Each result of an attempt says what happened, whatever the stores and whichever calls fail. -/
theorem account_attempt (m : ServiceModule) (owner : String) (t : TenantId)
    (displayName : Option String) (actor : String) (faults : Faults) (s : Store) :
    Account m t displayName actor faults s
      (observe faults (attempt m owner t displayName actor) [] s) where
  unread e he := by rw [attempt_eq, observe_failed he]; rfl
  unknown hfind hrow := by
    rw [attempt_eq, observe_applied hfind, show (s.apply (.findTenant t)).1 = none from hrow]
    rfl
  found record hfind hrow := foundAccount_attempt hfind hrow rfl

/-- Where the write to the tenant's column fails, the schema is there and the attempt's row says so.
    -/
theorem account_attempt_unregistered :
    let faults : Faults := fun kind _ =>
      if kind = .setModuleSchema then some .poolTimedOut else none
    let s := Store.halfway .operations ⟨3⟩ "ops_old"
    let new : Audit.NewEntry :=
      ⟨⟨3⟩, .operations, SchemaName.forTenant .operations ⟨3⟩ (some "Globex"), "api"⟩
    let run := observe faults (attempt .operations "app" ⟨3⟩ (some "Globex") "api") [] s
    (∃ reason, run.result = .error (.registryUpdate ⟨3⟩ new.schema reason)) ∧
      run.store.tenants = s.tenants ∧ new.schema ∈ run.store.schemas ∧
      s.OwnRow new .schemaCreated none run.store := by
  intro faults s new run
  have hfound := (account_attempt .operations "app" ⟨3⟩ (some "Globex") "api" faults s).found
    (.unnamed .operations ⟨3⟩) rfl rfl
  obtain ⟨hresult, htenants, hschemas, hlogs⟩ := hfound.unregistered rfl fun h => nomatch h.1
  exact ⟨hresult, htenants, (hschemas _).mpr (.inr rfl), hlogs.own rfl⟩

end Provisioning

end Tenancy
