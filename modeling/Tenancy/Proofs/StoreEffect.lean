import Mathlib.Data.List.Nodup
import Tenancy.Proofs.Trim
import Tenancy.Store.Memory

/-!
# What store calls change

A call changes little of the stores: only `setModuleSchema` changes a registered name, only
`ensureSchema` adds a schema, and the audit log only grows, by one row at a time, while the rows in
it keep everything but their status and error text. Proofs about programs use these facts and never
look into `Store.apply`.

## Key results

- `registered?_apply`: a registered name changes by a write to its tenant and module alone
- `mem_schemas_apply`: which schemas exist after a call
- `mem_audits_apply` / `exists_continues_apply`: where the rows after a call come from, and what
  becomes of those before it
- `Keyed.apply`: ids stay a key of the audit log
-/

namespace Tenancy

/-- A later form of a row of the audit log: all but its status and error text is as it was. -/
def Audit.Entry.Continues (e e' : Audit.Entry) : Prop :=
  ∃ status error, e' = { e with status, error }

namespace Audit.Entry.Continues

variable {e e' e'' : Audit.Entry}

theorem refl (e : Audit.Entry) : e.Continues e := ⟨e.status, e.error, rfl⟩

theorem mark (e : Audit.Entry) (status : Status) (error : Option String) :
    e.Continues (e.mark status error) := ⟨_, _, rfl⟩

theorem trans (h : e.Continues e') (h' : e'.Continues e'') : e.Continues e'' := by
  obtain ⟨_, _, rfl⟩ := h
  obtain ⟨status, error, rfl⟩ := h'
  exact ⟨status, error, rfl⟩

theorem id_eq (h : e.Continues e') : e'.id = e.id := by obtain ⟨_, _, rfl⟩ := h; rfl

theorem tenant_eq (h : e.Continues e') : e'.tenant = e.tenant := by
  obtain ⟨_, _, rfl⟩ := h; rfl

theorem moduleName_eq (h : e.Continues e') : e'.moduleName = e.moduleName := by
  obtain ⟨_, _, rfl⟩ := h; rfl

theorem schema_eq (h : e.Continues e') : e'.schema = e.schema := by
  obtain ⟨_, _, rfl⟩ := h; rfl

theorem action_eq (h : e.Continues e') : e'.action = e.action := by
  obtain ⟨_, _, rfl⟩ := h; rfl

theorem createdAt_eq (h : e.Continues e') : e'.createdAt = e.createdAt := by
  obtain ⟨_, _, rfl⟩ := h; rfl

end Audit.Entry.Continues

/-- What a change of status makes of a row. -/
def Audit.Target.update (target : Target) (status : Status) (error : Option String) (e : Entry) :
    Entry :=
  if target.covers e then e.mark status error else e

theorem Audit.Target.continues_update (target : Target) (status : Status) (error : Option String)
    (e : Entry) : e.Continues (target.update status error e) := by
  unfold update
  split
  · exact .mark e status error
  · exact .refl e

/-- What a write to a tenant's column makes of a row of the registry. -/
def TenantRecord.write (t : TenantId) (m : ServiceModule) (schema : String) (now : Timestamp)
    (r : TenantRecord) : TenantRecord :=
  if r.tenant == t then r.withSchema m schema now else r

namespace Store

variable {s : Store} {m : ServiceModule} {t u : TenantId} {schema : String} {e : Audit.Entry}

/-- The name registered for a tenant and module: its column without surrounding white space, where
    that is not blank. -/
def registered? (s : Store) (m : ServiceModule) (t : TenantId) : Option String :=
  (s.tenant? t).bind fun r => r.schemas.get m

/-- A registered name is read back unchanged when it is written again. -/
theorem nonBlank?_registered? {name : String} (h : s.registered? m t = some name) :
    Text.nonBlank? name = some name := by
  obtain ⟨r, -, hr⟩ := Option.bind_eq_some_iff.mp h
  exact ModuleSchemas.nonBlank?_get hr

/-- What a tenant's row says is registered. -/
theorem registered?_of_tenant? {r : TenantRecord} (h : s.tenant? t = some r) :
    s.registered? m t = r.schemas.get m := by
  rw [registered?, h, Option.bind_some]

/-- A tenant with a registered name has a row. -/
theorem isSome_tenant?_of_registered? {name : String} (h : s.registered? m t = some name) :
    (s.tenant? t).isSome = true := by
  obtain ⟨r, hr, -⟩ := Option.bind_eq_some_iff.mp h
  rw [hr, Option.isSome_some]

/-! ## The registry's rows -/

theorem setModuleSchema_eq (s : Store) (t : TenantId) (m : ServiceModule) (schema : String) :
    s.setModuleSchema t m schema =
      { s with tenants := s.tenants.map (TenantRecord.write t m schema s.clock) } := rfl

/-- A write to one tenant's column changes that tenant's row only, and adds none. -/
theorem tenant?_setModuleSchema (s : Store) (t u : TenantId) (m : ServiceModule)
    (schema : String) :
    (s.setModuleSchema t m schema).tenant? u =
      (s.tenant? u).map fun r => if u = t then r.withSchema m schema s.clock else r := by
  unfold tenant? setModuleSchema
  rw [List.find?_map]
  have hkeys : ((fun r : TenantRecord => r.tenant == u) ∘ fun r =>
      if r.tenant == t then r.withSchema m schema s.clock else r) = fun r => r.tenant == u := by
    funext r
    by_cases hr : r.tenant = t <;> simp [hr, TenantRecord.withSchema]
  rw [hkeys]
  cases hrow : s.tenants.find? fun r => r.tenant == u with
  | none => rfl
  | some r =>
    have hr : r.tenant = u := by simpa using List.find?_some hrow
    simp [hr]

/-- A write for a tenant without a row changes nothing. -/
theorem setModuleSchema_of_isNone (hnone : (s.tenant? t).isSome = false) (m : ServiceModule)
    (schema : String) : s.setModuleSchema t m schema = s := by
  have hothers : ∀ r ∈ s.tenants, ¬(r.tenant == t) = true := by
    intro r hr htenant
    have hsome : (s.tenants.find? (·.tenant == t)).isSome = true :=
      List.find?_isSome.mpr ⟨r, hr, htenant⟩
    rw [tenant?, hsome] at hnone
    cases hnone
  have hsame : s.tenants.map (TenantRecord.write t m schema s.clock) = s.tenants :=
    (List.map_congr_left fun r hr => if_neg (hothers r hr)).trans (List.map_id _)
  rw [setModuleSchema_eq, hsame]

/-- The name registered by a write is the text written, trimmed. -/
theorem registered?_setModuleSchema_self (s : Store) (t : TenantId) (m : ServiceModule)
    (schema : String) :
    (s.setModuleSchema t m schema).registered? m t =
      if (s.tenant? t).isSome then Text.nonBlank? schema else none := by
  unfold registered?
  rw [tenant?_setModuleSchema]
  cases s.tenant? t with
  | none => rfl
  | some r => simp [TenantRecord.withSchema, ModuleSchemas.get_set_self]

/-- A write to another tenant or module leaves a registered name. -/
theorem registered?_setModuleSchema_of_ne (s : Store) {t u : TenantId} {m k : ServiceModule}
    (schema : String) (h : ¬(u = t ∧ k = m)) :
    (s.setModuleSchema t m schema).registered? k u = s.registered? k u := by
  unfold registered?
  rw [tenant?_setModuleSchema]
  cases s.tenant? u with
  | none => rfl
  | some r =>
    by_cases hu : u = t
    · have hk : k ≠ m := fun hk => h ⟨hu, hk⟩
      simp [hu, TenantRecord.withSchema, ModuleSchemas.get_set_of_ne _ _ hk]
    · simp [hu]

/-- A registered name changes by a write to its tenant and module alone; then it is the text that
    was written, trimmed, and the tenant has a row. -/
theorem registered?_apply (s : Store) (c : StoreCall) (m : ServiceModule) (t : TenantId) :
    (s.apply c).2.registered? m t = s.registered? m t ∨
      ∃ schema, c = .setModuleSchema t m schema ∧ (s.tenant? t).isSome ∧
        (s.apply c).2.registered? m t = Text.nonBlank? schema := by
  cases c with
  | setModuleSchema u k schema =>
    by_cases h : t = u ∧ m = k
    · obtain ⟨rfl, rfl⟩ := h
      have hself := registered?_setModuleSchema_self s t m schema
      cases hrow : s.tenant? t with
      | none =>
        left
        simpa [apply, registered?, hrow] using hself
      | some r =>
        right
        exact ⟨schema, rfl, rfl, by simpa [apply, hrow] using hself⟩
    · exact .inl (registered?_setModuleSchema_of_ne s schema h)
  | ensureSchema u schema owner =>
    left
    simp only [apply, addSchema]
    split <;> rfl
  | _ => exact .inl rfl

/-- A call other than a write to a tenant's column leaves the tenant's registered name. -/
theorem registered?_apply_of_ne (s : Store) {c : StoreCall}
    (h : ∀ schema, c ≠ .setModuleSchema t m schema) :
    (s.apply c).2.registered? m t = s.registered? m t := by
  cases registered?_apply s c m t with
  | inl hsame => exact hsame
  | inr hwrite =>
    obtain ⟨schema, hc, -⟩ := hwrite
    exact absurd hc (h schema)

theorem registered?_updateAudit (s : Store) (m : ServiceModule) (t : TenantId)
    (target : Audit.Target) (status : Audit.Status) (error : Option String) :
    (s.apply (.updateAudit target status error)).2.registered? m t = s.registered? m t := rfl

/-- A registered name stays in a call that writes no other to its column. -/
theorem registered?_apply_of_reuse {c : StoreCall} {name : String}
    (h : ∀ schema, c = .setModuleSchema t m schema →
      Text.nonBlank? schema = some schema ∧ ∀ name, s.registered? m t = some name → name = schema)
    (hname : s.registered? m t = some name) : (s.apply c).2.registered? m t = some name := by
  rcases registered?_apply s c m t with hsame | ⟨schema, rfl, -, hwritten⟩
  · rw [hsame, hname]
  · obtain ⟨htrimmed, hreuse⟩ := h schema rfl
    rw [hwritten, htrimmed, hreuse name hname]

/-- A write that changed a row registers what it wrote. -/
theorem registered?_of_rows {rows : Nat} (h : (s.apply (.setModuleSchema t m schema)).1 = rows + 1)
    (htrimmed : Text.nonBlank? schema = some schema) :
    (s.apply (.setModuleSchema t m schema)).2.registered? m t = some schema := by
  have hrow : (s.tenant? t).isSome = true := by
    by_contra hnone
    simp [apply, hnone] at h
  exact (registered?_setModuleSchema_self s t m schema).trans (by rw [if_pos hrow, htrimmed])

/-- No call adds or removes a row of the registry. -/
theorem isSome_tenant?_apply (s : Store) (c : StoreCall) (t : TenantId) :
    ((s.apply c).2.tenant? t).isSome = (s.tenant? t).isSome := by
  cases c with
  | setModuleSchema u k schema => simp [apply, tenant?_setModuleSchema]
  | ensureSchema u schema owner =>
    simp only [apply, addSchema]
    split <;> rfl
  | _ => rfl

/-! ## Schemas -/

theorem mem_addSchema {name : String} :
    name ∈ (s.addSchema schema).schemas ↔ name ∈ s.schemas ∨ name = schema := by
  unfold addSchema
  split <;> simp_all

/-- The schemas after a call: those before it, and the one that it creates. -/
theorem mem_schemas_apply {c : StoreCall} {name : String} :
    name ∈ (s.apply c).2.schemas ↔
      name ∈ s.schemas ∨ ∃ t owner, c = .ensureSchema t name owner := by
  cases c with
  | ensureSchema t schema owner => simp [apply, mem_addSchema, eq_comm]
  | _ => simp [apply, setModuleSchema, appendAudit, updateAudit]

theorem schemas_subset_apply (s : Store) (c : StoreCall) : s.schemas ⊆ (s.apply c).2.schemas :=
  fun _ h => mem_schemas_apply.mpr (.inl h)

/-! ## The audit log -/

/-- A row after a call was there before it, or the call marked or added it. -/
theorem mem_apply_cases {c : StoreCall} {e' : Audit.Entry} (h : e' ∈ (s.apply c).2.audits) :
    e' ∈ s.audits ∨
      (∃ e ∈ s.audits, ∃ target status error, c = .updateAudit target status error ∧
        target.covers e = true ∧ e' = e.mark status error) ∨
      ∃ new, c = .insertAudit new ∧ e' = s.newEntry new (s.lastAudit + 1) := by
  cases c with
  | insertAudit new =>
    simp only [apply, appendAudit, List.mem_append, List.mem_singleton] at h
    cases h with
    | inl hold => exact .inl hold
    | inr hnew => exact .inr (.inr ⟨new, rfl, hnew⟩)
  | updateAudit target status error =>
    simp only [apply, updateAudit, List.mem_map] at h
    obtain ⟨e, he, rfl⟩ := h
    split
    · next hcovers => exact .inr (.inl ⟨e, he, target, status, error, rfl, hcovers, rfl⟩)
    · exact .inl he
  | ensureSchema t schema owner =>
    simp only [apply, addSchema] at h
    split at h <;> exact .inl h
  | _ => exact .inl h

/-- A row before a call is there after it, or the call marks it. -/
theorem mem_apply_or_mark (c : StoreCall) {e : Audit.Entry} (h : e ∈ s.audits) :
    e ∈ (s.apply c).2.audits ∨
      ∃ target status error, c = .updateAudit target status error ∧ target.covers e = true ∧
        e.mark status error ∈ (s.apply c).2.audits := by
  cases c with
  | insertAudit new => exact .inl (List.mem_append_left _ h)
  | updateAudit target status error =>
    have hmem := List.mem_map_of_mem
      (f := fun e => if target.covers e then e.mark status error else e) h
    by_cases hcovers : target.covers e = true
    · rw [if_pos hcovers] at hmem
      exact .inr ⟨target, status, error, rfl, hcovers, hmem⟩
    · rw [if_neg hcovers] at hmem
      exact .inl hmem
  | ensureSchema t schema owner =>
    left
    simp only [apply, addSchema]
    split <;> exact h
  | _ => exact .inl h

/-- A row stays as it is in a call that changes no status. -/
theorem mem_apply_of_ne {c : StoreCall} {e : Audit.Entry}
    (hc : ∀ target status error, c ≠ .updateAudit target status error) (h : e ∈ s.audits) :
    e ∈ (s.apply c).2.audits := by
  rcases mem_apply_or_mark c h with hsame | ⟨target, status, error, hupdate, -⟩
  · exact hsame
  · exact absurd hupdate (hc target status error)

/-- A row that a change of status applies to is marked. -/
theorem mark_mem_apply {target : Audit.Target} {e : Audit.Entry} (h : e ∈ s.audits)
    (hcovers : target.covers e = true) (status : Audit.Status) (error : Option String) :
    e.mark status error ∈ (s.apply (.updateAudit target status error)).2.audits :=
  List.mem_map.mpr ⟨e, h, if_pos hcovers⟩

/-- A row after a call is a later form of one before it, or the row that the call adds. -/
theorem mem_audits_apply {c : StoreCall} {e' : Audit.Entry} (h : e' ∈ (s.apply c).2.audits) :
    (∃ e ∈ s.audits, e.Continues e') ∨
      ∃ new, c = .insertAudit new ∧ e' = s.newEntry new (s.lastAudit + 1) := by
  rcases mem_apply_cases h with hold | ⟨e, he, _, status, error, -, -, rfl⟩ | hnew
  · exact .inl ⟨e', hold, .refl e'⟩
  · exact .inl ⟨e, he, .mark e status error⟩
  · exact .inr hnew

/-- Every row before a call has a later form after it. -/
theorem exists_continues_apply (c : StoreCall) {e : Audit.Entry} (h : e ∈ s.audits) :
    ∃ e' ∈ (s.apply c).2.audits, e.Continues e' := by
  rcases mem_apply_or_mark c h with hsame | ⟨_, status, error, -, -, hmem⟩
  · exact ⟨e, hsame, .refl e⟩
  · exact ⟨_, hmem, .mark e status error⟩

theorem updateAudit_eq (s : Store) (target : Audit.Target) (status : Audit.Status)
    (error : Option String) :
    s.updateAudit target status error =
      { s with audits := s.audits.map (target.update status error) } := rfl

theorem mem_auditsOf : e ∈ s.auditsOf m ↔ e ∈ s.audits ∧ e.moduleName = m.name := by
  simp [auditsOf]

theorem auditsOf_updateAudit (s : Store) (m : ServiceModule) (target : Audit.Target)
    (status : Audit.Status) (error : Option String) :
    (s.updateAudit target status error).auditsOf m =
      (s.auditsOf m).map (target.update status error) := by
  rw [updateAudit_eq, auditsOf, List.filter_map, auditsOf]
  congr 2
  funext e
  rw [Function.comp_apply, (target.continues_update status error e).moduleName_eq]

/-- The log is a table that numbers its rows: no two share an id, and none is above the id given
    last. -/
structure Keyed (s : Store) : Prop where
  nodup : (s.audits.map (·.id)).Nodup
  le_last : ∀ e ∈ s.audits, e.id ≤ s.lastAudit

/-- Rows with the same id are the same row. -/
theorem Keyed.eq_of_id_eq (h : s.Keyed) {e e' : Audit.Entry} (he : e ∈ s.audits)
    (he' : e' ∈ s.audits) (hid : e.id = e'.id) : e = e' :=
  List.inj_on_of_nodup_map h.nodup he he' hid

/-- Ids stay a key of the audit log. -/
theorem Keyed.apply (h : s.Keyed) (c : StoreCall) : (s.apply c).2.Keyed := by
  cases c with
  | insertAudit new =>
    constructor
    · simp only [Store.apply, appendAudit, newEntry, List.map_append, List.map_cons, List.map_nil]
      refine List.nodup_append.mpr ⟨h.nodup, List.nodup_singleton _, ?_⟩
      intro id hold id' hnew
      obtain ⟨e, he, rfl⟩ := List.mem_map.mp hold
      rw [List.mem_singleton.mp hnew]
      have hle := h.le_last e he
      omega
    · intro e he
      simp only [Store.apply, appendAudit, List.mem_append, List.mem_singleton] at he ⊢
      cases he with
      | inl hold => have hle := h.le_last e hold; omega
      | inr hnew => simp [hnew, newEntry]
  | updateAudit target status error =>
    have hids : (fun e : Audit.Entry => e.id) ∘ target.update status error = fun e => e.id :=
      funext fun e => (target.continues_update status error e).id_eq
    constructor
    · rw [Store.apply, updateAudit_eq, List.map_map, hids]
      exact h.nodup
    · intro e' he'
      obtain ⟨e, he, rfl⟩ := List.mem_map.mp he'
      exact (congrFun hids e).trans_le (h.le_last e he)
  | ensureSchema t schema owner =>
    simp only [Store.apply, addSchema]
    split <;> exact ⟨h.nodup, h.le_last⟩
  | _ => exact ⟨h.nodup, h.le_last⟩

/-- Ids are given out in ascending order. -/
theorem lastAudit_le_apply (s : Store) (c : StoreCall) :
    s.lastAudit ≤ (s.apply c).2.lastAudit := by
  cases c with
  | insertAudit new =>
    simp only [apply, appendAudit]
    omega
  | ensureSchema t schema owner =>
    simp only [apply, addSchema]
    split <;> exact Int.le_refl _
  | _ => exact Int.le_refl _

theorem keyed_of_audits_eq_nil (h : s.audits = []) : s.Keyed := by
  constructor <;> simp [h]

/-! ## Small stores -/

end Store

/-- The row of a tenant for which nothing is registered. -/
def TenantRecord.unnamed (m : ServiceModule) (t : TenantId) : TenantRecord where
  tenant := t
  slug := ""
  displayName := ""
  contactEmail := none
  active := true
  modules := [m.name]
  schemas := {}
  modifiedAt := none

namespace Store

theorem registered?_eq_none {s : Store} {m : ServiceModule} {t : TenantId}
    (h : ∀ r ∈ s.tenants, r.schemas = {}) : s.registered? m t = none := by
  unfold registered?
  cases hrow : s.tenant? t with
  | none => rfl
  | some r =>
    rw [Option.bind_some, h r (List.mem_of_find?_eq_some hrow)]
    cases m <;> rfl

/-- One tenant, whose last attempt created a schema and stopped before it registered it. -/
def halfway (m : ServiceModule) (t : TenantId) (schema : String) : Store where
  tenants := [.unnamed m t]
  audits :=
    [{ id := 1, tenant := t, moduleName := m.name, action := Audit.provisionAction, schema
       status := .schemaCreated, error := none, actor := none, createdAt := .ofNanos 0 }]
  lastAudit := 1
  schemas := [schema]
  clock := .ofNanos 1

end Store

end Tenancy
