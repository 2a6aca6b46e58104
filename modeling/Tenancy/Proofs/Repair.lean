import Tenancy.Proofs.CleanPass
import Tenancy.Proofs.Resolution

/-!
# Repair of a registration that failed

An attempt that creates a schema and cannot register it leaves a row in the audit log. A pass in which
no call fails finishes what the attempt began, and so does the rest of an attempt in which no call
fails. Both finish it alike: `Store.Finished` says what either leaves of the tenant's row in the
registry, of its rows in the log and of the schemas, and whatever a pass does with the rows of other
tenants is not seen there.

## Key results

- `Reconciliation.entries_sameFor`: work on other tenants' rows leaves a tenant alone
- `Reconciliation.pass_finished`: a pass finishes the attempt of a tenant's newest row
- `Store.Finished.agreeFor`, `Store.Finished.tenant_ne_of_stalled`: what that determines
- `repaired_agrees_with_clean`: an attempt that cannot register, and the pass after it, end like an
  attempt that can
-/

namespace Tenancy

/-! ## Rows of the registry -/

/-- Two rows that name the same schema for a module and differ at most in the white space around that
    name and in the time of their last change. -/
structure TenantRecord.Agrees (m : ServiceModule) (r r' : TenantRecord) : Prop where
  schema : r'.schemas.get m = r.schemas.get m
  columns : ∀ k, k ≠ m → r'.schemas.column k = r.schemas.column k
  rest : r' = { r with schemas := r'.schemas, modifiedAt := r'.modifiedAt }

namespace TenantRecord

variable {m : ServiceModule} {r r' r'' : TenantRecord} {name : String}

theorem Agrees.symm (h : r.Agrees m r') : r'.Agrees m r where
  schema := h.schema.symm
  columns k hk := (h.columns k hk).symm
  rest := by rw [h.rest]

theorem Agrees.trans (h : r.Agrees m r') (h' : r'.Agrees m r'') : r.Agrees m r'' where
  schema := h'.schema.trans h.schema
  columns k hk := (h'.columns k hk).trans (h.columns k hk)
  rest := by rw [h'.rest, h.rest]

/-- Rows with the same name written at different times agree. -/
theorem agrees_withSchema (m : ServiceModule) (r : TenantRecord) (name : String)
    (now now' : Timestamp) : (r.withSchema m name now).Agrees m (r.withSchema m name now') where
  schema := rfl
  columns _ _ := rfl
  rest := rfl

/-- A row that names a schema agrees with the row after that name was written to it. -/
theorem agrees_of_get (hname : r.schemas.get m = some name) (now : Timestamp) :
    (r.withSchema m name now).Agrees m r where
  schema := by
    have hself := ModuleSchemas.get_set_self r.schemas m name
    rw [ModuleSchemas.nonBlank?_get hname] at hself
    exact hname.trans hself.symm
  columns k hk := (ModuleSchemas.column_set_of_ne r.schemas name hk).symm
  rest := rfl

end TenantRecord

namespace Store

variable {s s' s'' : Store} {m : ServiceModule} {t u : TenantId} {e : Audit.Entry}
  {cutoff : Timestamp}

/-! ## What concerns a tenant -/

/-- The rows of a tenant in the audit log, of whichever module. -/
def auditsFor (s : Store) (t : TenantId) : List Audit.Entry := s.audits.filter (·.tenant == t)

/-- Nothing that concerns a tenant differs. -/
structure SameFor (t : TenantId) (s s' : Store) : Prop where
  tenant : s'.tenant? t = s.tenant? t
  audits : s'.auditsFor t = s.auditsFor t
  schemas : s'.schemas = s.schemas

/-- What concerns a tenant differs at most in the white space around its name for a module, and in the
    time at which its row was changed last. -/
structure AgreeFor (m : ServiceModule) (t : TenantId) (s s' : Store) : Prop where
  row : ∃ r r', s.tenant? t = some r ∧ s'.tenant? t = some r' ∧ r.Agrees m r'
  audits : s'.auditsFor t = s.auditsFor t
  schemas : s'.schemas = s.schemas

theorem auditsFor_updateAudit (s : Store) (t : TenantId) (target : Audit.Target)
    (status : Audit.Status) (error : Option String) :
    (s.apply (.updateAudit target status error)).2.auditsFor t =
      (s.auditsFor t).map fun row => if target.covers row then row.mark status error else row := by
  simp only [apply, updateAudit, auditsFor, List.filter_map]
  congr 2
  funext row
  -- a row that is marked stays its tenant's
  simp only [Function.comp_apply]
  split <;> rfl

theorem Mended.exists_continues (h : s.Mended m s') (he : ∃ e' ∈ s.audits, e.Continues e') :
    ∃ e' ∈ s'.audits, e.Continues e' := by
  obtain ⟨e', he', hlater⟩ := he
  obtain ⟨e'', he'', hlater'⟩ := h.later e' he'
  exact ⟨e'', he'', hlater.trans hlater'⟩

namespace SameFor

theorem refl (t : TenantId) (s : Store) : s.SameFor t s := ⟨rfl, rfl, rfl⟩

theorem trans (h : s.SameFor t s') (h' : s'.SameFor t s'') : s.SameFor t s'' :=
  ⟨h'.tenant.trans h.tenant, h'.audits.trans h.audits, h'.schemas.trans h.schemas⟩

/-- A row of another tenant is marked. -/
theorem updateAudit (hs : s.Keyed) (he : ∃ e' ∈ s.audits, e.Continues e') (ht : e.tenant ≠ t)
    (status : Audit.Status) (error : Option String) :
    s.SameFor t (s.apply (.updateAudit (.entry e.id) status error)).2 where
  tenant := rfl
  audits := by
    obtain ⟨e', he', hlater⟩ := he
    rw [auditsFor_updateAudit]
    refine (List.map_congr_left fun row hrow => ?_).trans (List.map_id _)
    obtain ⟨hmem, htenant⟩ := List.mem_filter.mp hrow
    -- a row with that id would be the other tenant's
    refine if_neg fun hcovers => ht ?_
    have hid : row.id = e'.id := (beq_iff_eq.mp hcovers).trans hlater.id_eq.symm
    have hsame := hs.eq_of_id_eq hmem he' hid
    rw [← hlater.tenant_eq, ← hsame, beq_iff_eq.mp htenant]
  schemas := rfl

/-- The column of another tenant is written. -/
theorem setModuleSchema (m : ServiceModule) (schema : String) (hu : u ≠ t) :
    s.SameFor t (s.apply (.setModuleSchema u m schema)).2 where
  tenant := by
    refine (tenant?_setModuleSchema s u t m schema).trans ?_
    simp only [Ne.symm hu, if_false]
    exact Option.map_id'
  audits := rfl
  schemas := rfl

end SameFor

/-! ## Attempts that are finished -/

/-- Later stores, in which the attempt of a row is finished: as far as its tenant is concerned, its
    schema is registered, its row is marked as successful, and all else is as it was. -/
structure Finished (m : ServiceModule) (e : Audit.Entry) (s s' : Store) : Prop where
  row : ∃ r r', s.tenant? e.tenant = some r ∧ s'.tenant? e.tenant = some r' ∧
    ∀ now, (r.withSchema m e.schema now).Agrees m r'
  audits : s'.auditsFor e.tenant =
    (s.auditsFor e.tenant).map fun row => if row.id == e.id then row.mark .success none else row
  schemas : s'.schemas = s.schemas

namespace Finished

/-- A column is written and the row marked. -/
theorem of_write (m : ServiceModule) {r : TenantRecord} (hrow : s.tenant? e.tenant = some r) :
    s.Finished m e ((s.apply (.setModuleSchema e.tenant m e.schema)).2.apply
      (.updateAudit (.entry e.id) .success none)).2 where
  row := by
    refine ⟨r, r.withSchema m e.schema s.clock, hrow, ?_, fun now => r.agrees_withSchema m _ now _⟩
    refine (tenant?_setModuleSchema s e.tenant e.tenant m e.schema).trans ?_
    rw [hrow, Option.map_some, if_pos rfl]
  audits := auditsFor_updateAudit _ _ _ _ _
  schemas := rfl

/-- The row is marked where its schema is registered. -/
theorem of_registered {r : TenantRecord} (hrow : s.tenant? e.tenant = some r)
    (hname : s.registered? m e.tenant = some e.schema) :
    s.Finished m e (s.apply (.updateAudit (.entry e.id) .success none)).2 where
  row := ⟨r, r, hrow, hrow, TenantRecord.agrees_of_get ((registered?_of_tenant? hrow).symm.trans hname)⟩
  audits := auditsFor_updateAudit _ _ _ _ _
  schemas := rfl

theorem of_sameFor (h : s.Finished m e s') (hbefore : s''.SameFor e.tenant s) :
    s''.Finished m e s' where
  row := hbefore.tenant ▸ h.row
  audits := hbefore.audits ▸ h.audits
  schemas := h.schemas.trans hbefore.schemas

theorem trans_sameFor (h : s.Finished m e s') (hafter : s'.SameFor e.tenant s'') :
    s.Finished m e s'' where
  row := by
    obtain ⟨r, r', hr, hr', hagrees⟩ := h.row
    exact ⟨r, r', hr, hafter.tenant.trans hr', hagrees⟩
  audits := hafter.audits.trans h.audits
  schemas := hafter.schemas.trans h.schemas

/-- There is one way to finish an attempt, as far as its tenant is concerned. -/
theorem agreeFor (h : s.Finished m e s') (h' : s.Finished m e s'') :
    s'.AgreeFor m e.tenant s'' where
  row := by
    obtain ⟨r₁, r', hr₁, hr', hagrees⟩ := h.row
    obtain ⟨r₂, r'', hr₂, hr'', hagrees'⟩ := h'.row
    obtain rfl : r₁ = r₂ := Option.some.inj (hr₁.symm.trans hr₂)
    exact ⟨r', r'', hr', hr'', (hagrees (.ofNanos 0)).symm.trans (hagrees' (.ofNanos 0))⟩
  audits := h'.audits.trans h.audits.symm
  schemas := h'.schemas.trans h.schemas.symm

/-- The schema of a finished attempt is registered. -/
theorem get_eq (h : s.Finished m e s') (hname : Text.nonBlank? e.schema = some e.schema) :
    ∃ r r', s.tenant? e.tenant = some r ∧ s'.tenant? e.tenant = some r' ∧ r'.active = r.active ∧
      r'.schemas.get m = some e.schema := by
  obtain ⟨r, r', hr, hr', hagrees⟩ := h.row
  have hset := hagrees (.ofNanos 0)
  refine ⟨r, r', hr, hr', ?_, ?_⟩
  · rw [hset.rest]
    rfl
  · rw [hset.schema]
    exact (ModuleSchemas.get_set_self r.schemas m e.schema).trans hname

/-- A finished attempt whose row is its tenant's newest leaves no row of the tenant to a pass. -/
theorem tenant_ne_of_stalled (h : s.Finished m e s') (hnewest : e ∈ s.latestAudit e.tenant m)
    {row : Audit.Entry} (hrow : row ∈ s'.stalledAudits m cutoff) : row.tenant ≠ e.tenant := by
  intro htenant
  obtain ⟨hattempt, -, hnewest⟩ := of_mem_latestAudit hnewest
  -- the tenant's rows are the earlier ones, with the attempt's marked
  have hfor : ∀ other, other ∈ s'.audits ∧ other.tenant = e.tenant ↔ ∃ old ∈ s.auditsFor e.tenant,
      (if old.id == e.id then old.mark .success none else old) = other := by
    intro other
    rw [← List.mem_map, ← h.audits, auditsFor, List.mem_filter, beq_iff_eq]
  obtain ⟨old, hold, rfl⟩ := (hfor row).mp ⟨(mem_of_mem_stalledAudits hrow).1, htenant⟩
  obtain ⟨holdMem, holdTenant⟩ := List.mem_filter.mp hold
  by_cases hid : old.id = e.id
  · have hstatus := status_of_mem_stalledAudits hrow
    rw [if_pos (beq_iff_eq.mpr hid)] at hstatus
    cases hstatus
  · rw [if_neg (by simpa using hid)] at hrow
    have holdAttempt := mem_attemptsOf_of_mem_stalledAudits hrow
    -- of two rows that are each the newest, neither is older than the other
    have hnot := isNewestIn_iff.mp hnewest old
      ((mem_attemptsOf_iff_of_continues (.refl old) holdMem (mem_attemptsOf.mp holdAttempt).1).mp
        holdAttempt) (beq_iff_eq.mp holdTenant)
    have hmem := (mem_attemptsOf.mp hattempt).1
    have hmark : e.Continues (e.mark .success none) := .mark e .success none
    obtain ⟨hmarked, hmarkedTenant⟩ := (hfor (e.mark .success none)).mpr
      ⟨e, List.mem_filter.mpr ⟨hmem, beq_self_eq_true _⟩, by rw [beq_self_eq_true]; rfl⟩
    have hnot' := isNewestIn_iff.mp (isNewestIn_of_mem_stalledAudits hrow) (e.mark .success none)
      ((mem_attemptsOf_iff_of_continues hmark hmem hmarked).mpr hattempt)
      (hmarkedTenant.trans (beq_iff_eq.mp holdTenant).symm)
    rw [(Audit.Entry.Continues.refl old).isOlder_eq hmark] at hnot'
    exact hid (Audit.Entry.id_eq_of_isOlder_eq_false hnot' hnot)

end Finished

end Store

namespace Reconciliation

variable {m : ServiceModule} {s s' : Store} {t : TenantId} {cutoff : Timestamp} {e : Audit.Entry}

/-! ## A pass over the rows of many tenants -/

theorem Effect.keyed (h : Effect m e s s') (hs : s.Keyed) : s'.Keyed := by
  cases h with
  | missing hexists => exact hs.apply _
  | confirmed hname => exact hs.apply _
  | conflict name hname => exact hs
  | unknown hrow hnone => exact hs.apply _
  | repaired hexists hnone => exact (hs.apply _).apply _

/-- A row changes nothing that concerns a tenant other than its own. -/
theorem Effect.sameFor (h : Effect m e s s') (hs : s.Keyed)
    (he : ∃ e' ∈ s.audits, e.Continues e') (ht : e.tenant ≠ t) : s.SameFor t s' := by
  cases h with
  | missing hexists => exact .updateAudit hs he ht _ _
  | confirmed hname => exact .updateAudit hs he ht _ _
  | conflict name hname => exact .refl t s
  | unknown hrow hnone => exact .setModuleSchema m e.schema ht
  | repaired hexists hnone =>
    -- the log is as it was when the row is marked
    have he' : ∃ e' ∈ (s.apply (.setModuleSchema e.tenant m e.schema)).2.audits, e.Continues e' := he
    exact (Store.SameFor.setModuleSchema m e.schema ht).trans (.updateAudit (hs.apply _) he' ht _ _)

/-- Work on other tenants' rows leaves a tenant alone. -/
theorem entries_sameFor (hs : s.Keyed) {rows : List Audit.Entry}
    (hrows : ∀ row ∈ rows, ∃ e ∈ s.audits, row.Continues e)
    (hothers : ∀ row ∈ rows, row.tenant ≠ t) (report : Report) :
    s.SameFor t ((entries m rows report).runOn s).2 := by
  refine (entries_invariant (P := fun s' => s'.Keyed ∧ s.Mended m s' ∧ s.SameFor t s') rows ?_
    ⟨hs, .refl m s, .refl t s⟩ report).2.2
  rintro row hrow s₁ s₂ ⟨hkeyed, hmended, hsame⟩ heffect
  -- the row has a later form in the log by its turn
  have hlater := hmended.exists_continues (hrows row hrow)
  exact ⟨heffect.keyed hkeyed, hmended.trans heffect.mended,
    hsame.trans (heffect.sameFor hkeyed hlater (hothers row hrow))⟩

theorem entries_keyed (hs : s.Keyed) (rows : List Audit.Entry) (report : Report) :
    ((entries m rows report).runOn s).2.Keyed :=
  entries_invariant (P := Store.Keyed) rows (fun _ _ _ _ hkeyed heffect => heffect.keyed hkeyed) hs
    report

theorem entries_append (m : ServiceModule) (rows rows' : List Audit.Entry) (report : Report) :
    entries m (rows ++ rows') report = entries m rows report >>= entries m rows' := by
  induction rows generalizing report with
  | nil => rfl
  | cons row rows ih => simp only [List.cons_append, entries, bind_assoc, ih]

/-- The attempt of a row is finished by work on it, if its schema exists and no other is registered. -/
theorem entry_finished (hexists : e.schema ∈ s.schemas) (hrow : (s.tenant? e.tenant).isSome = true)
    (hname : ∀ name, s.registered? m e.tenant = some name → name = e.schema) :
    s.Finished m e ((entry m e).runOn s).2 := by
  obtain ⟨r, hr⟩ := Option.isSome_iff_exists.mp hrow
  rw [runOn_entry]
  cases hregistered : s.registered? m e.tenant with
  | none =>
    rw [verdict_eq_repaired_iff.mpr ⟨hexists, hregistered, hrow⟩]
    exact .of_write m hr
  | some name =>
    obtain rfl := hname name hregistered
    rw [verdict_eq_confirmed_iff.mpr ⟨hexists, hregistered⟩]
    exact .of_registered hr hregistered

/-- Of the rows that a pass finds, one is a tenant's, and the others are other tenants'. -/
theorem exists_stalledAudits_eq (hs : s.Keyed) (hfound : e ∈ s.stalledAudits m cutoff) :
    ∃ before after, s.stalledAudits m cutoff = before ++ e :: after ∧
      (∀ row ∈ before, row.tenant ≠ e.tenant) ∧ ∀ row ∈ after, row.tenant ≠ e.tenant := by
  obtain ⟨before, after, hrows⟩ := List.append_of_mem hfound
  have hnodup := hs.nodup_tenants_stalledAudits m cutoff
  rw [hrows, List.map_append, List.map_cons, List.nodup_append, List.nodup_cons] at hnodup
  obtain ⟨-, ⟨hafter, -⟩, hbefore⟩ := hnodup
  refine ⟨before, after, hrows, fun row hrow => ?_, fun row hrow htenant => ?_⟩
  · exact hbefore _ (List.mem_map_of_mem hrow) _ List.mem_cons_self
  · exact hafter (htenant ▸ List.mem_map_of_mem hrow)

/-- A pass in which no call fails finishes the attempt of a row that it finds, if the row's schema
    exists and the registry names no other for the tenant. -/
theorem pass_finished (hs : s.Keyed) (hfound : e ∈ s.stalledAudits m cutoff)
    (hexists : e.schema ∈ s.schemas) (hrow : (s.tenant? e.tenant).isSome = true)
    (hname : ∀ name, s.registered? m e.tenant = some name → name = e.schema) :
    s.Finished m e ((pass m cutoff).runOn s).2 := by
  obtain ⟨before, after, hrows, hbefore, hafter⟩ := exists_stalledAudits_eq hs hfound
  have hmem : ∀ row ∈ before ++ e :: after, ∃ row' ∈ s.audits, row.Continues row' := fun row hrow =>
    ⟨row, (Store.mem_of_mem_stalledAudits (hrows ▸ hrow)).1, .refl row⟩
  rw [runOn_pass, hrows, entries_append, runOn_bind]
  -- the rows that come first are other tenants'
  have hkeyed₁ := entries_keyed (m := m) hs before {}
  have hmended₁ := entries_mended m before {} s
  have hsame₁ : s.SameFor e.tenant _ :=
    entries_sameFor (m := m) hs (fun row hrow => hmem row (List.mem_append_left _ hrow)) hbefore {}
  generalize (entries m before {}).runOn s = first at hkeyed₁ hmended₁ hsame₁ ⊢
  obtain ⟨report, s₁⟩ := first
  dsimp only at hkeyed₁ hmended₁ hsame₁ ⊢
  rw [entries, runOn_bind]
  -- the row of the attempt, in its turn
  have hfinished : s₁.Finished m e ((entry m e).runOn s₁).2 := by
    refine entry_finished (hsame₁.schemas ▸ hexists) (hsame₁.tenant ▸ hrow) fun name hregistered => ?_
    refine hname name ?_
    rwa [Store.registered?, ← hsame₁.tenant]
  have hmended₂ := hmended₁.trans (effect_entry m e s₁).mended
  have hsame₂ := entries_sameFor (m := m) ((effect_entry m e s₁).keyed hkeyed₁)
    (fun row hrow => hmended₂.exists_continues
      (hmem row (List.mem_append_right _ (List.mem_cons_of_mem _ hrow)))) hafter
    (report.count ((entry m e).runOn s₁).1)
  exact (hfinished.of_sameFor hsame₁).trans_sameFor hsame₂

end Reconciliation

/-! ## Attempts that cannot register -/

namespace Provisioning

variable {m : ServiceModule} {s : Store} {t : TenantId} {displayName : Option String}
  {schema : String} {record : TenantRecord}

/-- No column of the registry can be written. -/
def refusingWrites (e : DbError) : StoreCall → Option DbError
  | .setModuleSchema .. => some e
  | _ => none

/-- What an attempt asks for before it registers its schema; its row gets the id `id`. -/
def callsBeforeRegistration (owner : String) (new : Audit.NewEntry) (id : Int) : List StoreCall :=
  [.insertAudit new, .ensureSchema new.tenant new.schema owner,
    .updateAudit (.entry id) .schemaCreated none]

/-- The row of an attempt that stopped before it registered its schema. -/
def haltedEntry (s : Store) (new : Audit.NewEntry) : Audit.Entry :=
  (s.newEntry new (s.lastAudit + 1)).mark .schemaCreated none

/-- An attempt for a tenant that has a row, where only the registration fails. -/
theorem runRefusing_attempt (owner actor : String) (e : DbError) (hrow : s.tenant? t = some record)
    (hschema : schemaFor m record t displayName = schema) :
    (attempt m owner t displayName actor).runRefusing (refusingWrites e) s =
      (.error (.registryUpdate t schema e.message),
        s.applyAll (callsBeforeRegistration owner ⟨t, m, schema, actor⟩ (s.lastAudit + 1))) := by
  have hanswer : s.apply (.findTenant t) = (some record, s) := by rw [Store.apply, hrow]
  rw [attempt, ask, Program.call_bind, StoreProgram.runRefusing]
  simp only [refusingWrites, hanswer]
  subst hschema
  rfl

private theorem tenant?_ensureSchema (s : Store) (u : TenantId) {owner : String} :
    (s.apply (.ensureSchema t schema owner)).2.tenant? u = s.tenant? u := by
  simp only [Store.apply, Store.addSchema]
  split <;> rfl

private theorem lastAudit_ensureSchema (s : Store) {owner : String} :
    (s.apply (.ensureSchema t schema owner)).2.lastAudit = s.lastAudit := by
  simp only [Store.apply, Store.addSchema]
  split <;> rfl

/-- A row after the calls before the registration is a later form of one before them, or of the row
    that the attempt begins with. -/
private theorem continues_of_mem_applyAll {owner : String} {new : Audit.NewEntry}
    {other : Audit.Entry} {id : Int}
    (h : other ∈ (s.applyAll (callsBeforeRegistration owner new id)).audits) :
    (∃ e ∈ s.audits, e.Continues other) ∨ (s.newEntry new (s.lastAudit + 1)).Continues other := by
  rcases Store.mem_audits_apply h with ⟨created, hcreated, hlater⟩ | ⟨_, hcall, -⟩
  swap
  · cases hcall
  rcases Store.mem_audits_apply hcreated with ⟨inserted, hinserted, hlater'⟩ | ⟨_, hcall, -⟩
  swap
  · cases hcall
  rcases Store.mem_audits_apply hinserted with ⟨e, he, hlater''⟩ | ⟨_, ⟨⟩, rfl⟩
  · exact .inl ⟨e, he, (hlater''.trans hlater').trans hlater⟩
  · exact .inr (hlater'.trans hlater)

/-- What stands in the stores after the calls before the registration. The attempt's row is the newest
    of its tenant unless one is dated after it. -/
theorem halted_applyAll (owner : String) (new : Audit.NewEntry) (hs : s.Keyed)
    (hpast : ∀ e ∈ s.attemptsOf new.module, e.tenant = new.tenant → e.createdAt ≤ s.clock) :
    let s' := s.applyAll (callsBeforeRegistration owner new (s.lastAudit + 1))
    s'.Keyed ∧ (∀ u, s'.tenant? u = s.tenant? u) ∧ new.schema ∈ s'.schemas ∧
      haltedEntry s new ∈ s'.latestAudit new.tenant new.module := by
  intro s'
  have hkeyed : s'.Keyed := ((hs.apply _).apply _).apply _
  have hmem : haltedEntry s new ∈ s'.audits := by
    -- the row is added, stays while the schema is created, and is marked
    have hinserted : s.newEntry new (s.lastAudit + 1) ∈ (s.apply (.insertAudit new)).2.audits :=
      List.mem_append_right _ List.mem_cons_self
    have hcreated := Store.mem_apply_of_ne (c := .ensureSchema new.tenant new.schema owner) nofun
      hinserted
    exact Store.mark_mem_apply hcreated (beq_self_eq_true _) _ _
  refine ⟨hkeyed, fun u => ?_, ?_, ?_⟩
  · exact tenant?_ensureSchema (s.apply (.insertAudit new)).2 u
  · exact Store.mem_schemas_apply.mpr (.inl (Store.mem_schemas_apply.mpr (.inr ⟨_, _, rfl⟩)))
  · refine hkeyed.mem_latestAudit_iff.mpr ⟨Store.mem_attemptsOf.mpr ⟨hmem, rfl, rfl⟩, rfl, ?_⟩
    refine Store.isNewestIn_iff.mpr fun other hother htenant => ?_
    have hotherMem := (Store.mem_attemptsOf.mp hother).1
    -- every attempt that is there is an earlier one's or the new one's, in a later form
    have hbefore : other.createdAt ≤ s.clock := by
      rcases continues_of_mem_applyAll hotherMem with ⟨old, hold, hlater⟩ | hlater
      · rw [hlater.createdAt_eq]
        exact hpast old ((Store.mem_attemptsOf_iff_of_continues hlater hold hotherMem).mp hother)
          (hlater.tenant_eq.symm.trans htenant)
      · exact le_of_eq hlater.createdAt_eq
    -- of rows of the same time, the one whose id was given last is the newest
    have hle := hkeyed.le_last other hotherMem
    rw [show s'.lastAudit = s.lastAudit + 1 from lastAudit_ensureSchema _] at hle
    exact Audit.Entry.isOlder_eq_false_iff.mpr (hbefore.lt_or_eq.imp_right fun hsame => ⟨hsame, hle⟩)

theorem runOn_registeredSchema (hrow : s.tenant? t = some record) (hactive : record.active = true)
    (hname : record.schemas.get m = some schema) :
    ((registeredSchema m t).runOn s).1 = .ok schema := by
  have hanswer : (s.apply (.findTenant t)).1 = some record := by rw [Store.apply, hrow]
  rw [registeredSchema_eq, runOn_ask, hanswer]
  show lookup t m (.ok (some record)) = _
  rw [lookup, if_pos hactive, hname]

end Provisioning

open Provisioning in
/-- An attempt where only the registration fails, and then a pass in which no call fails and whose
    cutoff the attempt's row is older than, leave what concerns the tenant as an attempt does in which
    no call fails, if no earlier attempt for the tenant is dated after it. The failed attempt names the
    schema that is registered in the end, and a further pass has no row of the tenant to look at. -/
theorem repaired_agrees_with_clean {s : Store} {m : ServiceModule} {t : TenantId}
    {record : TenantRecord} (owner actor : String) (displayName : Option String) (e : DbError)
    (now : Timestamp) (staleAfter : Duration) (hs : s.Keyed) (hrow : s.tenant? t = some record)
    (hpast : ∀ e ∈ s.attemptsOf m, e.tenant = t → e.createdAt ≤ s.clock)
    (hstale : s.clock < Reconciliation.cutoff now staleAfter) :
    let clean := (attempt m owner t displayName actor).runOn s
    let failed := (attempt m owner t displayName actor).runRefusing (refusingWrites e) s
    let repaired := ((Reconciliation.pass m (Reconciliation.cutoff now staleAfter)).runOn
      { failed.2 with clock := now }).2
    (∃ fails, (attempt m owner t displayName actor).runWith fails 0 s = failed) ∧
    ∃ schema, clean.1 = .ok schema ∧ failed.1 = .error (.registryUpdate t schema e.message) ∧
      clean.2.AgreeFor m t repaired ∧
      (record.active = true → ((registeredSchema m t).runOn repaired).1 = .ok schema) ∧
      ∀ cutoff, ∀ row ∈ repaired.stalledAudits m cutoff, row.tenant ≠ t := by
  have hrun := exists_runWith_eq_runRefusing (refusingWrites e)
    (attempt m owner t displayName actor) 0 s
  obtain ⟨schema, hschema⟩ : ∃ schema, schemaFor m record t displayName = schema := ⟨_, rfl⟩
  have hfailed := runRefusing_attempt owner actor e hrow hschema
  have hclean := runOn_attempt owner actor hrow hschema
  obtain ⟨hkeyed, htenants, hexists, hnewest⟩ :=
    halted_applyAll owner ⟨t, m, schema, actor⟩ hs hpast
  -- an attempt in which no call fails goes on where the other one stopped
  rw [show s.applyAll _ = (s.applyAll (callsBeforeRegistration owner ⟨t, m, schema, actor⟩
    (s.lastAudit + 1))).applyAll [.setModuleSchema t m schema,
      .updateAudit (.entry (s.lastAudit + 1)) .success none] from rfl] at hclean
  generalize s.applyAll (callsBeforeRegistration owner ⟨t, m, schema, actor⟩ (s.lastAudit + 1)) =
    halted at hfailed hclean hkeyed htenants hexists hnewest
  have hhalted : halted.tenant? t = some record := (htenants t).trans hrow
  rw [hfailed] at hrun
  rw [hclean, hfailed]
  intro clean failed repaired
  have hfinished : halted.Finished m (haltedEntry s ⟨t, m, schema, actor⟩) clean.2 :=
    .of_write m hhalted
  have hrepaired : halted.Finished m (haltedEntry s ⟨t, m, schema, actor⟩) repaired := by
    have hname : ∀ name, halted.registered? m t = some name → name = schema := by
      intro name hregistered
      rw [Store.registered?_of_tenant? hhalted] at hregistered
      exact (schemaFor_of_get hregistered t displayName).symm.trans hschema
    have hfound : haltedEntry s ⟨t, m, schema, actor⟩ ∈
        halted.stalledAudits m (Reconciliation.cutoff now staleAfter) :=
      hkeyed.mem_stalledAudits_iff.mpr ⟨hnewest, rfl, hstale⟩
    -- the time does not matter for what is found
    have hpass := Reconciliation.pass_finished (s := { halted with clock := now })
      ⟨hkeyed.nodup, hkeyed.le_last⟩ hfound hexists
      (Option.isSome_iff_exists.mpr ⟨record, hhalted⟩) hname
    exact hpass.of_sameFor ⟨rfl, rfl, rfl⟩
  refine ⟨hrun, schema, rfl, rfl, hfinished.agreeFor hrepaired, fun hactive => ?_,
    fun cutoff row hfound => hrepaired.tenant_ne_of_stalled hnewest hfound⟩
  have htrimmed : Text.nonBlank? schema = some schema := by
    rw [← hschema]
    exact nonBlank?_schemaFor m record t displayName
  obtain ⟨r, r', hr, hr', hsame, hget⟩ := hrepaired.get_eq htrimmed
  obtain rfl := Option.some.inj (hr.symm.trans hhalted)
  exact runOn_registeredSchema hr' (hsame.trans hactive) hget

/-- Two tenants: one with white space around its registered name and an attempt that failed, one whose
    last attempt stopped halfway. -/
def Store.padded : Store where
  tenants :=
    [{ TenantRecord.unnamed .operations ⟨3⟩ with schemas := { operations := some " ops_main  " } },
      .unnamed .operations ⟨4⟩]
  audits :=
    [{ id := 1, tenant := ⟨3⟩, moduleName := ServiceModule.operations.name
       action := Audit.provisionAction, schema := "ops_main", status := .failed
       error := some "connection reset", actor := some "api", createdAt := .ofNanos 0 },
      { id := 2, tenant := ⟨4⟩, moduleName := ServiceModule.operations.name
        action := Audit.provisionAction, schema := "ops_acme", status := .schemaCreated
        error := none, actor := none, createdAt := .ofNanos 0 }]
  lastAudit := 2
  schemas := ["ops_acme"]
  clock := .ofNanos 1

/-- The name with the white space is used again, and an hour later a pass with the default age repairs
    both attempts. -/
theorem repaired_agrees_with_clean_padded :
    let s := Store.padded
    let failed := (Provisioning.attempt .operations "app" ⟨3⟩ (some "Globex") "api").runRefusing
      (Provisioning.refusingWrites .poolTimedOut) s
    let repaired := ((Reconciliation.pass .operations
      (Reconciliation.cutoff (.ofNanos 3600000000000) (.ofSecs 600))).runOn
        { failed.2 with clock := .ofNanos 3600000000000 }).2
    s.Keyed ∧ (s.tenant? ⟨3⟩).isSome = true ∧
      (∀ e ∈ s.attemptsOf .operations, e.tenant = ⟨3⟩ → e.createdAt ≤ s.clock) ∧
      s.clock < Reconciliation.cutoff (.ofNanos 3600000000000) (.ofSecs 600) ∧
      ((Provisioning.attempt .operations "app" ⟨3⟩ (some "Globex") "api").runOn s).2.AgreeFor
        .operations ⟨3⟩ repaired ∧
      ((Provisioning.registeredSchema .operations ⟨3⟩).runOn repaired).1 = .ok "ops_main" := by
  intro s failed repaired
  have hkeyed : s.Keyed := ⟨by decide, by decide⟩
  have hpast : ∀ e ∈ s.attemptsOf .operations, e.tenant = ⟨3⟩ → e.createdAt ≤ s.clock := by decide
  have hstale : s.clock < Reconciliation.cutoff (.ofNanos 3600000000000) (.ofSecs 600) := by decide
  obtain ⟨-, schema, hclean, -, hagree, hregistered, -⟩ :=
    repaired_agrees_with_clean "app" "api" (some "Globex") .poolTimedOut (.ofNanos 3600000000000)
      (.ofSecs 600) (m := .operations) (t := ⟨3⟩) hkeyed rfl hpast hstale
  have hschema : schema = "ops_main" := by
    have hrow : s.tenant? ⟨3⟩ = some { TenantRecord.unnamed .operations ⟨3⟩ with
        schemas := { operations := some " ops_main  " } } := rfl
    have hname : Provisioning.schemaFor .operations { TenantRecord.unnamed .operations ⟨3⟩ with
        schemas := { operations := some " ops_main  " } } ⟨3⟩ (some "Globex") = "ops_main" := by
      decide
    rw [Provisioning.runOn_attempt "app" "api" hrow hname] at hclean
    exact (Except.ok.inj hclean).symm
  exact ⟨hkeyed, rfl, hpast, hstale, hagree, hschema ▸ hregistered rfl⟩

end Tenancy
