import Tenancy.Proofs.LoneTask
import Tenancy.Proofs.Naming
import Tenancy.Proofs.RowWork
import Tenancy.Proofs.SchemaName

/-!
# Passes in which no call fails

A tenant is stuck when the registry names no schema for it, although an attempt created one, stopped
before it was registered, and the schema is there. A pass looks at the newest attempt for each tenant,
the one created last, and at no other row. So when no call of a pass fails, it registers a schema for every
tenant whose newest row is that of such an attempt, and it leaves a tenant stuck if a later attempt
added a row on top.

## Key results

- `Reconciliation.effect_entry`: what a pass does with one row
- `Reconciliation.pass_mended`, `Reconciliation.stuck_pass_iff`: what it keeps, and which tenants it
  leaves stuck
- `stuck_after_clean_pass`: the same of a pass after any run
- `not_forall_not_stuck`: some tenants are left stuck
-/

namespace Tenancy

namespace Store

variable {s s' s'' : Store} {m : ServiceModule} {t : TenantId} {cutoff : Timestamp}
  {e : Audit.Entry}

/-! ## Stuck tenants -/

/-- The row of an attempt that began before a cutoff and stopped between the creation of its schema,
    which exists, and its registration. -/
def Halted (s : Store) (cutoff : Timestamp) (e : Audit.Entry) : Prop :=
  e.status = .schemaCreated ∧ e.createdAt < cutoff ∧ e.schema ∈ s.schemas

/-- A tenant has a row in the registry, which names no schema for a module. -/
def Unregistered (s : Store) (m : ServiceModule) (t : TenantId) : Prop :=
  (s.tenant? t).isSome = true ∧ s.registered? m t = none

/-- A tenant without a registered schema, for which an attempt halted. -/
def Stuck (s : Store) (m : ServiceModule) (cutoff : Timestamp) (t : TenantId) : Prop :=
  s.Unregistered m t ∧ ∃ e ∈ s.auditsOf m, e.tenant = t ∧ s.Halted cutoff e

/-- The newest row of a tenant is that of an attempt that halted. -/
def NewestHalted (s : Store) (m : ServiceModule) (cutoff : Timestamp) (t : TenantId) : Prop :=
  ∃ e ∈ s.latestAudit t m, s.Halted cutoff e

instance (s : Store) (cutoff : Timestamp) (e : Audit.Entry) : Decidable (s.Halted cutoff e) :=
  inferInstanceAs (Decidable (_ ∧ _ ∧ _))

instance (s : Store) (m : ServiceModule) (t : TenantId) : Decidable (s.Unregistered m t) :=
  inferInstanceAs (Decidable (_ ∧ _))

instance (s : Store) (m : ServiceModule) (cutoff : Timestamp) (t : TenantId) :
    Decidable (s.Stuck m cutoff t) :=
  inferInstanceAs (Decidable (_ ∧ _))

instance (s : Store) (m : ServiceModule) (cutoff : Timestamp) (t : TenantId) :
    Decidable (s.NewestHalted m cutoff t) :=
  inferInstanceAs (Decidable (∃ e ∈ s.latestAudit t m, s.Halted cutoff e))

theorem NewestHalted.stuck (h : s.NewestHalted m cutoff t) (hunregistered : s.Unregistered m t) :
    s.Stuck m cutoff t := by
  obtain ⟨e, he, hhalted⟩ := h
  obtain ⟨hmem, htenant, -⟩ := of_mem_latestAudit he
  exact ⟨hunregistered, e, mem_auditsOf_of_mem_attemptsOf hmem, htenant, hhalted⟩

/-- A log as tasks leave it: its rows have different ids, and name schemas that are not blank. -/
structure Orderly (m : ServiceModule) (s : Store) : Prop where
  keyed : s.Keyed
  names : ∀ e ∈ s.auditsOf m, Text.nonBlank? e.schema ≠ none

theorem Orderly.apply {c : StoreCall} (h : s.Orderly m)
    (hc : c.Names fun _ schema => Text.nonBlank? schema ≠ none) : (s.apply c).2.Orderly m where
  keyed := h.keyed.apply c
  names e he := by
    rw [mem_auditsOf] at he
    rcases mem_audits_apply he.1 with ⟨old, hold, hlater⟩ | ⟨new, rfl, rfl⟩
    · rw [hlater.schema_eq]
      exact h.names old (mem_auditsOf.mpr ⟨hold, hlater.moduleName_eq.symm.trans he.2⟩)
    · exact hc

/-! ## What a pass keeps -/

/-- Later stores, of which a pass made the difference: no schema and no tenant comes or goes, names
    stay registered, and rows of the log stay as they are or leave the state that a pass looks for. -/
structure Mended (m : ServiceModule) (s s' : Store) : Prop where
  schemas : s'.schemas = s.schemas
  tenants : ∀ t, (s'.tenant? t).isSome = (s.tenant? t).isSome
  names : ∀ t name, s.registered? m t = some name → s'.registered? m t = some name
  created : ∀ e ∈ s'.audits, e.status = .schemaCreated → e ∈ s.audits
  later : ∀ e ∈ s.audits, ∃ e' ∈ s'.audits, e.Continues e'

namespace Mended

theorem refl (m : ServiceModule) (s : Store) : s.Mended m s where
  schemas := rfl
  tenants _ := rfl
  names _ _ h := h
  created _ he _ := he
  later e he := ⟨e, he, .refl e⟩

theorem trans (h : s.Mended m s') (h' : s'.Mended m s'') : s.Mended m s'' where
  schemas := h'.schemas.trans h.schemas
  tenants t := (h'.tenants t).trans (h.tenants t)
  names t name hname := h'.names t name (h.names t name hname)
  created e he hcreated := h.created e (h'.created e he hcreated) hcreated
  later e he := by
    obtain ⟨e', he', hlater⟩ := h.later e he
    obtain ⟨e'', he'', hlater'⟩ := h'.later e' he'
    exact ⟨e'', he'', hlater.trans hlater'⟩

theorem updateAudit (m : ServiceModule) (s : Store) (target : Audit.Target) {status : Audit.Status}
    (error : Option String) (hstatus : status ≠ .schemaCreated) :
    s.Mended m (s.apply (.updateAudit target status error)).2 where
  schemas := rfl
  tenants := s.isSome_tenant?_apply _
  names t name hname := (s.registered?_updateAudit m t target status error).trans hname
  created e he hcreated := by
    rcases mem_apply_cases he with hold | ⟨_, _, _, _, _, hcall, _, rfl⟩ | ⟨_, hcall, _⟩
    · exact hold
    · -- a row that was marked is in another state
      cases hcall
      exact absurd hcreated hstatus
    · cases hcall
  later _ he := exists_continues_apply _ he

/-- A column is written where nothing is registered. -/
theorem setModuleSchema (schema : String) (hnone : s.registered? m t = none) :
    s.Mended m (s.apply (.setModuleSchema t m schema)).2 where
  schemas := rfl
  tenants := s.isSome_tenant?_apply _
  names u name hname := by
    refine (s.registered?_apply_of_ne ?_).trans hname
    rintro schema' ⟨⟩
    rw [hnone] at hname
    cases hname
  created _ he _ := he
  later e he := ⟨e, he, .refl e⟩

/-- No tenant becomes stuck. -/
theorem stuck_of_stuck (h : s.Mended m s') (hstuck : s'.Stuck m cutoff t) : s.Stuck m cutoff t := by
  obtain ⟨⟨hrow, hnone⟩, e, he, htenant, hcreated, hbefore, hexists⟩ := hstuck
  have hnone' : s.registered? m t = none := by
    cases hname : s.registered? m t with
    | none => rfl
    | some name =>
      rw [h.names t name hname] at hnone
      cases hnone
  rw [mem_auditsOf] at he
  exact ⟨⟨(h.tenants t).symm.trans hrow, hnone'⟩, e,
    mem_auditsOf.mpr ⟨h.created e he.1 hcreated, he.2⟩, htenant, hcreated, hbefore,
    h.schemas ▸ hexists⟩

/-- An attempt stays one. -/
theorem exists_continues_attempt (h : s.Mended m s') (he : e ∈ s.attemptsOf m) :
    ∃ e' ∈ s'.attemptsOf m, e.Continues e' := by
  have hmem := (mem_attemptsOf.mp he).1
  obtain ⟨e', hmem', hlater⟩ := h.later e hmem
  exact ⟨e', (mem_attemptsOf_iff_of_continues hlater hmem hmem').mpr he, hlater⟩

/-- A newest row that halted was there before, and was the newest. -/
theorem newestHalted_of_newestHalted (h : s.Mended m s') (hs : s.Keyed)
    (hnewest : s'.NewestHalted m cutoff t) : s.NewestHalted m cutoff t := by
  obtain ⟨e, he, hcreated, hbefore, hexists⟩ := hnewest
  obtain ⟨hattempt', htenant, hnewest⟩ := of_mem_latestAudit he
  have hmem' := (mem_attemptsOf.mp hattempt').1
  have hattempt : e ∈ s.attemptsOf m :=
    (mem_attemptsOf_iff_of_continues (.refl e) (h.created e hmem' hcreated) hmem').mp hattempt'
  refine ⟨e, hs.mem_latestAudit_iff.mpr ⟨hattempt, htenant, ?_⟩, hcreated, hbefore,
    h.schemas ▸ hexists⟩
  -- every other attempt has a later form, of the same age and for the same tenant
  refine isNewestIn_iff.mpr fun other hother hsame => ?_
  obtain ⟨other', hother', hlater⟩ := h.exists_continues_attempt hother
  have hnot := isNewestIn_iff.mp hnewest other' hother' (hlater.tenant_eq.trans hsame)
  rwa [(Audit.Entry.Continues.refl e).isOlder_eq hlater] at hnot

end Mended

end Store

namespace Reconciliation

variable {m : ServiceModule} {s s' : Store} {t : TenantId} {cutoff : Timestamp} {e : Audit.Entry}

/-! ## One row -/

/-- What a pass does with one row, when no call fails. -/
inductive Effect (m : ServiceModule) (e : Audit.Entry) (s : Store) : Store → Prop where
  | missing (hexists : e.schema ∉ s.schemas) :
    Effect m e s (s.apply (.updateAudit (.entry e.id) .failed (some schemaNotFound))).2
  | confirmed (hname : s.registered? m e.tenant = some e.schema) :
    Effect m e s (s.apply (.updateAudit (.entry e.id) .success none)).2
  | conflict (name : String) (hname : s.registered? m e.tenant = some name) : Effect m e s s
  /-- The registry has no row of the tenant. -/
  | unknown (hrow : (s.tenant? e.tenant).isSome = false) (hnone : s.registered? m e.tenant = none) :
    Effect m e s (s.apply (.setModuleSchema e.tenant m e.schema)).2
  | repaired (hexists : e.schema ∈ s.schemas) (hnone : s.registered? m e.tenant = none) :
    Effect m e s ((s.apply (.setModuleSchema e.tenant m e.schema)).2.apply
      (.updateAudit (.entry e.id) .success none)).2

theorem effect_entry (m : ServiceModule) (e : Audit.Entry) (s : Store) :
    Effect m e s ((entry m e).runOn s).2 := by
  rw [runOn_entry]
  cases hverdict : verdict m e s with
  | repaired =>
    obtain ⟨hexists, hnone, -⟩ := verdict_eq_repaired_iff.mp hverdict
    exact .repaired hexists hnone
  | confirmed => exact .confirmed (verdict_eq_confirmed_iff.mp hverdict).2
  | failed => exact .missing (verdict_eq_failed_iff.mp hverdict)
  | conflict =>
    obtain ⟨-, ⟨hrow, hnone⟩ | ⟨name, hname, -⟩⟩ := verdict_eq_conflict_iff.mp hverdict
    · have hunknown := Effect.unknown (e := e) hrow hnone
      rwa [Store.apply, s.setModuleSchema_of_isNone hrow] at hunknown
    · exact .conflict name hname

namespace Effect

theorem mended (h : Effect m e s s') : s.Mended m s' := by
  cases h with
  | missing hexists => exact .updateAudit m s _ _ nofun
  | confirmed hname => exact .updateAudit m s _ _ nofun
  | conflict name hname => exact .refl m s
  | unknown hrow hnone => exact .setModuleSchema e.schema hnone
  | repaired hexists hnone =>
    exact (Store.Mended.setModuleSchema e.schema hnone).trans (.updateAudit m _ _ _ nofun)

/-- A name that is not blank is registered after its row was looked at, or there was one already. -/
theorem registered?_ne_none (h : Effect m e s s') (hexists : e.schema ∈ s.schemas)
    (hrow : (s.tenant? e.tenant).isSome = true) (hname : Text.nonBlank? e.schema ≠ none) :
    s'.registered? m e.tenant ≠ none := by
  cases h with
  | missing hmissing => exact absurd hexists hmissing
  | confirmed hsame =>
    rw [Store.registered?_updateAudit, hsame]
    exact nofun
  | conflict name hother =>
    rw [hother]
    exact nofun
  | unknown hunknown hnone =>
    rw [hrow] at hunknown
    cases hunknown
  | repaired hexists hnone =>
    rw [Store.registered?_updateAudit]
    rwa [Store.apply, Store.registered?_setModuleSchema_self, if_pos hrow]

/-- A row changes nothing for a tenant other than its own, and nothing if its schema is missing. -/
theorem registered?_eq (h : Effect m e s s') (hother : e.tenant = t → e.schema ∉ s.schemas) :
    s'.registered? m t = s.registered? m t := by
  cases h with
  | missing hmissing => exact s.registered?_updateAudit m t _ _ _
  | confirmed hname => exact s.registered?_updateAudit m t _ _ _
  | conflict name hname => rfl
  | unknown hrow hnone =>
    rcases s.registered?_apply (.setModuleSchema e.tenant m e.schema) m t with
      hsame | ⟨schema, ⟨⟩, hknown, -⟩
    · exact hsame
    · rw [hrow] at hknown
      cases hknown
  | repaired hexists hnone =>
    rw [Store.registered?_updateAudit]
    refine s.registered?_apply_of_ne ?_
    rintro schema ⟨⟩
    exact hother rfl hexists

/-- Rows of the log with other ids stay as they are. -/
theorem mem_of_id_ne (h : Effect m e s s') {other : Audit.Entry} (hmem : other ∈ s.audits)
    (hid : other.id ≠ e.id) : other ∈ s'.audits := by
  have hwrite : other ∈ (s.apply (.setModuleSchema e.tenant m e.schema)).2.audits := hmem
  have hmark : ∀ (s : Store) status error, other ∈ s.audits →
      other ∈ (s.apply (.updateAudit (.entry e.id) status error)).2.audits := by
    intro s status error hmem
    rcases Store.mem_apply_or_mark (.updateAudit (.entry e.id) status error) hmem with
      hsame | ⟨target, _, _, ⟨⟩, hcovers, -⟩
    · exact hsame
    · exact absurd (beq_iff_eq.mp hcovers) hid
  cases h with
  | missing hexists => exact hmark s _ _ hmem
  | confirmed hname => exact hmark s _ _ hmem
  | conflict name hname => exact hmem
  | unknown hrow hnone => exact hwrite
  | repaired hexists hnone => exact hmark _ _ _ hwrite

end Effect

/-! ## All rows -/

/-- What every row keeps, all of them keep. -/
theorem entries_invariant {P : Store → Prop} (rows : List Audit.Entry)
    (hkeeps : ∀ e ∈ rows, ∀ s s', P s → Effect m e s s' → P s') (hs : P s) (report : Report) :
    P ((entries m rows report).runOn s).2 := by
  induction rows generalizing s report with
  | nil => exact hs
  | cons e rows ih =>
    rw [entries, runOn_bind]
    exact ih (fun e' he' => hkeeps e' (List.mem_cons_of_mem _ he'))
      (hkeeps e List.mem_cons_self s _ hs (effect_entry m e s)) _

theorem entries_mended (m : ServiceModule) (rows : List Audit.Entry) (report : Report) (s : Store) :
    s.Mended m ((entries m rows report).runOn s).2 :=
  entries_invariant (P := fun s' => s.Mended m s') rows
    (fun _ _ _ _ h heffect => h.trans heffect.mended) (.refl m s) report

/-- After a row with a schema that exists was looked at, a name is registered for its tenant. -/
theorem registered?_entries {rows : List Audit.Entry} (he : e ∈ rows)
    (hexists : e.schema ∈ s.schemas) (hrow : (s.tenant? e.tenant).isSome = true)
    (hname : Text.nonBlank? e.schema ≠ none) (report : Report) :
    ((entries m rows report).runOn s).2.registered? m e.tenant ≠ none := by
  induction rows generalizing s report with
  | nil => cases he
  | cons first rows ih =>
    rw [entries, runOn_bind]
    have heffect := effect_entry m first s
    rcases List.mem_cons.mp he with rfl | hrest
    · -- what is registered by its turn stays
      obtain ⟨name, hregistered⟩ := Option.ne_none_iff_exists'.mp
        (heffect.registered?_ne_none hexists hrow hname)
      rw [(entries_mended m rows _ _).names _ name hregistered]
      exact nofun
    · exact ih hrest (heffect.mended.schemas.symm ▸ hexists)
        ((heffect.mended.tenants _).trans hrow) _

/-- Where no row of a tenant has a schema that exists, nothing becomes of its column, and a row of the
    log that is not among them stays as it is. -/
theorem entries_untouched {rows : List Audit.Entry}
    (hmissing : ∀ row ∈ rows, row.tenant = t → row.schema ∉ s.schemas) (he : e ∈ s.audits)
    (hid : ∀ row ∈ rows, e.id ≠ row.id) (report : Report) :
    ((entries m rows report).runOn s).2.registered? m t = s.registered? m t ∧
      e ∈ ((entries m rows report).runOn s).2.audits := by
  -- which schemas exist is part of the invariant: rows are judged by it at their turn
  refine (entries_invariant (P := fun s' => s'.schemas = s.schemas ∧
    s'.registered? m t = s.registered? m t ∧ e ∈ s'.audits) rows ?_ ⟨rfl, rfl, he⟩ report).2
  rintro row hrow s₁ s₂ ⟨hschemas, hname, hmem⟩ heffect
  exact ⟨heffect.mended.schemas.trans hschemas,
    (heffect.registered?_eq (hschemas ▸ hmissing row hrow)).trans hname,
    heffect.mem_of_id_ne hmem (hid row hrow)⟩

/-- A pass looks at all the rows it finds, and returns. -/
theorem runOn_pass (m : ServiceModule) (cutoff : Timestamp) (s : Store) :
    (pass m cutoff).runOn s = (.ok ((entries m (s.stalledAudits m cutoff) {}).runOn s).1,
      ((entries m (s.stalledAudits m cutoff) {}).runOn s).2) := by
  rw [pass, ask, Program.call_bind, runOn_ask]
  exact runOn_bind (entries m (s.stalledAudits m cutoff) {}) _ s

theorem pass_mended (m : ServiceModule) (cutoff : Timestamp) (s : Store) :
    s.Mended m ((pass m cutoff).runOn s).2 := by
  rw [runOn_pass]
  exact entries_mended m _ _ s

/-- A pass registers a name for every tenant whose newest row halted, and leaves the others as they
    were. -/
theorem stuck_pass_iff (hs : s.Orderly m) (cutoff : Timestamp) (t : TenantId) :
    ((pass m cutoff).runOn s).2.Stuck m cutoff t ↔
      s.Stuck m cutoff t ∧ ¬s.NewestHalted m cutoff t := by
  have hmended := pass_mended m cutoff s
  rw [runOn_pass] at hmended ⊢
  constructor
  · intro hstuck
    refine ⟨hmended.stuck_of_stuck hstuck, ?_⟩
    rintro ⟨e, he, hcreated, hbefore, hexists⟩
    obtain ⟨hmem, rfl, -⟩ := Store.of_mem_latestAudit he
    have hfound : e ∈ s.stalledAudits m cutoff :=
      hs.keyed.mem_stalledAudits_iff.mpr ⟨he, hcreated, hbefore⟩
    have hrow := (hmended.stuck_of_stuck hstuck).1.1
    have hname := hs.names e (Store.mem_auditsOf_of_mem_attemptsOf hmem)
    exact registered?_entries hfound hexists hrow hname {} hstuck.1.2
  · rintro ⟨⟨⟨hrow, hnone⟩, e, he, htenant, hcreated, hbefore, hexists⟩, hnewest⟩
    -- if a row of the tenant is looked at, then its schema is missing
    have hmissing : ∀ row ∈ s.stalledAudits m cutoff, row.tenant = t → row.schema ∉ s.schemas := by
      rintro row hfound rfl hexists'
      obtain ⟨hlatest, hcreated', hbefore'⟩ := hs.keyed.mem_stalledAudits_iff.mp hfound
      exact hnewest ⟨row, hlatest, hcreated', hbefore', hexists'⟩
    have hid : ∀ row ∈ s.stalledAudits m cutoff, e.id ≠ row.id := by
      intro row hfound hsame
      obtain rfl := hs.keyed.eq_of_id_eq (Store.mem_auditsOf.mp he).1
        (Store.mem_of_mem_stalledAudits hfound).1 hsame
      exact hmissing e hfound htenant hexists
    obtain ⟨hname, hmem⟩ :=
      entries_untouched (m := m) hmissing (Store.mem_auditsOf.mp he).1 hid {}
    exact ⟨⟨(hmended.tenants t).trans hrow, hname.trans hnone⟩, e,
      Store.mem_auditsOf.mpr ⟨hmem, (Store.mem_auditsOf.mp he).2⟩, htenant, hcreated, hbefore,
      hmended.schemas ▸ hexists⟩

end Reconciliation

namespace Interleaving

/-! ## Passes after any run -/

/-- Tasks leave an orderly log, whatever they do. -/
theorem orderly_run (m : ServiceModule) {s : Store} (hs : s.Orderly m) (moves : List Move) :
    ((State.idle s).run m moves).store.Orderly m := by
  have hsound : (Contract.naming (fun _ schema => Text.nonBlank? schema ≠ none)
      (Store.Orderly m)).Sound m (fun _ => True) fun _ job => job.Asks fun _ _ => True := by
    refine Contract.naming_sound ?_ ?_ (fun _ _ h hc => h.apply hc)
      (fun _ _ h => ⟨⟨h.keyed.nodup, h.keyed.le_last⟩, h.names⟩)
    · intro s t displayName record _ _ _
      rw [Provisioning.nonBlank?_schemaFor]
      exact nofun
    · exact fun s h e he hmodule => h.names e (Store.mem_auditsOf.mpr ⟨he, hmodule⟩)
  have hadmits : ∀ move ∈ moves, move.Admits fun _ job => job.Asks fun _ _ => True := by
    intro move _
    cases move with
    | start id p job => exact fun _ _ _ _ _ => trivial
    | _ => trivial
  exact (hsound.holds_run hs (fun _ _ => trivial) hadmits).inv

/-- After attempts and passes in any number of processes, whatever the order of their calls,
    whichever fail and wherever they are dropped, a pass that is made alone and without failing calls
    returns, and then no tenant without a registered schema has an attempt that halted as its newest:
    the tenants that are still stuck are those that were stuck before by a row that is not their
    newest, while their newest is not that of an attempt that halted. -/
theorem stuck_after_clean_pass (m : ServiceModule) (s : Store) (moves : List Move)
    (staleAfter : Duration) (id : TaskId) (p : ProcessId) (hs : s.Orderly m)
    (hnew : ((State.idle s).run m moves).tasks id = none) :
    ∃ n S report cutoff,
      ((State.idle s).run m moves).run m
        (.start id p (.reconcile staleAfter) :: List.replicate n (.proceed id none)) = S ∧
      S.tasks id = some { process := p, job := .reconcile staleAfter
                          rest := .done (.reconciled (.ok report)) } ∧
      cutoff = Reconciliation.cutoff ((State.idle s).run m moves).store.clock staleAfter ∧
      ∀ t, ¬(S.store.Unregistered m t ∧ S.store.NewestHalted m cutoff t) ∧
        (S.store.Stuck m cutoff t ↔ ((State.idle s).run m moves).store.Stuck m cutoff t ∧
          ¬((State.idle s).run m moves).store.NewestHalted m cutoff t) := by
  have horderly := orderly_run m hs moves
  obtain ⟨n, hstore, htask⟩ := State.run_pass_alone (p := p) m staleAfter hnew
  rw [Reconciliation.runOn_pass] at htask
  refine ⟨n, _, _, _, rfl, htask, rfl, fun t => ?_⟩
  rw [hstore]
  have hiff := Reconciliation.stuck_pass_iff horderly
    (Reconciliation.cutoff ((State.idle s).run m moves).store.clock staleAfter) t
  refine ⟨?_, hiff⟩
  rintro ⟨hunregistered, hnewest⟩
  -- a pass adds no row and halts none
  have hbefore := (Reconciliation.pass_mended m _ _).newestHalted_of_newestHalted horderly.keyed
    hnewest
  exact (hiff.mp (hnewest.stuck hunregistered)).2 hbefore

/-- Two tenants are each left with a schema that is not registered, and then a second attempt for each
    fails before it creates anything. That for the second tenant is made by a clock that was set back. -/
def covered : List Move :=
  let interrupted (id : TaskId) (t : TenantId) (name : String) : List Move :=
    [.start id 0 (.provision "app" t (some name) "api"), .proceed id none, .grant id] ++
      List.replicate 5 (.proceed id none) ++ [.proceed id (some .poolTimedOut), .proceed id none]
  let failed (id : TaskId) (t : TenantId) (name : String) : List Move :=
    [.start id 0 (.provision "app" t (some name) "api"), .proceed id none, .grant id] ++
      List.replicate 3 (.proceed id none) ++ [.proceed id (some .poolTimedOut)] ++
      List.replicate 2 (.proceed id none)
  [.tick (.ofNanos 10)] ++ interrupted 0 ⟨3⟩ "Globex" ++ interrupted 1 ⟨4⟩ "Acme" ++
    failed 2 ⟨3⟩ "Globex" ++ [.tick (.ofNanos 5)] ++ failed 3 ⟨4⟩ "Acme" ++
    [.tick (.ofNanos 3600000000000)]

/-- A pass with the default age registers a schema for the second tenant, whose newest row is still that
    of the first attempt, and leaves the first one stuck. -/
theorem stuck_after_clean_pass_covered :
    let s : Store := { tenants := [.unnamed .operations ⟨3⟩, .unnamed .operations ⟨4⟩] }
    s.Orderly .operations ∧ ((State.idle s).run .operations covered).tasks 4 = none ∧
      ∃ n S report cutoff,
        ((State.idle s).run .operations covered).run .operations
          (.start 4 0 (.reconcile (.ofSecs 600)) :: List.replicate n (.proceed 4 none)) = S ∧
        S.tasks 4 = some { process := 0, job := .reconcile (.ofSecs 600)
                           rest := .done (.reconciled (.ok report)) } ∧
        cutoff = .ofNanos 3000000000000 ∧
        ((State.idle s).run .operations covered).store.Stuck .operations cutoff ⟨4⟩ ∧
        ¬S.store.Stuck .operations cutoff ⟨4⟩ ∧ S.store.Stuck .operations cutoff ⟨3⟩ := by
  intro s
  have hs : s.Orderly .operations := ⟨Store.keyed_of_audits_eq_nil rfl, fun _ => nofun⟩
  have hnew : ((State.idle s).run .operations covered).tasks 4 = none :=
    Option.isNone_iff_eq_none.mp (by decide)
  obtain ⟨n, S, report, cutoff, hS, hreturned, hcutoff, hstuck⟩ :=
    stuck_after_clean_pass .operations s covered (.ofSecs 600) 4 0 hs hnew
  obtain rfl : cutoff = .ofNanos 3000000000000 := hcutoff.trans (by decide)
  refine ⟨hs, hnew, n, S, report, _, hS, hreturned, rfl, by decide, ?_, ?_⟩
  · intro hafter
    exact ((hstuck ⟨4⟩).2.mp hafter).2 (by decide)
  · exact (hstuck ⟨3⟩).2.mpr (by decide)

/-- A tenant can stay stuck after a pass. -/
theorem not_forall_not_stuck :
    ¬∀ (s : Store) (moves : List Move) (staleAfter : Duration) (id : TaskId) (n : Nat)
      (report : Reconciliation.Report), s.audits = [] →
      ((State.idle s).run .operations moves).tasks id = none →
      (((State.idle s).run .operations moves).run .operations
        (.start id 0 (.reconcile staleAfter) :: List.replicate n (.proceed id none))).tasks id =
          some { process := 0, job := .reconcile staleAfter
                 rest := .done (.reconciled (.ok report)) } →
      ∀ t cutoff,
        Reconciliation.cutoff ((State.idle s).run .operations moves).store.clock staleAfter = cutoff →
        ¬(((State.idle s).run .operations moves).run .operations
          (.start id 0 (.reconcile staleAfter) :: List.replicate n (.proceed id none))).store.Stuck
            .operations cutoff t := by
  intro h
  exact h { tenants := [.unnamed .operations ⟨3⟩, .unnamed .operations ⟨4⟩] } covered
    (.ofSecs 600) 4 8 { repaired := 1 } rfl rfl rfl ⟨3⟩ _ rfl (by decide)

end Interleaving

end Tenancy
