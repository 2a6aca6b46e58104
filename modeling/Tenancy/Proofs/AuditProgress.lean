import Tenancy.Proofs.Exclusion
import Tenancy.Proofs.SchemaExistence
import Tenancy.Proofs.Succession

/-!
# Rows of the audit log move forward

A change of status is blind: it sets the row with an id, or all rows of a tenant that are pending,
whatever was done to them since the task looked. In one process with one pass at a time, rows move
forward nevertheless. A row that is pending belongs to attempts for its tenant, of which one is
inside the lock. A row whose attempt created its schema is only ever marked as successful: by its
attempt, or by a pass, which finds that the schema exists. The rows that a run began with have no
attempt any more, and for them the only pass decides.

## Key results

- `Marks.next`: what the promises of tasks make of the status of a row
- `forward_coherent`: tasks of one process with one pass at a time keep these promises
- `audits_move_forward`: between any two moments of a run statuses only move forward, and a row has an
  error text exactly when it failed
-/

namespace Tenancy

namespace Audit.Status

/-- The schema of an attempt with this status was created. -/
def isCreated : Status → Bool
  | schemaCreated | success => true
  | pending | failed => false

/-- The statuses that may follow one. -/
def next : Status → List Status
  | pending => [schemaCreated, success, failed]
  | schemaCreated => [success, failed]
  | success | failed => []

theorem next_trans {a b c : Status} (hab : b ∈ a.next) (hbc : c ∈ b.next) : c ∈ a.next := by
  cases a <;> cases b <;> simp_all [next]

end Audit.Status

namespace Store

variable {s : Store} {id : Int} {status : Audit.Status}

/-- The status of the row with an id. -/
def status? (s : Store) (id : Int) : Option Audit.Status :=
  (s.audits.find? (·.id == id)).map (·.status)

theorem exists_of_status? (h : s.status? id = some status) :
    ∃ e ∈ s.audits, e.id = id ∧ e.status = status := by
  obtain ⟨e, he, hstatus⟩ := Option.map_eq_some_iff.mp h
  exact ⟨e, List.mem_of_find?_eq_some he, by simpa using List.find?_some he, hstatus⟩

theorem Keyed.status?_eq (h : s.Keyed) {e : Audit.Entry} (he : e ∈ s.audits) :
    s.status? e.id = some e.status := by
  have hfound : (s.audits.find? (·.id == e.id)).isSome = true :=
    List.find?_isSome.mpr ⟨e, he, beq_self_eq_true e.id⟩
  obtain ⟨row, hrow⟩ := Option.isSome_iff_exists.mp hfound
  have hid : row.id = e.id := by simpa using List.find?_some hrow
  rw [status?, hrow, h.eq_of_id_eq (List.mem_of_find?_eq_some hrow) he hid, Option.map_some]

/-- The rows that were added after the row `first` have schemas that exist, if their attempts created
    them. -/
structure Backed (first : Int) (s : Store) : Prop where
  keyed : s.Keyed
  first_le : first ≤ s.lastAudit
  exists_schema : ∀ e ∈ s.audits, first < e.id → e.status.isCreated = true → e.schema ∈ s.schemas

theorem Keyed.backed (h : s.Keyed) : s.Backed s.lastAudit where
  keyed := h
  first_le := Int.le_refl _
  exists_schema e he hlt := by
    have hle := h.le_last e he
    omega

end Store

namespace Interleaving

open Program (Guarded)

/-- The job is a pass of reconciliation. -/
def Job.Reconciles (job : Job) : Prop := job.tenant? = none

/-- The changes of status that a job may make to a row of the log. -/
inductive Marks (first : Int) (job : Job) (v : View) (e : Audit.Entry) : Audit.Status → Prop where
  /-- An attempt that is inside marks a pending row of its tenant. -/
  | settles {status : Audit.Status} (hpending : e.status = .pending) (hstatus : status ≠ .pending)
      (hexists : status.isCreated = true → e.schema ∈ v.store.schemas)
      (htenant : job.tenant? = some e.tenant) (hinside : v.inside = true) : Marks first job v e status
  /-- A row whose schema was created is successful. -/
  | succeeds (hcreated : e.status.isCreated = true) (hjob : job.Reconciles ∨ first < e.id) :
      Marks first job v e .success
  /-- A pass gives up an attempt that stopped before the run began. -/
  | fails (hcreated : e.status = .schemaCreated) (hold : e.id ≤ first) (hjob : job.Reconciles) :
      Marks first job v e .failed

/-- What the others leave of a row, for a job that is inside its tenant's lock or not. -/
structure Keeps (first : Int) (job : Job) (inside : Bool) (e e' : Audit.Entry) : Prop where
  created : first < e.id → e.status.isCreated = true → e'.status.isCreated = true
  pending : job.tenant? = some e.tenant → inside = true → e.status = .pending → e'.status = .pending
  halfway : job.Reconciles → e.id ≤ first → e.status = .schemaCreated → e'.status = .schemaCreated

/-- Tasks move rows forward, and leave each other the rows that they are about. -/
def Contract.forward (first : Int) : Contract where
  inv s _ := s.Backed first
  rely _ job v v' := v.store.schemas ⊆ v'.store.schemas ∧
    ∀ e ∈ v.store.audits, ∃ e' ∈ v'.store.audits, e.Continues e' ∧ Keeps first job v.inside e e'
  guar _ job v c := ∀ target status error, c = .updateAudit target status error →
    (error.isSome = true ↔ status = .failed) ∧
      ∀ e ∈ v.store.audits, target.covers e = true → Marks first job v e status
  post _ _ _ _ := True

variable {first : Int} {job : Job} {v v' : View} {e e' : Audit.Entry} {status : Audit.Status}
  {c : StoreCall} {id : TaskId}

/-! ## What promises make of rows -/

/-- The status of a row stays or moves forward. -/
theorem Marks.next (h : Marks first job v e status) : status = e.status ∨ status ∈ e.status.next := by
  cases h with
  | settles hpending hstatus hexists htenant hinside =>
    rw [hpending]
    cases status <;> simp_all [Audit.Status.next]
  | succeeds hcreated hjob =>
    generalize e.status = old at hcreated
    cases old <;> simp_all [Audit.Status.isCreated, Audit.Status.next]
  | fails hcreated hold hjob =>
    rw [hcreated]
    simp [Audit.Status.next]

/-- A row that is marked had not failed. -/
theorem Marks.ne_failed (h : Marks first job v e status) : e.status ≠ .failed := by
  intro hfailed
  cases h with
  | settles hpending => cases hpending.symm.trans hfailed
  | succeeds hcreated =>
    rw [hfailed] at hcreated
    cases hcreated
  | fails hcreated => cases hcreated.symm.trans hfailed

theorem Keeps.refl (first : Int) (job : Job) (inside : Bool) (e : Audit.Entry) :
    Keeps first job inside e e := ⟨fun _ h => h, fun _ _ h => h, fun _ _ h => h⟩

theorem Keeps.trans {e'' : Audit.Entry} {inside : Bool} (h : Keeps first job inside e e')
    (hlater : e.Continues e') (h' : Keeps first job inside e' e'') : Keeps first job inside e e'' where
  created hlt hcreated := h'.created (hlater.id_eq ▸ hlt) (h.created hlt hcreated)
  pending htenant hinside hpending :=
    h'.pending (hlater.tenant_eq ▸ htenant) hinside (h.pending htenant hinside hpending)
  halfway hjob hle hcreated := h'.halfway hjob (hlater.id_eq ▸ hle) (h.halfway hjob hle hcreated)

/-- A change of status leaves another job what it relies on, unless both are passes, or both are
    inside for one tenant. -/
private theorem Marks.keeps (h : Marks first job v e status) {other : Job} {inside : Bool}
    {error : Option String} (hpasses : job.Reconciles → ¬other.Reconciles)
    (hinside : ∀ t, job.tenant? = some t → v.inside = true → other.tenant? = some t →
      inside = false) : Keeps first other inside e (e.mark status error) := by
  cases h with
  | settles hpending hstatus hexists htenant hin =>
    -- the row was pending, and only another attempt inside would rely on that
    refine ⟨fun _ hcreated => ?_, fun hother hotherIn _ => ?_, fun _ _ hcreated => ?_⟩
    · rw [hpending] at hcreated
      cases hcreated
    · rw [hinside e.tenant htenant hin hother] at hotherIn
      cases hotherIn
    · cases hpending.symm.trans hcreated
  | succeeds hcreated hjob =>
    -- success is as good as created, but for another pass
    refine ⟨fun _ _ => rfl, fun _ _ hpending => ?_, fun hother hle _ => ?_⟩
    · rw [hpending] at hcreated
      cases hcreated
    · rcases hjob with hpass | hlt
      · exact absurd hother (hpasses hpass)
      · omega
  | fails hcreated hold hjob =>
    refine ⟨fun hlt _ => ?_, fun _ _ hpending => ?_, fun hother _ _ => ?_⟩
    · omega
    · cases hpending.symm.trans hcreated
    · exact absurd hother (hpasses hjob)

/-- Allowed calls keep what holds at every moment. -/
private theorem backed_apply (h : v.store.Backed first)
    (hguar : (Contract.forward first).guar id job v c) : (v.store.apply c).2.Backed first where
  keyed := h.keyed.apply c
  first_le := Int.le_trans h.first_le (v.store.lastAudit_le_apply c)
  exists_schema e' he' hlt hcreated := by
    apply Store.schemas_subset_apply
    rcases Store.mem_apply_cases he' with
      hsame | ⟨e, he, target, status, error, rfl, hcovers, rfl⟩ | ⟨new, rfl, rfl⟩
    · exact h.exists_schema e' hsame hlt hcreated
    · cases (hguar target status error rfl).2 e he hcovers with
      | settles _ _ hexists => exact hexists hcreated
      | succeeds hold => exact h.exists_schema e he hlt hold
      | fails => cases hcreated
    · cases hcreated

/-- A call that marks rows only as others expect is one that they rely on. -/
private theorem rely_of_keeps {other : TaskId} {job' : Job} {inside : Bool}
    (h : ∀ e ∈ v.store.audits, ∀ target status error, c = .updateAudit target status error →
      target.covers e = true → Keeps first job' inside e (e.mark status error)) :
    (Contract.forward first).rely other job' ⟨v.store, v.log, inside⟩
      (View.perform ⟨v.store, v.log, inside⟩ id c) := by
  refine ⟨v.store.schemas_subset_apply c, fun e he => ?_⟩
  rcases Store.mem_apply_or_mark c he with hsame | ⟨target, status, error, hc, hcovers, hmem⟩
  · exact ⟨e, hsame, .refl e, .refl first job' inside e⟩
  · exact ⟨_, hmem, .mark e status error, h e he target status error hc hcovers⟩

/-- Under the promises of tasks, the row with an id stays as it is or moves forward. -/
private theorem status?_apply (h : v.store.Backed first)
    (hguar : (Contract.forward first).guar id job v c) {row : Int}
    (hrow : v.store.status? row = some status) :
    ∃ status', (v.store.apply c).2.status? row = some status' ∧
      (status' = status ∨ status' ∈ status.next) := by
  obtain ⟨e, he, rfl, rfl⟩ := Store.exists_of_status? hrow
  have hkeyed := h.keyed.apply c
  rcases Store.mem_apply_or_mark c he with hsame | ⟨target, status', error, hc, hcovers, hmem⟩
  · exact ⟨e.status, hkeyed.status?_eq hsame, .inl rfl⟩
  · exact ⟨status', hkeyed.status?_eq hmem, ((hguar target status' error hc).2 e he hcovers).next⟩

/-- Under the promises of tasks, error texts and failures stay together. -/
private theorem error_apply (hguar : (Contract.forward first).guar id job v c)
    (h : ∀ e ∈ v.store.audits, e.error.isSome = true ↔ e.status = .failed)
    (he' : e' ∈ (v.store.apply c).2.audits) : e'.error.isSome = true ↔ e'.status = .failed := by
  rcases Store.mem_apply_cases he' with
    hsame | ⟨e, he, target, status, error, rfl, hcovers, rfl⟩ | ⟨new, rfl, rfl⟩
  · exact h e' hsame
  · obtain ⟨herror, hmarks⟩ := hguar target status error rfl
    have hnone : e.error = none := by
      have hiff := h e he
      have hne := (hmarks e he hcovers).ne_failed
      rwa [← Option.not_isSome_iff_eq_none, hiff]
    -- the row had no text, so it has the one that comes with the change
    simpa [Audit.Entry.mark, hnone] using herror
  · simp [Store.newEntry]

/-! ## Calls of one task -/

variable {P : View → Prop}

/-- What is known under the promises of others survives an own call that marks no row. -/
private theorem unmarked_triple {Q : c.Reply → View → Prop}
    (hc : ∀ target status error, c ≠ .updateAudit target status error)
    (hP : ∀ v v', P v → v'.inside = v.inside → (Contract.forward first).rely id job v v' → P v')
    (hok : ∀ v, P v → v.store.Backed first → P (v.perform id c) →
      Q (.ok (v.store.apply c).1) (v.perform id c))
    (herror : ∀ v e, P v → Q (.error e) v) :
    ((Contract.forward first).stores id job).Triple P c Q := by
  refine Contract.stores_triple fun v v' hv hinside hrely hinv => ?_
  have hv' := hP v v' hv hinside hrely
  have hperformed : P (v'.perform id c) := by
    refine hP v' _ hv' rfl (rely_of_keeps (v := v') ?_)
    exact fun _ _ target status error hcall => absurd hcall (hc target status error)
  exact ⟨fun target status error hcall => absurd hcall (hc target status error),
    hok v' hv' hinv hperformed, fun e => herror v' e hv'⟩

/-- A change of status that is allowed wherever what is known holds. -/
private theorem mark_triple {target : Audit.Target} {error : Option String}
    {Q : (StoreCall.updateAudit target status error).Reply → View → Prop}
    (hP : ∀ v v', P v → v'.inside = v.inside → (Contract.forward first).rely id job v v' → P v')
    (herror : error.isSome = true ↔ status = .failed)
    (hmarks : ∀ v, P v → v.store.Backed first → ∀ e ∈ v.store.audits, target.covers e = true →
      Marks first job v e status)
    (hok : ∀ v, P v → v.store.Backed first →
      Q (.ok (v.store.apply (.updateAudit target status error)).1)
        (v.perform id (.updateAudit target status error)))
    (hfailed : ∀ v e, P v → Q (.error e) v) :
    ((Contract.forward first).stores id job).Triple P (.updateAudit target status error) Q := by
  refine Contract.stores_triple fun v v' hv hinside hrely hinv => ?_
  have hv' := hP v v' hv hinside hrely
  refine ⟨?_, hok v' hv' hinv, fun e => hfailed v' e hv'⟩
  intro target' status' error' hcall
  cases hcall
  exact ⟨herror, hmarks v' hv' hinv⟩

section Attempt

variable {owner : String} {t : TenantId} {displayName : Option String} {actor : String}
  {schema : String} {marked : Bool} {inserted : Except DbError Int}

/-- The attempt is inside, and its row is pending unless it was marked as created. -/
private structure Own (first : Int) (t : TenantId) (schema : String) (marked : Bool)
    (inserted : Except DbError Int) (v : View) : Prop where
  inside : v.inside = true
  row : ∀ id, inserted = .ok id → ∃ e ∈ v.store.audits, e.id = id ∧ e.tenant = t ∧
    e.schema = schema ∧ first < id ∧
      (e.status = .pending ∨ marked = true ∧ e.status.isCreated = true)

/-- Besides, its schema exists. -/
private def OwnCreated (first : Int) (t : TenantId) (schema : String) (marked : Bool)
    (inserted : Except DbError Int) (v : View) : Prop :=
  Own first t schema marked inserted v ∧ schema ∈ v.store.schemas

private theorem Own.rely (h : Own first t schema marked inserted v) (hinside : v'.inside = v.inside)
    (hrely : (Contract.forward first).rely id (.provision owner t displayName actor) v v') :
    Own first t schema marked inserted v' where
  inside := hinside.trans h.inside
  row id hid := by
    obtain ⟨e, he, rfl, rfl, rfl, hlt, hstatus⟩ := h.row id hid
    obtain ⟨e', he', hlater, hkeeps⟩ := hrely.2 e he
    refine ⟨e', he', hlater.id_eq, hlater.tenant_eq, hlater.schema_eq, hlt, ?_⟩
    exact hstatus.imp (hkeeps.pending rfl h.inside) fun hcreated =>
      ⟨hcreated.1, hkeeps.created hlt hcreated.2⟩

private theorem OwnCreated.rely (h : OwnCreated first t schema marked inserted v)
    (hinside : v'.inside = v.inside)
    (hrely : (Contract.forward first).rely id (.provision owner t displayName actor) v v') :
    OwnCreated first t schema marked inserted v' := ⟨h.1.rely hinside hrely, hrely.1 h.2⟩

/-- The row that an attempt marks by its id is its own. -/
private theorem Own.marks {row : Int} (h : Own first t schema marked (.ok row) v)
    (hs : v.store.Backed first) (hstatus : status ≠ .pending)
    (hexists : status.isCreated = true → schema ∈ v.store.schemas)
    (hmarked : marked = true → status = .success) (he : e ∈ v.store.audits)
    (hcovers : (Audit.Target.entry row).covers e = true) :
    Marks first (.provision owner t displayName actor) v e status := by
  obtain ⟨own, hown, hid, rfl, rfl, hlt, hold⟩ := h.row row rfl
  have hcovered : e.id = row := by simpa [Audit.Target.covers] using hcovers
  obtain rfl := hs.keyed.eq_of_id_eq he hown (hcovered.trans hid.symm)
  -- once it was marked as created, all that is left is success
  rcases hold with hpending | ⟨hmarkedOwn, hcreated⟩
  · exact .settles hpending hstatus hexists rfl h.inside
  · rw [hmarked hmarkedOwn]
    exact .succeeds hcreated (.inr (hid ▸ hlt))

/-- An attempt without a row marks rows of its tenant that are pending. -/
private theorem Own.marks_failed (h : Own first t schema false inserted v)
    (hs : v.store.Backed first) {m : ServiceModule} (he : e ∈ v.store.audits)
    (hcovers : (Provisioning.failureTarget inserted t m).covers e = true) :
    Marks first (.provision owner t displayName actor) v e .failed := by
  cases inserted with
  | ok row => exact h.marks hs nofun nofun nofun he hcovers
  | error err =>
    simp only [Provisioning.failureTarget, Audit.Target.covers, Bool.and_eq_true, beq_iff_eq]
      at hcovers
    exact .settles hcovers.2 nofun nofun (by rw [hcovers.1.1.1]; rfl) h.inside

private def forwardAttempt (first : Int) (m : ServiceModule) (id : TaskId) (owner : String)
    (t : TenantId) (displayName : Option String) (actor : String) :
    Provisioning.DetailedOutline
      ((Contract.forward first).stores id (.provision owner t displayName actor)) m owner t
      displayName actor fun _ _ => True where
  start v := v.inside = true
  chosen _ v := v.inside = true
  noted schema := Own first t schema false
  failing schema := Own first t schema false
  created schema := OwnCreated first t schema false
  progressed schema := OwnCreated first t schema true
  registered schema := OwnCreated first t schema true
  find := unmarked_triple nofun (fun _ _ hv hinside _ => hinside.trans hv)
    (fun _ hv _ _ _ _ => hv) (fun _ _ hv _ _ => hv)
  insert schema := by
    refine unmarked_triple nofun (fun _ _ hv hinside _ => hinside.trans hv) ?_
      (fun _ _ hv => ⟨hv, nofun⟩)
    intro v hv hs _
    refine ⟨hv, fun row hrow => ?_⟩
    -- the new row is numbered after all that were there
    obtain rfl := Except.ok.inj hrow
    have hle := hs.first_le
    exact ⟨v.store.newEntry _ (v.store.lastAudit + 1),
      List.mem_append_right _ List.mem_cons_self, rfl, rfl, rfl, by simp only [Store.apply]; omega,
      .inl rfl⟩
  ensure schema inserted := by
    refine unmarked_triple nofun (fun _ _ hv => hv.rely) ?_
      (fun _ _ hv => ⟨nofun, fun _ _ => hv⟩)
    intro v _ _ hv
    exact ⟨fun _ => ⟨hv, Store.mem_schemas_apply.mpr (.inr ⟨t, owner, rfl⟩)⟩, nofun⟩
  fail schema inserted e := mark_triple (fun _ _ hv => hv.rely) (by simp)
    (fun _ hv hs _ he hcovers => hv.marks_failed hs he hcovers) (fun _ _ _ => trivial)
    (fun _ _ _ => trivial)
  progress schema row := by
    refine mark_triple (fun _ _ hv => hv.rely) (by simp) ?_ ?_ ?_
    · exact fun v hv hs _ he hcovers => hv.1.marks hs nofun (fun _ => hv.2) nofun he hcovers
    · -- the attempt's own row is created now
      intro v hv _
      refine ⟨⟨hv.1.inside, fun id hid => ?_⟩, Store.schemas_subset_apply _ _ hv.2⟩
      obtain ⟨e, he, hrow, htenant, hschema, hlt, -⟩ := hv.1.row id hid
      obtain rfl := Except.ok.inj hid
      refine ⟨e.mark .schemaCreated none, ?_, hrow, htenant, hschema, hlt, .inr ⟨rfl, rfl⟩⟩
      have hcovers : (Audit.Target.entry row).covers e = true := by
        simpa [Audit.Target.covers] using hrow
      exact Store.mark_mem_apply he hcovers _ _
    · intro v _ hv
      refine ⟨⟨hv.1.inside, fun id hid => ?_⟩, hv.2⟩
      obtain ⟨e, he, hrow, htenant, hschema, hlt, hstatus⟩ := hv.1.row id hid
      exact ⟨e, he, hrow, htenant, hschema, hlt, hstatus.imp_right fun h => ⟨rfl, h.2⟩⟩
  unmarked schema e v hv := ⟨⟨hv.1.inside, nofun⟩, hv.2⟩
  register schema inserted := unmarked_triple nofun (fun _ _ hv => hv.rely)
    (fun _ _ _ hv _ _ => hv) (fun _ _ _ => nofun)
  succeed schema row := mark_triple (fun _ _ hv => hv.rely) (by simp)
    (fun v hv hs _ he hcovers => hv.1.marks hs nofun (fun _ => hv.2) (fun _ => rfl) he hcovers)
    (fun _ _ _ _ _ => trivial) (fun _ _ _ _ _ => trivial)
  finish _ _ _ _ _ _ := trivial

end Attempt

section Pass

variable {staleAfter : Duration}

/-- A row that the pass found: its attempt stopped before the run began, or created the schema. -/
private def Found (first : Int) (e : Audit.Entry) (v : View) : Prop :=
  ∃ row ∈ v.store.audits, row.id = e.id ∧ row.schema = e.schema ∧
    (e.id ≤ first ∧ row.status = .schemaCreated ∨ first < e.id ∧ row.status.isCreated = true)

private theorem Found.rely (h : Found first e v)
    (hrely : (Contract.forward first).rely id (.reconcile staleAfter) v v') : Found first e v' := by
  obtain ⟨row, hrow, hid, hschema, hstatus⟩ := h
  obtain ⟨row', hrow', hlater, hkeeps⟩ := hrely.2 row hrow
  refine ⟨row', hrow', hlater.id_eq.trans hid, hlater.schema_eq.trans hschema, ?_⟩
  rw [← hid] at hstatus ⊢
  exact hstatus.imp (fun hold => ⟨hold.1, hkeeps.halfway rfl hold.1 hold.2⟩)
    fun hnew => ⟨hnew.1, hkeeps.created hnew.1 hnew.2⟩

/-- The work on one row leaves another. -/
private theorem Found.apply_of_ne {later : Audit.Entry} (h : Found first later v)
    (hne : e.id ≠ later.id) (hmarks : Reconciliation.MarksOnly e c) :
    Found first later (v.perform id c) := by
  obtain ⟨row, hrow, hid, hrest⟩ := h
  refine ⟨row, ?_, hid, hrest⟩
  rcases Store.mem_apply_or_mark c hrow with hsame | ⟨target, status, error, hc, hcovers, -⟩
  · exact hsame
  · rw [hmarks target status error hc] at hcovers
    exact absurd (beq_iff_eq.mp hcovers).symm (hid ▸ hne)

/-- The row that a pass marks by its id is one that it found. -/
private theorem Found.of_covers (h : Found first e v) (hs : v.store.Backed first)
    {row : Audit.Entry} (hrow : row ∈ v.store.audits)
    (hcovers : (Audit.Target.entry e.id).covers row = true) :
    e.id ≤ first ∧ row.status = .schemaCreated ∨ first < e.id ∧ row.status.isCreated = true := by
  obtain ⟨found, hfound, hid, -, hstatus⟩ := h
  obtain rfl := hs.keyed.eq_of_id_eq hrow hfound ((beq_iff_eq.mp hcovers).trans hid.symm)
  exact hstatus

private theorem Found.status_eq (h : Found first e v) (hold : e.id ≤ first)
    (hs : v.store.Backed first) {row : Audit.Entry} (hrow : row ∈ v.store.audits)
    (hcovers : (Audit.Target.entry e.id).covers row = true) : row.status = .schemaCreated := by
  rcases h.of_covers hs hrow hcovers with ⟨-, hcreated⟩ | ⟨hlt, -⟩
  · exact hcreated
  · omega

private theorem Found.isCreated (h : Found first e v) (hs : v.store.Backed first)
    {row : Audit.Entry} (hrow : row ∈ v.store.audits)
    (hcovers : (Audit.Target.entry e.id).covers row = true) : row.status.isCreated = true := by
  rcases h.of_covers hs hrow hcovers with ⟨-, hcreated⟩ | ⟨-, hcreated⟩
  · rw [hcreated]
    rfl
  · exact hcreated

/-- Only a row that the run began with may name a schema that does not exist. -/
private theorem Found.le_first (h : Found first e v) (hs : v.store.Backed first)
    (hmissing : e.schema ∉ v.store.schemas) : e.id ≤ first := by
  obtain ⟨row, hrow, hid, hschema, hstatus⟩ := h
  rcases hstatus with ⟨hle, -⟩ | ⟨hlt, hcreated⟩
  · exact hle
  · exact absurd (hschema ▸ hs.exists_schema row hrow (hid ▸ hlt) hcreated) hmissing

private def forwardEntry (first : Int) (m : ServiceModule) (id : TaskId) (staleAfter : Duration)
    (e : Audit.Entry) : Reconciliation.EntryOutline
      ((Contract.forward first).stores id (.reconcile staleAfter)) m e where
  known := Found first e
  present := Found first e
  missing v := Found first e v ∧ e.id ≤ first
  blank := Found first e
  registered := Found first e
  look := by
    refine unmarked_triple nofun (fun _ _ hv _ => hv.rely) ?_ (fun _ _ _ => ⟨nofun, nofun⟩)
    intro v hv hs _
    refine ⟨fun _ => hv, fun hanswer => ⟨hv, hv.le_first hs ?_⟩⟩
    exact of_decide_eq_false (Except.ok.inj hanswer)
  fail := mark_triple (fun _ _ hv _ hrely => ⟨hv.1.rely hrely, hv.2⟩) (by simp)
    (fun _ hv hs row hrow hcovers => .fails (hv.1.status_eq hv.2 hs hrow hcovers)
      (beq_iff_eq.mp hcovers ▸ hv.2) rfl)
    (fun _ _ _ => trivial) (fun _ _ _ => trivial)
  read := unmarked_triple nofun (fun _ _ hv _ => hv.rely)
    (fun _ hv _ _ _ _ => ⟨fun _ => hv, fun _ => hv⟩) (fun _ _ _ => nofun)
  repair := unmarked_triple nofun (fun _ _ hv _ => hv.rely) (fun _ _ _ hv _ _ => hv)
    (fun _ _ _ => nofun)
  succeed := mark_triple (fun _ _ hv _ => hv.rely) (by simp)
    (fun _ hv hs row hrow hcovers => .succeeds (hv.isCreated hs hrow hcovers) (.inl rfl))
    (fun _ _ _ => trivial) (fun _ _ _ => trivial)

private def forwardPass (first : Int) (m : ServiceModule) (id : TaskId) (staleAfter : Duration)
    (cutoff : Timestamp) : Reconciliation.KeyedOutline
      ((Contract.forward first).stores id (.reconcile staleAfter)) m cutoff where
  start _ := True
  row := forwardEntry first m id staleAfter
  keeps e v v' hv hrely := Found.rely hv hrely.2.1
  keepsOther e later v c r v' hne hv hmarks _ hanswer := by
    obtain ⟨a, hanswer, rfl⟩ := hanswer
    cases hanswer with
    | applied c => exact Found.apply_of_ne hv hne hmarks
    | failed c err => exact hv
  find := by
    refine unmarked_triple nofun (fun _ _ _ _ _ => trivial) ?_ (fun _ _ _ => nofun)
    intro v _ hs _ rows hrows
    cases hrows
    refine ⟨hs.keyed.nodup_stalledAudits cutoff, fun e he => ?_⟩
    have hcreated := Store.status_of_mem_stalledAudits he
    refine ⟨e, (Store.mem_of_mem_stalledAudits he).1, rfl, rfl, ?_⟩
    by_cases hold : e.id ≤ first
    · exact .inl ⟨hold, hcreated⟩
    · exact .inr ⟨Int.not_le.mp hold, by rw [hcreated]; rfl⟩

end Pass

/-! ## Runs -/

/-- Tables and tasks agree, all tasks are of one process, and one of them at most is a pass under
    way. -/
structure State.Solitary (p : ProcessId) (S : State) : Prop where
  locked : S.Locked
  process : ∀ id task, S.tasks id = some task → task.process = p
  pass : S.AtMostOne Job.Reconciles

variable {m : ServiceModule} {p : ProcessId}

private theorem forward_refl (id : TaskId) (job : Job) (v : View) :
    (Contract.forward first).rely id job v v :=
  ⟨fun _ h => h, fun e he => ⟨e, he, .refl e, .refl _ _ _ e⟩⟩

private theorem forward_trans (id : TaskId) (job : Job) (v v' v'' : View)
    (hinside : v'.inside = v.inside) (h : (Contract.forward first).rely id job v v')
    (h' : (Contract.forward first).rely id job v' v'') :
    (Contract.forward first).rely id job v v'' := by
  refine ⟨fun _ hmem => h'.1 (h.1 hmem), fun e he => ?_⟩
  obtain ⟨e', he', hlater, hkeeps⟩ := h.2 e he
  obtain ⟨e'', he'', hlater', hkeeps'⟩ := h'.2 e' he'
  rw [hinside] at hkeeps'
  exact ⟨e'', he'', hlater.trans hlater', hkeeps.trans hlater hkeeps'⟩

/-- A call of one task leaves another one that is under way what it relies on. -/
private theorem forward_others {S : State} (hS : S.Solitary p) {j : TaskId} {task other : Task}
    {k : c.Reply → ServiceProgram Outcome} (hid : S.tasks id = some task)
    (hlive : task.dropped = false) (hrest : task.rest = .ask (.store c) k)
    (hguar : (Contract.forward first).guar id task.job (S.view task) c)
    (hj : S.tasks j = some other) (hotherLive : other.dropped = false)
    (hunder : other.isOver = false) (hne : id ≠ j) :
    (Contract.forward first).rely j other.job (S.view other) ((S.view other).perform id c) := by
  have hself : task.isOver = false := by rw [Task.isOver_of_rest hrest, hlive]
  refine rely_of_keeps (v := S.view task) fun e he target status error hc hcovers => ?_
  refine ((hguar target status error hc).2 e he hcovers).keeps ?_ ?_
  -- two passes under way, or two tasks inside one tenant's lock, would be one task
  · intro hpass hotherPass
    exact hne (hS.pass id j task other hid hj hpass hotherPass hself hunder)
  · intro t htask hinside hother
    by_contra hotherInside
    have hprocess := (hS.process id task hid).trans (hS.process j other hj).symm
    exact hne (hS.locked.eq_of_inside hid hj hlive hotherLive hinside
      (Bool.not_eq_false _ ▸ hotherInside) hprocess (htask.trans hother.symm))

/-- The tasks of one process with one pass at a time keep their promises. -/
theorem forward_coherent (first : Int) (m : ServiceModule) (p : ProcessId) :
    (Contract.forward first).Coherent m (State.Solitary p) fun p' _ => p' = p where
  refl := forward_refl
  trans := forward_trans
  starts id _ job v _ hv _ := by
    cases job with
    | provision owner t displayName actor =>
      exact Contract.provision_guarded_of_attempt
        (Contract.surroundings_steady forward_refl forward_trans _ _) hv
        (fun _ _ => (forwardAttempt first m id owner t displayName actor).guarded rfl)
        fun _ _ _ _ _ _ _ => trivial
    | reconcile staleAfter =>
      exact Contract.reconcile_guarded_of_pass hv
        (fun _ cutoff _ => (forwardPass first m id staleAfter cutoff).guarded
          ((Contract.surroundings_steady forward_refl forward_trans _ _).comap
            ServiceCall.store fun _ reply => reply) trivial)
        fun _ _ _ => trivial
  keeps _ _ _ _ hinv hguar := backed_apply hinv hguar
  others S id task c k j other hI hS hid hlive hrest hguar hj hotherLive hne := by
    cases hotherRest : other.rest with
    | done outcome => exact fun _ _ => trivial
    | ask c' k' =>
      have hunder : other.isOver = false := by rw [Task.isOver_of_rest hotherRest, hotherLive]
      have hrely := forward_others hI hid hlive hrest hguar hj hotherLive hunder hne
      have hguarded := hS.tasks j other hj hotherLive
      rw [hotherRest] at hguarded
      exact hguarded.mono (Contract.surroundings_steady forward_refl forward_trans _ _)
        ⟨rfl, hrely, backed_apply (v := S.view task) hS.inv hguar⟩
  ticks _ _ _ h := ⟨⟨h.keyed.nodup, h.keyed.le_last⟩, h.first_le, h.exists_schema⟩
  ticksOthers _ job _ _ inside _ :=
    ⟨fun _ h => h, fun e he => ⟨e, he, .refl e, .refl _ job inside e⟩⟩

/-- In one process that provisions and reconciles, with one pass at a time, whatever the order of
    calls, whichever fail and wherever tasks are dropped: between any two moments the status of a row
    stays or moves forward; a row that was successful or failed stays so; and if at the first of them,
    which may be the beginning, rows have an error text exactly when they failed, they do at the
    second. -/
theorem audits_move_forward (m : ServiceModule) (p : ProcessId) (s : Store)
    (before after : List Move) (hs : s.Keyed)
    (hprocess : ∀ move ∈ before ++ after, move.Admits fun p' _ => p' = p)
    (hpasses : State.Successive m Job.Reconciles (State.idle s) (before ++ after)) :
    (∀ row status, ((State.idle s).run m before).store.status? row = some status →
      ∃ status', ((State.idle s).run m (before ++ after)).store.status? row = some status' ∧
        (status' = status ∨ status' ∈ status.next)) ∧
    (∀ row status, ((State.idle s).run m before).store.status? row = some status →
      status = .success ∨ status = .failed →
        ((State.idle s).run m (before ++ after)).store.status? row = some status) ∧
    ((∀ e ∈ ((State.idle s).run m before).store.audits,
        e.error.isSome = true ↔ e.status = .failed) →
      ∀ e ∈ ((State.idle s).run m (before ++ after)).store.audits,
        e.error.isSome = true ↔ e.status = .failed) := by
  have hcoherent := forward_coherent s.lastAudit m p
  have hinv : s.Backed s.lastAudit := hs.backed
  have hsolitary : ∀ part, part <+: before ++ after → ((State.idle s).run m part).Solitary p :=
    fun part hpart => ⟨State.locked_run m s part, fun _ _ hid => State.admitted_run
      (fun move hmem => hprocess move (hpart.subset hmem)) hid, State.atMostOne_run hpasses hpart⟩
  have hforward : ∀ row status, ((State.idle s).run m before).store.status? row = some status →
      ∃ status', ((State.idle s).run m (before ++ after)).store.status? row = some status' ∧
        (status' = status ∨ status' ∈ status.next) := by
    intro row status hrow
    refine hcoherent.preserved_run (P := fun s => ∃ status', s.status? row = some status' ∧
      (status' = status ∨ status' ∈ status.next)) hinv hsolitary hprocess (fun _ _ h => h) ?_
      ⟨status, hrow, .inl rfl⟩
    rintro id job v c hv hguar ⟨status', hrow', hsofar⟩
    obtain ⟨status'', hrow'', hstep⟩ := status?_apply hv hguar hrow'
    refine ⟨status'', hrow'', ?_⟩
    -- what may follow a status includes what may follow that
    rcases hsofar with rfl | hsofar
    · exact hstep
    · exact .inr (hstep.elim (fun hsame => hsame ▸ hsofar) (Audit.Status.next_trans hsofar))
  refine ⟨hforward, ?_, ?_⟩
  · intro row status hrow hfinal
    obtain ⟨status', hrow', hstep⟩ := hforward row status hrow
    rcases hfinal with rfl | rfl <;> simpa [Audit.Status.next] using hstep.elim (· ▸ hrow') nofun
  · intro herror
    exact hcoherent.preserved_run
      (P := fun s => ∀ e ∈ s.audits, e.error.isSome = true ↔ e.status = .failed) hinv hsolitary
      hprocess (fun _ _ h => h) (fun _ _ _ _ _ hguar h _ he' => error_apply hguar h he') herror

/-- A pass finds a row, and an attempt for its tenant begins before the pass looks at the row: the row
    is successful in the end, as is the row of the attempt. -/
theorem audits_move_forward_halfway :
    let before : List Move :=
      [.start 0 0 (.reconcile (.ofMillis 0)), .proceed 0 none, .proceed 0 none,
        .start 1 0 (.provision "app" ⟨3⟩ (some "Globex") "api"), .proceed 1 none, .grant 1,
        .proceed 1 none, .proceed 1 none, .proceed 1 none, .proceed 1 none] ++
        List.replicate 4 (.proceed 0 none)
    let after : List Move := List.replicate 4 (.proceed 1 none)
    let S := State.idle (.halfway .operations ⟨3⟩ "ops_old")
    (∀ move ∈ before ++ after, move.Admits fun p' _ => p' = 0) ∧
      State.Successive .operations Job.Reconciles S (before ++ after) ∧
      (S.run .operations before).store.status? 2 = some .pending ∧
      (S.run .operations (before ++ after)).store.status? 2 = some .success ∧
      (S.run .operations (before ++ after)).store.status? 1 = some .success := by
  intro before after S
  have hprocess : ∀ move ∈ before ++ after, move.Admits fun p' _ => p' = 0 := by
    simp [before, after, Move.Admits]
  have hpasses : State.Successive .operations Job.Reconciles S (before ++ after) := by
    refine ⟨fun _ _ _ _ _ _ _ => nofun, State.successive_of_admits ?_⟩
    simp [after, Move.Admits, Job.Reconciles, Job.tenant?]
  have hkeyed : (Store.halfway .operations ⟨3⟩ "ops_old").Keyed :=
    (Store.founded_halfway .operations ⟨3⟩ (by decide)).keyed
  have hforward := audits_move_forward .operations 0 _ before after hkeyed hprocess hpasses
  refine ⟨hprocess, hpasses, by decide, by decide, ?_⟩
  exact hforward.2.1 1 .success (by decide) (.inl rfl)

end Interleaving

end Tenancy
