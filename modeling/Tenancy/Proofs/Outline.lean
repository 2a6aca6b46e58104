import Tenancy.Proofs.RelyGuarantee
import Tenancy.Provisioning
import Tenancy.Reconciliation

/-!
# Outlines of an attempt and of a pass

An outline annotates a program: it names what is known at each point, and shows of each call that it
may be made there and leads to the next point. An outline makes the program guarded. What is known at
a point need not survive what others do; each call is shown right after they had their turn.

Two outlines see more. A detailed outline tells an attempt before it marks its progress from one
after it. A keyed outline of a pass uses that the rows found have different ids, so that the work on
one row leaves what is known of the others.

## Key results

- `Provisioning.Outline.guarded`, `Provisioning.DetailedOutline.guarded`: an attempt with an outline
  is guarded
- `Reconciliation.Outline.guarded`, `Reconciliation.KeyedOutline.guarded`: a pass with an outline is
  guarded
-/

namespace Tenancy

open Program (Guarded Surroundings)

variable {V : Type}

namespace Provisioning

/-- What is known at each point of an attempt. A result matters only where it is a schema. -/
structure Outline (E : Surroundings StoreCall.Reply V) (m : ServiceModule) (owner : String)
    (t : TenantId) (displayName : Option String) (actor : String) (post : String → V → Prop) where
  start : V → Prop
  /-- The schema of the attempt is known. -/
  chosen : String → V → Prop
  /-- The attempt has its row, or could not add one. -/
  noted : String → Except DbError Int → V → Prop
  /-- The schema could not be created. -/
  failing : String → Except DbError Int → V → Prop
  created : String → Except DbError Int → V → Prop
  registered : String → Except DbError Int → V → Prop
  find : E.Triple start (.findTenant t) fun r v =>
    ∀ record, r = .ok (some record) → chosen (schemaFor m record t displayName) v
  insert : ∀ schema, E.Triple (chosen schema) (.insertAudit ⟨t, m, schema, actor⟩) (noted schema)
  ensure : ∀ schema inserted, E.Triple (noted schema inserted) (.ensureSchema t schema owner)
    fun r v => (r = .ok () → created schema inserted v) ∧
      ∀ e, r = .error e → failing schema inserted v
  fail : ∀ schema inserted e, E.Triple (failing schema inserted)
    (.updateAudit (failureTarget inserted t m) .failed (some e)) fun _ _ => True
  progress : ∀ schema id, E.Triple (created schema (.ok id))
    (.updateAudit (.entry id) .schemaCreated none) fun _ => created schema (.ok id)
  register : ∀ schema inserted, E.Triple (created schema inserted) (.setModuleSchema t m schema)
    fun r v => ∀ rows, r = .ok (rows + 1) → registered schema inserted v
  succeed : ∀ schema id, E.Triple (registered schema (.ok id))
    (.updateAudit (.entry id) .success none) fun _ v => ∀ v', E.rely v v' → post schema v'
  finish : ∀ schema e v v', registered schema (.error e) v → E.rely v v' → post schema v'

namespace Outline

variable {E : Surroundings StoreCall.Reply V} {m : ServiceModule} {owner : String} {t : TenantId}
  {displayName : Option String} {actor : String} {post : String → V → Prop} {v : V}

/-- What a result of an attempt says. -/
def Right (post : String → V → Prop) (v : V) (r : Except ProvisioningError String) : Prop :=
  ∀ schema, r = .ok schema → post schema v

private theorem settled_error (e : ProvisioningError) : Program.Settled E (Right post) (.error e) v :=
  fun _ _ _ hr => nomatch hr

private theorem settled_ok {schema : String} (h : ∀ v', E.rely v v' → post schema v') :
    Program.Settled E (Right post) (.ok schema) v := by
  intro v' hv schema' hr
  cases hr
  exact h v' hv

end Outline

/-- What is known at each point of an attempt, before and after the marking of its progress. -/
structure DetailedOutline (E : Surroundings StoreCall.Reply V) (m : ServiceModule) (owner : String)
    (t : TenantId) (displayName : Option String) (actor : String) (post : String → V → Prop) where
  start : V → Prop
  chosen : String → V → Prop
  noted : String → Except DbError Int → V → Prop
  failing : String → Except DbError Int → V → Prop
  created : String → Except DbError Int → V → Prop
  /-- The attempt has tried to mark its row as created, if it has one. -/
  progressed : String → Except DbError Int → V → Prop
  registered : String → Except DbError Int → V → Prop
  find : E.Triple start (.findTenant t) fun r v =>
    ∀ record, r = .ok (some record) → chosen (schemaFor m record t displayName) v
  insert : ∀ schema, E.Triple (chosen schema) (.insertAudit ⟨t, m, schema, actor⟩) (noted schema)
  ensure : ∀ schema inserted, E.Triple (noted schema inserted) (.ensureSchema t schema owner)
    fun r v => (r = .ok () → created schema inserted v) ∧
      ∀ e, r = .error e → failing schema inserted v
  fail : ∀ schema inserted e, E.Triple (failing schema inserted)
    (.updateAudit (failureTarget inserted t m) .failed (some e)) fun _ _ => True
  progress : ∀ schema id, E.Triple (created schema (.ok id))
    (.updateAudit (.entry id) .schemaCreated none) fun _ => progressed schema (.ok id)
  unmarked : ∀ schema e v, created schema (.error e) v → progressed schema (.error e) v
  register : ∀ schema inserted, E.Triple (progressed schema inserted) (.setModuleSchema t m schema)
    fun r v => ∀ rows, r = .ok (rows + 1) → registered schema inserted v
  succeed : ∀ schema id, E.Triple (registered schema (.ok id))
    (.updateAudit (.entry id) .success none) fun _ v => ∀ v', E.rely v v' → post schema v'
  finish : ∀ schema e v v', registered schema (.error e) v → E.rely v v' → post schema v'

namespace DetailedOutline

variable {E : Surroundings StoreCall.Reply V} {m : ServiceModule} {owner : String} {t : TenantId}
  {displayName : Option String} {actor : String} {post : String → V → Prop} {v : V}

private theorem register_guarded (o : DetailedOutline E m owner t displayName actor post)
    {schema : String} {inserted : Except DbError Int} (hv : o.progressed schema inserted v) :
    Guarded E (Outline.Right post) (Provisioning.register m t schema inserted) v := by
  refine Guarded.of_triple (o.register schema inserted) hv fun r v₁ hregistered => ?_
  match r with
  | .error e => exact Outline.settled_error _
  | .ok 0 => exact Outline.settled_error _
  | .ok (rows + 1) =>
    cases inserted with
    | error e =>
      exact Outline.settled_ok fun v' hv' => o.finish schema e v₁ v' (hregistered rows rfl) hv'
    | ok id =>
      exact Guarded.of_triple (o.succeed schema id) (hregistered rows rfl)
        fun _ _ hpost => Outline.settled_ok hpost

private theorem create_guarded (o : DetailedOutline E m owner t displayName actor post)
    {schema : String} {inserted : Except DbError Int} (hv : o.noted schema inserted v) :
    Guarded E (Outline.Right post) (create m owner t schema inserted) v := by
  refine Guarded.of_triple (o.ensure schema inserted) hv fun r v₁ hensured => ?_
  obtain ⟨hcreated, hfailing⟩ := hensured
  match r with
  | .error e =>
    exact Guarded.of_triple (o.fail schema inserted e.message) (hfailing e rfl)
      fun _ _ _ => Outline.settled_error _
  | .ok () =>
    cases inserted with
    | error e => exact o.register_guarded (o.unmarked schema e v₁ (hcreated rfl))
    | ok id =>
      exact Guarded.of_triple (o.progress schema id) (hcreated rfl)
        fun _ _ hprogressed => o.register_guarded hprogressed

/-- An attempt with a detailed outline is guarded. -/
theorem guarded (o : DetailedOutline E m owner t displayName actor post) (hv : o.start v) :
    Guarded E (Outline.Right post) (attempt m owner t displayName actor) v := by
  refine Guarded.of_triple o.find hv fun r v₁ hchosen => ?_
  match r with
  | .error e => exact Outline.settled_error _
  | .ok none => exact Outline.settled_error _
  | .ok (some record) =>
    exact Guarded.of_triple (o.insert _) (hchosen record rfl)
      fun _ _ hnoted => o.create_guarded hnoted

end DetailedOutline

namespace Outline

variable {E : Surroundings StoreCall.Reply V} {m : ServiceModule} {owner : String} {t : TenantId}
  {displayName : Option String} {actor : String} {post : String → V → Prop} {v : V}

/-- An outline does not tell an attempt that marked its progress from one that did not yet. -/
def detailed (o : Outline E m owner t displayName actor post) :
    DetailedOutline E m owner t displayName actor post where
  start := o.start
  chosen := o.chosen
  noted := o.noted
  failing := o.failing
  created := o.created
  progressed := o.created
  registered := o.registered
  find := o.find
  insert := o.insert
  ensure := o.ensure
  fail := o.fail
  progress := o.progress
  unmarked _ _ _ h := h
  register := o.register
  succeed := o.succeed
  finish := o.finish

/-- An attempt with an outline is guarded. -/
theorem guarded (o : Outline E m owner t displayName actor post) (hv : o.start v) :
    Guarded E (Right post) (attempt m owner t displayName actor) v :=
  o.detailed.guarded hv

end Outline

end Provisioning

namespace Reconciliation

/-- What is known at each point of a pass. Of the rows that it has yet to look at something is known
    that nothing changes. -/
structure Outline (E : Surroundings StoreCall.Reply V) (m : ServiceModule) (cutoff : Timestamp) where
  start : V → Prop
  /-- A row was among those found. -/
  known : Audit.Entry → V → Prop
  /-- The row's schema exists. -/
  present : Audit.Entry → V → Prop
  /-- The row's schema does not exist. -/
  missing : Audit.Entry → V → Prop
  /-- The row's tenant has no registered name. -/
  blank : Audit.Entry → V → Prop
  /-- The registered name is the row's schema. -/
  registered : Audit.Entry → V → Prop
  keeps : ∀ e v v', known e v → E.rely v v' → known e v'
  keepsOwn : ∀ e v c r v', known e v → E.guar v c → E.answers v c r v' → known e v'
  find : E.Triple start (.stalledAudits m cutoff) fun r v => ∀ rows, r = .ok rows →
    ∀ e ∈ rows, known e v
  look : ∀ e, E.Triple (known e) (.schemaExists e.schema) fun r v =>
    (r = .ok true → present e v) ∧ (r = .ok false → missing e v)
  fail : ∀ e, E.Triple (missing e) (.updateAudit (.entry e.id) .failed (some schemaNotFound))
    fun _ _ => True
  read : ∀ e, E.Triple (present e) (.findTenant e.tenant) fun r v => ∀ record, r = .ok record →
    ((record.bind fun row => row.schemas.get m) = none → blank e v) ∧
      ((record.bind fun row => row.schemas.get m) = some e.schema → registered e v)
  repair : ∀ e, E.Triple (blank e) (.setModuleSchema e.tenant m e.schema) fun r v =>
    ∀ rows, r = .ok (rows + 1) → registered e v
  succeed : ∀ e, E.Triple (registered e) (.updateAudit (.entry e.id) .success none) fun _ _ => True

/-- What is known at each point of the work on one row. -/
structure EntryOutline (E : Surroundings StoreCall.Reply V) (m : ServiceModule) (e : Audit.Entry) where
  known : V → Prop
  present : V → Prop
  missing : V → Prop
  blank : V → Prop
  registered : V → Prop
  look : E.Triple known (.schemaExists e.schema) fun r v =>
    (r = .ok true → present v) ∧ (r = .ok false → missing v)
  fail : E.Triple missing (.updateAudit (.entry e.id) .failed (some schemaNotFound))
    fun _ _ => True
  read : E.Triple present (.findTenant e.tenant) fun r v => ∀ record, r = .ok record →
    ((record.bind fun row => row.schemas.get m) = none → blank v) ∧
      ((record.bind fun row => row.schemas.get m) = some e.schema → registered v)
  repair : E.Triple blank (.setModuleSchema e.tenant m e.schema) fun r v =>
    ∀ rows, r = .ok (rows + 1) → registered v
  succeed : E.Triple registered (.updateAudit (.entry e.id) .success none) fun _ _ => True

namespace EntryOutline

variable {E : Surroundings StoreCall.Reply V} {m : ServiceModule} {e : Audit.Entry} {v : V}

private theorem settle_guarded {status : Audit.Status} {error : Option String}
    {outcome : Outcome} {P : V → Prop} (hv : P v)
    (h : E.Triple P (.updateAudit (.entry e.id) status error) fun _ _ => True) :
    Guarded E (fun _ _ => True) (settle e status error outcome) v := by
  refine Guarded.of_triple h hv fun r v₁ _ => ?_
  match r with
  | .error err => exact fun _ _ => trivial
  | .ok rows => exact fun _ _ => trivial

private theorem repair_guarded (o : EntryOutline E m e) (hv : o.blank v) :
    Guarded E (fun _ _ => True) (Reconciliation.repair m e) v := by
  refine Guarded.of_triple o.repair hv fun r v₁ hregistered => ?_
  match r with
  | .error err => exact fun _ _ => trivial
  | .ok 0 => exact fun _ _ => trivial
  | .ok (rows + 1) => exact settle_guarded (hregistered rows rfl) o.succeed

/-- The work on a row with an outline is guarded. -/
theorem guarded (o : EntryOutline E m e) (hv : o.known v) :
    Guarded E (fun _ _ => True) (entry m e) v := by
  refine Guarded.of_triple o.look hv fun r v₁ hlooked => ?_
  obtain ⟨hpresent, hmissing⟩ := hlooked
  match r with
  | .error err => exact fun _ _ => trivial
  | .ok false => exact settle_guarded (hmissing rfl) o.fail
  | .ok true =>
    refine Guarded.of_triple o.read (hpresent rfl) fun r' v₂ hread => ?_
    match r' with
    | .error err => exact fun _ _ => trivial
    | .ok record =>
      obtain ⟨hblank, hregistered⟩ := hread record rfl
      simp only [Program.bind]
      split
      · next hnone => exact o.repair_guarded (hblank hnone)
      · next name hname =>
        split
        · next heq => exact settle_guarded (hregistered (heq ▸ hname)) o.succeed
        · exact fun _ _ => trivial

end EntryOutline

section Entries

variable {E : Surroundings StoreCall.Reply V} {m : ServiceModule} {cutoff : Timestamp} {v : V}

/-- A call marks no row but the given one. -/
def MarksOnly (e : Audit.Entry) (c : StoreCall) : Prop :=
  ∀ target status error, c = .updateAudit target status error → target = .entry e.id

private theorem settle_makes {P : StoreCall → Prop} {e : Audit.Entry} (status : Audit.Status)
    (error : Option String) (outcome : Outcome)
    (hmark : ∀ status error, P (.updateAudit (.entry e.id) status error)) :
    (settle e status error outcome).Makes P := by
  refine ⟨hmark status error, fun r => ?_⟩
  cases r <;> trivial

/-- The calls of the work on a row: it asks for the row's schema and tenant, registers the schema, and
    marks the row. -/
theorem entry_makes {P : StoreCall → Prop} (m : ServiceModule) (e : Audit.Entry)
    (hlook : P (.schemaExists e.schema)) (hread : P (.findTenant e.tenant))
    (hwrite : P (.setModuleSchema e.tenant m e.schema))
    (hmark : ∀ status error, P (.updateAudit (.entry e.id) status error)) :
    (entry m e).Makes P := by
  refine ⟨hlook, fun r => ?_⟩
  rcases r with err | _ | _
  · trivial
  · exact settle_makes _ _ _ hmark
  refine ⟨hread, fun r => ?_⟩
  rcases r with err | record
  · trivial
  simp only [Program.bind]
  split
  · refine ⟨hwrite, fun r => ?_⟩
    rcases r with err | _ | rows
    · trivial
    · trivial
    · exact settle_makes _ _ _ hmark
  · split
    · exact settle_makes _ _ _ hmark
    · trivial

/-- The work on a row marks no other. -/
theorem entry_marksOnly (m : ServiceModule) (e : Audit.Entry) : (entry m e).Makes (MarksOnly e) := by
  refine entry_makes m e ?_ ?_ ?_ fun status error => ?_
  · rintro _ _ _ ⟨⟩
  · rintro _ _ _ ⟨⟩
  · rintro _ _ _ ⟨⟩
  · rintro _ _ _ ⟨⟩
    rfl

/-- The calls of a pass: it asks for rows, and works on each. -/
theorem pass_makes {P : StoreCall → Prop} (hfind : P (.stalledAudits m cutoff))
    (hentry : ∀ e, (entry m e).Makes P) : (pass m cutoff).Makes P := by
  have hentries : ∀ rows report, (entries m rows report).Makes P := by
    intro rows
    induction rows with
    | nil => exact fun _ => trivial
    | cons e rest ih => exact fun report => (hentry e).bind fun outcome => ih (report.count outcome)
  refine ⟨hfind, fun r => ?_⟩
  rcases r with err | rows
  · trivial
  · exact (hentries rows {}).bind fun _ => trivial

/-- Rows are worked on one after the other, where the work on one leaves what is known of those that
    come later. -/
private theorem entries_guarded (hE : E.Steady) {known : Audit.Entry → V → Prop}
    (hentry : ∀ e v, known e v → Guarded E (fun _ _ => True) (entry m e) v)
    (hkeeps : ∀ e v v', known e v → E.rely v v' → known e v') {rows : List Audit.Entry}
    (hkeepsOwn : rows.Pairwise fun e later => ∀ v c r v', known later v → MarksOnly e c →
      E.guar v c → E.answers v c r v' → known later v')
    {report : Report} (hv : ∀ e ∈ rows, known e v) :
    Guarded E (fun _ _ => True) (entries m rows report) v := by
  induction rows generalizing v report with
  | nil => exact fun _ _ => trivial
  | cons e rest ih =>
    obtain ⟨hlater, hrest⟩ := List.pairwise_cons.mp hkeepsOwn
    -- the rows that come later stay known while this one is worked on
    have hguarded := (hentry e v (hv e List.mem_cons_self)).frame_of_makes
      (F := fun v => ∀ e' ∈ rest, known e' v) (entry_marksOnly m e)
      (fun v v' hF hrely e' he' => hkeeps e' v v' (hF e' he') hrely)
      (fun v c r v' hF hmarks hguar hr e' he' =>
        hlater e' he' v c r v' (hF e' he') hmarks hguar hr)
      fun e' he' => hv e' (List.mem_cons_of_mem _ he')
    show Guarded E _ (entry m e >>= fun outcome => entries m rest (report.count outcome)) v
    refine Guarded.bind hE (hguarded.imp fun v' outcome h => ?_)
    exact ih hrest h.1

/-- A pass whose rows can be worked on. -/
private theorem pass_guarded (hE : E.Steady) {start : V → Prop} {Q : List Audit.Entry → V → Prop}
    (hfind : E.Triple start (.stalledAudits m cutoff) fun r v => ∀ rows, r = .ok rows → Q rows v)
    (hentries : ∀ rows v, Q rows v → Guarded E (fun _ _ => True) (entries m rows {}) v)
    (hv : start v) : Guarded E (fun _ _ => True) (pass m cutoff) v := by
  refine Guarded.of_triple hfind hv fun r v₁ hfound => ?_
  match r with
  | .error err => exact fun _ _ => trivial
  | .ok rows =>
    show Guarded E _ (entries m rows {} >>= fun report => pure (Except.ok report)) v₁
    refine Guarded.bind hE ((hentries rows v₁ (hfound rows rfl)).imp fun v' report _ => ?_)
    exact fun _ _ => trivial

end Entries

namespace Outline

variable {E : Surroundings StoreCall.Reply V} {m : ServiceModule} {cutoff : Timestamp} {v : V}

/-- The part of an outline that is about one row. -/
def row (o : Outline E m cutoff) (e : Audit.Entry) : EntryOutline E m e where
  known := o.known e
  present := o.present e
  missing := o.missing e
  blank := o.blank e
  registered := o.registered e
  look := o.look e
  fail := o.fail e
  read := o.read e
  repair := o.repair e
  succeed := o.succeed e

/-- A pass with an outline is guarded. -/
theorem guarded (hE : E.Steady) (o : Outline E m cutoff) (hv : o.start v) :
    Guarded E (fun _ _ => True) (pass m cutoff) v := by
  refine pass_guarded hE o.find (fun rows v₁ hknown => ?_) hv
  refine entries_guarded hE (fun e _ h => (o.row e).guarded h) o.keeps ?_ hknown
  exact List.pairwise_of_forall fun _ later v c r v' hv _ hguar hr =>
    o.keepsOwn later v c r v' hv hguar hr

end Outline

/-- What is known at each point of a pass whose rows have different ids. -/
structure KeyedOutline (E : Surroundings StoreCall.Reply V) (m : ServiceModule)
    (cutoff : Timestamp) where
  start : V → Prop
  row : ∀ e, EntryOutline E m e
  keeps : ∀ e v v', (row e).known v → E.rely v v' → (row e).known v'
  keepsOther : ∀ e later v c r v', e.id ≠ later.id → (row later).known v → MarksOnly e c →
    E.guar v c → E.answers v c r v' → (row later).known v'
  find : E.Triple start (.stalledAudits m cutoff) fun r v => ∀ rows, r = .ok rows →
    (rows.map (·.id)).Nodup ∧ ∀ e ∈ rows, (row e).known v

/-- A pass with a keyed outline is guarded. -/
theorem KeyedOutline.guarded {E : Surroundings StoreCall.Reply V} {m : ServiceModule}
    {cutoff : Timestamp} {v : V} (hE : E.Steady) (o : KeyedOutline E m cutoff) (hv : o.start v) :
    Guarded E (fun _ _ => True) (pass m cutoff) v := by
  refine pass_guarded hE o.find (fun rows v₁ hfound => ?_) hv
  obtain ⟨hnodup, hknown⟩ := hfound
  refine entries_guarded hE (fun e _ h => (o.row e).guarded h) o.keeps ?_ hknown
  refine (List.pairwise_map.mp hnodup).imp fun hne v c r v' hv hmarks hguar hr => ?_
  exact o.keepsOther _ _ v c r v' hne hv hmarks hguar hr

end Reconciliation

end Tenancy
