import Tenancy.Proofs.FoundRows
import Tenancy.Proofs.Jobs
import Tenancy.Proofs.SchemaName

/-!
# Registered schemas exist

The registry and the operations database are written one after the other, and a schema is never
dropped. `Store.Founded` says that every registered name of a module is that of a schema. A task
keeps it by what it knows when it writes: that it created the schema, or saw it. What it knows stays
true, since schemas and rows of the audit log only become more.

A row of the audit log is marked by its id. The task knows the schema of the row under that id, as
ids are a key of the log.

## Key results

- `Store.Founded.apply`: which calls keep a store founded
- `registered_schemas_exist`: after every run, every registered name is that of a schema, and so is
  the name in every row that was marked as created or successful
-/

namespace Tenancy

namespace Store

variable {s s' s'' : Store} {m : ServiceModule} {c : StoreCall} {id : Int} {schema : String}

/-- Registered names are those of schemas; the audit log is keyed and holds trimmed names, of which
    none is blank. -/
structure Founded (m : ServiceModule) (s : Store) : Prop where
  named : ∀ t name, s.registered? m t = some name → name ∈ s.schemas
  keyed : s.Keyed
  trimmed : ∀ e ∈ s.audits, e.moduleName = m.name → Text.nonBlank? e.schema = some e.schema

/-- A call registers schemas that exist, adds trimmed names to the log, and marks rows as created or
    successful only where their schema exists. -/
structure Founds (m : ServiceModule) (s : Store) (c : StoreCall) : Prop where
  write : ∀ t schema, c = .setModuleSchema t m schema →
    Text.nonBlank? schema = some schema ∧ schema ∈ s.schemas
  insert : ∀ new, c = .insertAudit new → Text.nonBlank? new.schema = some new.schema
  mark : ∀ target status error, c = .updateAudit target status error →
    status = .schemaCreated ∨ status = .success → ∀ e ∈ s.audits, target.covers e = true →
      e.schema ∈ s.schemas

/-- Such calls keep a store founded. -/
theorem Founded.apply (h : s.Founded m) (hc : s.Founds m c) : (s.apply c).2.Founded m where
  named t name hname := by
    apply schemas_subset_apply
    rcases s.registered?_apply c m t with hsame | ⟨schema, rfl, -, hwritten⟩
    · exact h.named t name (hsame ▸ hname)
    · obtain ⟨htrimmed, hexists⟩ := hc.write t schema rfl
      rw [hwritten, htrimmed] at hname
      exact Option.some.inj hname ▸ hexists
  keyed := h.keyed.apply c
  trimmed e' he' hmodule := by
    rcases mem_audits_apply he' with ⟨e, he, hlater⟩ | ⟨new, rfl, rfl⟩
    · rw [hlater.schema_eq]
      exact h.trimmed e he (hlater.moduleName_eq ▸ hmodule)
    · exact hc.insert new rfl

/-- A store where an attempt stopped halfway is founded if the attempt's schema is trimmed. -/
theorem founded_halfway (m : ServiceModule) (t : TenantId)
    (hschema : Text.nonBlank? schema = some schema) : (halfway m t schema).Founded m where
  named u name hname := by
    have hnone : (halfway m t schema).registered? m u = none :=
      registered?_eq_none fun r hr => by rw [List.mem_singleton.mp hr, TenantRecord.unnamed]
    rw [hnone] at hname
    cases hname
  keyed := by
    refine ⟨List.nodup_singleton _, fun e he => ?_⟩
    rw [List.mem_singleton.mp he]
    exact Int.le_refl 1
  trimmed e he _ := by
    rw [List.mem_singleton.mp he]
    exact hschema

/-- The stores have at least the schemas and rows that they had. -/
structure Grows (s s' : Store) : Prop where
  schemas : s.schemas ⊆ s'.schemas
  rows : ∀ e ∈ s.audits, ∃ e' ∈ s'.audits, e.Continues e'

theorem Grows.refl (s : Store) : s.Grows s := ⟨fun _ h => h, fun e he => ⟨e, he, .refl e⟩⟩

theorem Grows.trans (h : s.Grows s') (h' : s'.Grows s'') : s.Grows s'' where
  schemas := fun _ hmem => h'.schemas (h.schemas hmem)
  rows e he := by
    obtain ⟨e', he', hlater⟩ := h.rows e he
    obtain ⟨e'', he'', hlater'⟩ := h'.rows e' he'
    exact ⟨e'', he'', hlater.trans hlater'⟩

theorem grows_apply (s : Store) (c : StoreCall) : s.Grows (s.apply c).2 :=
  ⟨schemas_subset_apply s c, fun _ he => exists_continues_apply c he⟩

/-- The log has a row with an id and a schema. -/
def HasRow (s : Store) (id : Int) (schema : String) : Prop :=
  ∃ e ∈ s.audits, e.id = id ∧ e.schema = schema

theorem HasRow.grows (h : s.HasRow id schema) (hs : s.Grows s') : s'.HasRow id schema := by
  obtain ⟨e, he, hid, hschema⟩ := h
  obtain ⟨e', he', hlater⟩ := hs.rows e he
  exact ⟨e', he', hlater.id_eq.trans hid, hlater.schema_eq.trans hschema⟩

/-- A row that is marked by its id has the schema that is known of it. -/
theorem HasRow.founds_mark (h : s.HasRow id schema) (hs : s.Founded m) (hexists : schema ∈ s.schemas)
    (status : Audit.Status) (error : Option String) :
    s.Founds m (.updateAudit (.entry id) status error) where
  write := nofun
  insert := nofun
  mark target status' error' hcall _ e he hcovers := by
    cases hcall
    obtain ⟨row, hrow, hid, rfl⟩ := h
    have hcovered : e.id = id := by simpa [Audit.Target.covers] using hcovers
    -- ids are a key, so the covered row is the known one
    rwa [hs.keyed.eq_of_id_eq he hrow (hcovered.trans hid.symm)]

/-- The id that is answered when a row is added is the row's. -/
theorem hasRow_insertAudit (s : Store) (new : Audit.NewEntry) :
    (s.apply (.insertAudit new)).2.HasRow (s.apply (.insertAudit new)).1 new.schema :=
  ⟨s.newEntry new (s.lastAudit + 1), List.mem_append_right _ List.mem_cons_self, rfl, rfl⟩

end Store

namespace Interleaving

/-- Tasks keep the stores founded, and rely on their growing. -/
def Contract.founded (m : ServiceModule) : Contract where
  inv s _ := s.Founded m
  rely _ _ v v' := v.store.Grows v'.store
  guar _ _ v c := v.store.Founds m c
  post _ _ _ _ := True

variable {m : ServiceModule} {id : TaskId} {job : Job}

/-- A call, where what was known before still is when it is made. -/
private theorem founded_triple {P : View → Prop} {c : StoreCall} {Q : c.Reply → View → Prop}
    (hP : ∀ v v', P v → v.store.Grows v'.store → P v')
    (hguar : ∀ v, P v → v.store.Founded m → v.store.Founds m c)
    (hok : ∀ v, P v → v.store.Founded m → Q (.ok (v.store.apply c).1) (v.perform id c))
    (herror : ∀ v e, P v → Q (.error e) v) :
    ((Contract.founded m).stores id job).Triple P c Q := by
  refine Contract.stores_triple fun v v' hv _ hrely hinv => ?_
  have hv' := hP v v' hv hrely
  exact ⟨hguar v' hv' hinv, hok v' hv' hinv, fun e => herror v' e hv'⟩

/-! ## Attempts -/

/-- The schema is trimmed and not blank, and an attempt that has a row has it with that schema. -/
private def Noted (schema : String) (inserted : Except DbError Int) (v : View) : Prop :=
  Text.nonBlank? schema = some schema ∧ ∀ row, inserted = .ok row → v.store.HasRow row schema

private theorem Noted.grows {schema : String} {inserted : Except DbError Int} {v v' : View}
    (h : Noted schema inserted v) (hv : v.store.Grows v'.store) : Noted schema inserted v' :=
  ⟨h.1, fun row hrow => (h.2 row hrow).grows hv⟩

/-- Besides, the schema exists. -/
private def Created (schema : String) (inserted : Except DbError Int) (v : View) : Prop :=
  Noted schema inserted v ∧ schema ∈ v.store.schemas

private theorem Created.grows {schema : String} {inserted : Except DbError Int} {v v' : View}
    (h : Created schema inserted v) (hv : v.store.Grows v'.store) : Created schema inserted v' :=
  ⟨h.1.grows hv, hv.schemas h.2⟩

private def foundedAttempt (m : ServiceModule) (id : TaskId) (job : Job) (owner : String)
    (t : TenantId) (displayName : Option String) (actor : String) :
    Provisioning.Outline ((Contract.founded m).stores id job) m owner t displayName actor
      fun _ _ => True where
  start _ := True
  chosen schema _ := Text.nonBlank? schema = some schema
  noted := Noted
  failing _ _ _ := True
  created := Created
  registered := Created
  find := founded_triple (fun _ _ _ _ => trivial) (fun _ _ _ => ⟨nofun, nofun, nofun⟩)
    (fun _ _ _ record _ => Provisioning.nonBlank?_schemaFor m record t displayName)
    (fun _ _ _ => nofun)
  insert schema := by
    refine founded_triple (fun _ _ h _ => h) ?_ ?_ (fun _ _ h => ⟨h, nofun⟩)
    · intro v hschema _
      exact ⟨nofun, fun new hcall => by cases hcall; exact hschema, nofun⟩
    · intro v hschema _
      refine ⟨hschema, fun row hrow => ?_⟩
      cases hrow
      exact v.store.hasRow_insertAudit _
  ensure schema inserted := by
    -- from here on the schema exists: schemas are never dropped
    refine founded_triple (fun _ _ h hv => h.grows hv) (fun _ _ _ => ⟨nofun, nofun, nofun⟩) ?_
      (fun _ _ _ => ⟨nofun, fun _ _ => trivial⟩)
    intro v hnoted _
    refine ⟨fun _ => ⟨hnoted.grows (v.store.grows_apply _), ?_⟩, fun _ _ => trivial⟩
    exact Store.mem_schemas_apply.mpr (.inr ⟨t, owner, rfl⟩)
  fail schema inserted e := by
    refine founded_triple (fun _ _ h _ => h) ?_ (fun _ _ _ => trivial) (fun _ _ _ => trivial)
    -- a row that is marked as failed may name any schema
    exact fun v _ _ => ⟨nofun, nofun, fun _ _ _ hcall hstatus => by cases hcall; simp at hstatus⟩
  progress schema row := founded_triple (fun _ _ h hv => h.grows hv)
    (fun _ h hs => (h.1.2 row rfl).founds_mark hs h.2 _ _)
    (fun v h _ => h.grows (v.store.grows_apply _)) (fun _ _ h => h)
  register schema inserted := by
    refine founded_triple (fun _ _ h hv => h.grows hv) ?_ ?_ (fun _ _ _ => nofun)
    · intro v h _
      exact ⟨fun _ _ hcall => by cases hcall; exact ⟨h.1.1, h.2⟩, nofun, nofun⟩
    · exact fun v h _ _ _ => h.grows (v.store.grows_apply _)
  succeed schema row := founded_triple (fun _ _ h hv => h.grows hv)
    (fun _ h hs => (h.1.2 row rfl).founds_mark hs h.2 _ _)
    (fun _ _ _ _ _ => trivial) (fun _ _ _ _ _ => trivial)
  finish _ _ _ _ _ _ := trivial

/-! ## Passes -/

/-- A row of the log is as it was found. -/
private def Known (e : Audit.Entry) (v : View) : Prop :=
  Text.nonBlank? e.schema = some e.schema ∧ v.store.HasRow e.id e.schema

/-- Besides, its schema exists. -/
private def Present (e : Audit.Entry) (v : View) : Prop :=
  Known e v ∧ e.schema ∈ v.store.schemas

private theorem Known.grows {e : Audit.Entry} {v v' : View} (h : Known e v)
    (hv : v.store.Grows v'.store) : Known e v' := ⟨h.1, h.2.grows hv⟩

private theorem Present.grows {e : Audit.Entry} {v v' : View} (h : Present e v)
    (hv : v.store.Grows v'.store) : Present e v' := ⟨h.1.grows hv, hv.schemas h.2⟩

private def foundedPass (m : ServiceModule) (id : TaskId) (job : Job) (cutoff : Timestamp) :
    Reconciliation.Outline ((Contract.founded m).stores id job) m cutoff where
  start _ := True
  known := Known
  present := Present
  missing _ _ := True
  blank := Present
  registered := Present
  keeps e v v' h hrely := h.grows hrely.2.1
  keepsOwn e v c r v' h _ hanswer := by
    obtain ⟨a, hanswer, rfl⟩ := hanswer
    cases hanswer with
    | applied c => exact h.grows (v.store.grows_apply c)
    | failed c err => exact h
  find := by
    refine founded_triple (fun _ _ h _ => h) (fun _ _ _ => ⟨nofun, nofun, nofun⟩) ?_
      (fun _ _ _ => nofun)
    intro v _ hs rows hrows e he
    cases hrows
    obtain ⟨hmem, hmodule⟩ := Store.mem_of_mem_stalledAudits he
    exact ⟨hs.trimmed e hmem hmodule, e, hmem, rfl, rfl⟩
  look e := by
    -- a pass creates no schema, but it goes on only where it saw one
    refine founded_triple (fun _ _ h hv => h.grows hv) (fun _ _ _ => ⟨nofun, nofun, nofun⟩) ?_
      (fun _ _ _ => ⟨nofun, nofun⟩)
    intro v h _
    refine ⟨fun hanswer => ⟨h, ?_⟩, fun _ => trivial⟩
    exact of_decide_eq_true (Except.ok.inj hanswer)
  fail e := by
    refine founded_triple (fun _ _ h _ => h) ?_ (fun _ _ _ => trivial) (fun _ _ _ => trivial)
    exact fun v _ _ => ⟨nofun, nofun, fun _ _ _ hcall hstatus => by cases hcall; simp at hstatus⟩
  read e := founded_triple (fun _ _ h hv => h.grows hv) (fun _ _ _ => ⟨nofun, nofun, nofun⟩)
    (fun _ h _ _ _ => ⟨fun _ => h, fun _ => h⟩) (fun _ _ _ => nofun)
  repair e := by
    refine founded_triple (fun _ _ h hv => h.grows hv) ?_ ?_ (fun _ _ _ => nofun)
    · intro v h _
      exact ⟨fun _ _ hcall => by cases hcall; exact ⟨h.1.1, h.2⟩, nofun, nofun⟩
    · exact fun v h _ _ _ => h.grows (v.store.grows_apply _)
  succeed e := founded_triple (fun _ _ h hv => h.grows hv)
    (fun _ h hs => h.1.2.founds_mark hs h.2 _ _) (fun _ _ _ => trivial) (fun _ _ _ => trivial)

/-! ## Runs -/

/-- Every task keeps the stores founded, whoever else does what. -/
theorem founded_sound (m : ServiceModule) :
    (Contract.founded m).Sound m (fun _ => True) (fun _ _ => True) where
  refl _ _ v := .refl v.store
  trans _ _ _ _ _ _ h h' := h.trans h'
  starts _ _ _ _ _ hv _ := Contract.job_guarded
    (Contract.surroundings_steady (fun _ _ v => .refl v.store) fun _ _ _ _ _ _ h h' => h.trans h')
    (fun _ _ _ _ => trivial) (foundedAttempt m) (fun _ _ _ _ _ _ _ => trivial) (foundedPass m)
    (fun _ _ _ _ => trivial) hv
  keeps _ _ _ _ hinv hguar := hinv.apply hguar
  others S _ _ c _ _ _ _ _ _ _ _ _ _ := S.store.grows_apply c
  ticks _ _ _ h := ⟨h.named, ⟨h.keyed.nodup, h.keyed.le_last⟩, h.trimmed⟩
  ticksOthers _ _ _ _ _ _ := ⟨fun _ h => h, fun e he => ⟨e, he, .refl e⟩⟩

/-- The stores only grew since a call in the log. -/
private theorem History.grows {s₀ s : Store} {log : List Event} (h : History s₀ s log) {e : Event}
    (he : e ∈ log) : e.before.Grows s := by
  induction log generalizing s with
  | nil => cases he
  | cons last earlier ih =>
    obtain ⟨hsame, hearlier⟩ := h
    have hlast : last.before.Grows s := by
      have happly := last.before.grows_apply last.call
      unfold SameButClock at hsame
      rw [hsame]
      exact ⟨happly.schemas, happly.rows⟩
    cases List.mem_cons.mp he with
    | inl heq => exact heq ▸ hlast
    | inr hmem => exact (ih hearlier hmem).trans hlast

/-- In any number of processes that provision and reconcile, whatever the order of their calls,
    whichever fail and wherever they are dropped: every name that is registered is that of a schema,
    and so is the name in every row of the audit log that was marked as created or successful. -/
theorem registered_schemas_exist (m : ServiceModule) (s : Store) (moves : List Move)
    (hs : s.Founded m) :
    (∀ t name, ((State.idle s).run m moves).store.registered? m t = some name →
      name ∈ ((State.idle s).run m moves).store.schemas) ∧
    ∀ e ∈ ((State.idle s).run m moves).log, ∀ target status error,
      e.call = .updateAudit target status error → status = .schemaCreated ∨ status = .success →
        ∀ row ∈ e.before.audits, target.covers row = true →
          row.schema ∈ ((State.idle s).run m moves).store.schemas := by
  have hholds := (founded_sound m).holds_every_run hs moves
  refine ⟨hholds.inv.named, fun e he target status error hcall hstatus row hrow hcovers => ?_⟩
  -- the schema existed when the row was marked, and the stores only grew since
  obtain ⟨later, earlier, hlog⟩ := List.append_of_mem he
  obtain ⟨-, job, inside, hguar⟩ := hholds.log later e earlier hlog
  have hexists := hguar.mark target status error hcall hstatus row hrow hcovers
  exact ((State.history_run m s moves).grows he).schemas hexists

/-- Two processes and a pass at work on one tenant; the second attempt is dropped while its schema is
    created. -/
theorem registered_schemas_exist_halfway :
    (Store.halfway .operations ⟨3⟩ "ops_old").Founded .operations ∧
      "ops_old" ∈ ((State.idle (.halfway .operations ⟨3⟩ "ops_old")).run .operations
        ([.start 0 0 (.reconcile ⟨0⟩), .start 1 1 (.provision "app" ⟨3⟩ (some "Globex") "api")] ++
          List.replicate 4 (.proceed 0 none) ++ [.proceed 1 none, .grant 1] ++
          List.replicate 3 (.proceed 1 none) ++ [.drop 1 true] ++
          List.replicate 2 (.proceed 0 none))).store.schemas := by
  have hfounded : (Store.halfway .operations ⟨3⟩ "ops_old").Founded .operations :=
    Store.founded_halfway .operations ⟨3⟩ (by decide)
  exact ⟨hfounded, (registered_schemas_exist .operations _ _ hfounded).1 ⟨3⟩ "ops_old" (by decide)⟩

end Interleaving

end Tenancy
