import Mathlib.Data.List.Forall2
import Tenancy.Proofs.SchemaExistence

/-!
# What tasks leave alone

Tasks address rows in three ways: by a tenant and a module's column, by the id of a row of the audit
log, and as all pending rows of a tenant and module. `Store.Frame` says what may be different
between two stores at all: one module's column, and the status and error text of that module's rows,
for the tenants that may be touched. A call that spares everything else keeps to the frame, and a
task makes only such calls: it marks a row by its id only if it added the row or a pass picked it
up, and ids are a key.

## Key results

- `Store.Frame.apply`: what one call leaves alone
- `Interleaving.sparing_sound`: which calls tasks make
-/

namespace Tenancy

/-! ## Frames -/

/-- A later form of a tenant's row, in which only one module's column and the time of the last
    change may be different. -/
structure TenantRecord.KeepsBeside (m : ServiceModule) (r r' : TenantRecord) : Prop where
  eq : r' = { r with schemas := r'.schemas, modifiedAt := r'.modifiedAt }
  column : ∀ k, k ≠ m → r'.schemas.column k = r.schemas.column k

namespace TenantRecord.KeepsBeside

variable {m : ServiceModule} {r r' r'' : TenantRecord}

theorem refl (m : ServiceModule) (r : TenantRecord) : r.KeepsBeside m r := ⟨rfl, fun _ _ => rfl⟩

theorem trans (h : r.KeepsBeside m r') (h' : r'.KeepsBeside m r'') : r.KeepsBeside m r'' where
  eq := by rw [h'.eq, h.eq]
  column k hk := (h'.column k hk).trans (h.column k hk)

theorem tenant_eq (h : r.KeepsBeside m r') : r'.tenant = r.tenant := by rw [h.eq]

theorem withSchema (m : ServiceModule) (r : TenantRecord) (schema : String) (now : Timestamp) :
    r.KeepsBeside m (r.withSchema m schema now) where
  eq := rfl
  column _ hk := ModuleSchemas.column_set_of_ne r.schemas schema hk

end TenantRecord.KeepsBeside

namespace Store

variable {m : ServiceModule} {allowed allowed' : TenantId → Prop} {s s' s'' : Store}

/-- What becomes of a tenant's row, where only the rows of some tenants may change. -/
def KeepsRow (m : ServiceModule) (allowed : TenantId → Prop) (r r' : TenantRecord) : Prop :=
  r.KeepsBeside m r' ∧ (¬allowed r.tenant → r' = r)

/-- What becomes of a row of the audit log. -/
def KeepsEntry (m : ServiceModule) (allowed : TenantId → Prop) (e e' : Audit.Entry) : Prop :=
  e.Continues e' ∧ (e.moduleName ≠ m.name ∨ ¬allowed e.tenant → e' = e)

/-- The same rows stand in both stores, in the same order, and some may have been added to the log.
    Only a module's column and the time of the last change are different in a tenant's row, and only
    the status and the error text in a row of the log; and rows of other modules, and of tenants
    other than those allowed, are as they were. -/
structure Frame (m : ServiceModule) (allowed : TenantId → Prop) (s s' : Store) : Prop where
  tenants : s.tenants.Forall₂ (KeepsRow m allowed) s'.tenants
  audits : ∃ kept added, s'.audits = kept ++ added ∧ s.audits.Forall₂ (KeepsEntry m allowed) kept ∧
    ∀ e ∈ added, e.moduleName = m.name ∧ allowed e.tenant

namespace Frame

private theorem keepsRow_trans (r r' r'' : TenantRecord) (h : KeepsRow m allowed r r')
    (h' : KeepsRow m allowed r' r'') : KeepsRow m allowed r r'' := by
  refine ⟨h.1.trans h'.1, fun hnot => ?_⟩
  have hnot' : ¬allowed r'.tenant := by rwa [h.1.tenant_eq]
  rw [h'.2 hnot', h.2 hnot]

private theorem keepsEntry_trans (e e' e'' : Audit.Entry) (h : KeepsEntry m allowed e e')
    (h' : KeepsEntry m allowed e' e'') : KeepsEntry m allowed e e'' := by
  refine ⟨h.1.trans h'.1, fun hnot => ?_⟩
  have hnot' : e'.moduleName ≠ m.name ∨ ¬allowed e'.tenant := by
    rwa [h.1.moduleName_eq, h.1.tenant_eq]
  rw [h'.2 hnot', h.2 hnot]

private theorem forall₂_trans {α : Type} {R : α → α → Prop} (hR : ∀ a b c, R a b → R b c → R a c)
    {l l' l'' : List α} (h : l.Forall₂ R l') (h' : l'.Forall₂ R l'') : l.Forall₂ R l'' := by
  induction h generalizing l'' with
  | nil => exact h'
  | cons hab _ ih =>
    cases h' with
    | cons hbc hrest => exact .cons (hR _ _ _ hab hbc) (ih hrest)

private theorem exists_of_mem {α : Type} {R : α → α → Prop} {l l' : List α} (h : l.Forall₂ R l')
    {b : α} (hb : b ∈ l') : ∃ a ∈ l, R a b := by
  induction h with
  | nil => cases hb
  | cons hab _ ih =>
    cases List.mem_cons.mp hb with
    | inl heq => exact ⟨_, List.mem_cons_self, heq ▸ hab⟩
    | inr hmem =>
      obtain ⟨a, ha, hR⟩ := ih hmem
      exact ⟨a, List.mem_cons_of_mem _ ha, hR⟩

theorem refl (m : ServiceModule) (allowed : TenantId → Prop) (s : Store) : s.Frame m allowed s where
  tenants := List.forall₂_same.mpr fun r _ => ⟨.refl m r, fun _ => rfl⟩
  audits := ⟨s.audits, [], by simp, List.forall₂_same.mpr fun e _ => ⟨.refl e, fun _ => rfl⟩, nofun⟩

theorem of_eq (htenants : s'.tenants = s.tenants) (haudits : s'.audits = s.audits) :
    s.Frame m allowed s' := by
  obtain ⟨hrows, hentries⟩ := refl m allowed s
  exact ⟨htenants ▸ hrows, haudits ▸ hentries⟩

/-- Rows that were added meanwhile may change like those that were there before. -/
theorem trans (h : s.Frame m allowed s') (h' : s'.Frame m allowed s'') : s.Frame m allowed s'' where
  tenants := forall₂_trans keepsRow_trans h.tenants h'.tenants
  audits := by
    obtain ⟨kept, added, hrows, hkept, hadded⟩ := h.audits
    obtain ⟨kept', added', hrows', hkept', hadded'⟩ := h'.audits
    rw [hrows] at hkept'
    -- of the rows that stand in both later stores, the first ones stand in all three
    have hold := List.forall₂_take kept.length hkept'
    have hnew := List.forall₂_drop kept.length hkept'
    rw [List.take_left] at hold
    rw [List.drop_left] at hnew
    refine ⟨kept'.take kept.length, kept'.drop kept.length ++ added', ?_,
      forall₂_trans keepsEntry_trans hkept hold, fun e he => ?_⟩
    · rw [hrows', ← List.append_assoc, List.take_append_drop]
    · cases List.mem_append.mp he with
      | inl hmem =>
        obtain ⟨e₀, he₀, hlater, -⟩ := exists_of_mem hnew hmem
        rw [hlater.moduleName_eq, hlater.tenant_eq]
        exact hadded e₀ he₀
      | inr hmem => exact hadded' e hmem

end Frame

/-- A call writes to the column of a module, adds rows of it and marks rows of it, and all this only
    for some tenants. -/
structure Spares (m : ServiceModule) (allowed : TenantId → Prop) (s : Store) (c : StoreCall) :
    Prop where
  write : ∀ t k schema, c = .setModuleSchema t k schema → k = m ∧ allowed t
  insert : ∀ new, c = .insertAudit new → new.module = m ∧ allowed new.tenant
  mark : ∀ target status error, c = .updateAudit target status error → ∀ e ∈ s.audits,
    target.covers e = true → e.moduleName = m.name ∧ allowed e.tenant

theorem Spares.mono {c : StoreCall} (h : s.Spares m allowed c)
    (himp : ∀ t, allowed t → allowed' t) :
    s.Spares m allowed' c where
  write t k schema hc := (h.write t k schema hc).imp_right (himp t)
  insert new hc := (h.insert new hc).imp_right (himp _)
  mark target status error hc e he hcovers :=
    (h.mark target status error hc e he hcovers).imp_right (himp _)

/-- Such a call keeps to the frame. -/
theorem Frame.apply {c : StoreCall} (hc : s.Spares m allowed c) :
    s.Frame m allowed (s.apply c).2 := by
  cases c with
  | setModuleSchema t k schema =>
    obtain ⟨rfl, ht⟩ := hc.write t k schema rfl
    refine ⟨?_, (Frame.refl k allowed s).audits⟩
    refine List.forall₂_map_right_iff.mpr (List.forall₂_same.mpr fun r _ => ?_)
    by_cases hr : r.tenant = t
    · rw [if_pos (beq_iff_eq.mpr hr)]
      exact ⟨.withSchema k r schema s.clock, fun hnot => absurd (hr ▸ ht) hnot⟩
    · rw [if_neg (by simpa using hr)]
      exact ⟨.refl k r, fun _ => rfl⟩
  | insertAudit new =>
    obtain ⟨hmodule, ht⟩ := hc.insert new rfl
    refine ⟨(Frame.refl m allowed s).tenants, s.audits, _, rfl,
      List.forall₂_same.mpr fun e _ => ⟨.refl e, fun _ => rfl⟩, fun e he => ?_⟩
    rw [List.mem_singleton.mp he]
    exact ⟨congrArg ServiceModule.name hmodule, ht⟩
  | updateAudit target status error =>
    refine ⟨(Frame.refl m allowed s).tenants, _, [], (List.append_nil _).symm, ?_, nofun⟩
    refine List.forall₂_map_right_iff.mpr (List.forall₂_same.mpr fun e he => ?_)
    split
    · next hcovers =>
      obtain ⟨hmodule, ht⟩ := hc.mark target status error rfl e he hcovers
      refine ⟨.mark e status error, ?_⟩
      rintro (hnot | hnot)
      · exact absurd hmodule hnot
      · exact absurd ht hnot
    · exact ⟨.refl e, fun _ => rfl⟩
  | ensureSchema t schema owner =>
    simp only [Store.apply, addSchema]
    split <;> exact .of_eq rfl rfl
  | _ => exact .of_eq rfl rfl

end Store

/-! ## What tasks spare -/

namespace Interleaving

/-- A pass has found a row of the tenant. -/
def PickedUp (m : ServiceModule) (log : List Event) (t : TenantId) : Prop :=
  ∃ e ∈ log, ∃ cutoff, e.call = .stalledAudits m cutoff ∧
    ∃ row ∈ e.before.stalledAudits m cutoff, row.tenant = t

/-- Some call names the tenant, or a pass has found a row of it. -/
def Touched (m : ServiceModule) (named : TenantId → Prop) (log : List Event) (t : TenantId) :
    Prop :=
  named t ∨ PickedUp m log t

/-- What was touched stays touched. -/
theorem Touched.mono {m : ServiceModule} {named : TenantId → Prop} {log log' : List Event}
    (hlog : log ⊆ log') {t : TenantId} (h : Touched m named log t) : Touched m named log' t := by
  refine h.imp_right ?_
  rintro ⟨e, he, hfound⟩
  exact ⟨e, hlog he, hfound⟩

/-- Tasks leave alone what is not touched. They rely on rows of the log staying what they are. -/
def Contract.sparing (m : ServiceModule) (named : TenantId → Prop) : Contract where
  inv s _ := s.Keyed
  rely _ _ v v' := v.store.Grows v'.store ∧ v.log ⊆ v'.log
  guar _ _ v c := v.store.Spares m (Touched m named v.log) c
  post _ _ _ _ := True

variable {m : ServiceModule} {named : TenantId → Prop} {id : TaskId} {job : Job}

private theorem sparing_steady (id : TaskId) (job : Job) :
    ((Contract.sparing m named).surroundings id job).Steady :=
  Contract.surroundings_steady (K := Contract.sparing m named)
    (fun _ _ v => ⟨.refl v.store, List.Subset.refl v.log⟩)
    (fun _ _ _ _ _ _ h h' => ⟨h.1.trans h'.1, List.Subset.trans h.2 h'.2⟩) id job

/-- What is known of a row of the log: it is there, in a later form, and of the module. -/
private def Has (m : ServiceModule) (id : Int) (t : TenantId) (v : View) : Prop :=
  ∃ e ∈ v.store.audits, e.id = id ∧ e.moduleName = m.name ∧ e.tenant = t

private theorem Has.grows {row : Int} {t : TenantId} {v v' : View} (h : Has m row t v)
    (hv : v.store.Grows v'.store) : Has m row t v' := by
  obtain ⟨e, he, hid, hmodule, ht⟩ := h
  obtain ⟨e', he', hlater⟩ := hv.rows e he
  exact ⟨e', he', hlater.id_eq.trans hid, hlater.moduleName_eq.trans hmodule,
    hlater.tenant_eq.trans ht⟩

/-- Marking such a row by its id marks no other, since ids are a key. -/
private theorem Has.spares_mark {row : Int} {t : TenantId} {v : View} (h : Has m row t v)
    (hkeyed : v.store.Keyed) (ht : Touched m named v.log t) (status : Audit.Status)
    (error : Option String) :
    v.store.Spares m (Touched m named v.log) (.updateAudit (.entry row) status error) where
  write := nofun
  insert := nofun
  mark := by
    rintro _ _ _ ⟨⟩ e he hcovers
    obtain ⟨e', he', hid, hmodule, rfl⟩ := h
    have hcovered : e.id = row := by simpa [Audit.Target.covers] using hcovers
    rw [hkeyed.eq_of_id_eq he he' (hcovered.trans hid.symm)]
    exact ⟨hmodule, ht⟩

/-- A call, where what was known before still is when it is made. -/
private theorem sparing_triple {P : View → Prop} {c : StoreCall} {Q : c.Reply → View → Prop}
    (hP : ∀ v v', P v → v.store.Grows v'.store → v.log ⊆ v'.log → P v')
    (hguar : ∀ v, P v → v.store.Keyed → v.store.Spares m (Touched m named v.log) c)
    (hok : ∀ v, P v → Q (.ok (v.store.apply c).1) (v.perform id c))
    (herror : ∀ v e, P v → Q (.error e) v) :
    ((Contract.sparing m named).stores id job).Triple P c Q := by
  refine Contract.stores_triple fun v v' hv _ hrely hkeyed => ?_
  have hv' := hP v v' hv hrely.1 hrely.2
  exact ⟨hguar v' hv' hkeyed, hok v' hv', fun e => herror v' e hv'⟩

/-- A call that neither writes a column nor changes the log. -/
private theorem spares_other {s : Store} {allowed : TenantId → Prop} {c : StoreCall}
    (hwrite : ∀ t k schema, c ≠ .setModuleSchema t k schema) (hinsert : ∀ new, c ≠ .insertAudit new)
    (hmark : ∀ target status error, c ≠ .updateAudit target status error) :
    s.Spares m allowed c where
  write t k schema hc := absurd hc (hwrite t k schema)
  insert new hc := absurd hc (hinsert new)
  mark target status error hc := absurd hc (hmark target status error)

/-- An attempt that has a row has one of its module and tenant. -/
private def Owns (m : ServiceModule) (t : TenantId) (inserted : Except DbError Int) (v : View) :
    Prop :=
  ∀ row, inserted = .ok row → Has m row t v

private theorem Owns.grows {t : TenantId} {inserted : Except DbError Int} {v v' : View}
    (h : Owns m t inserted v) (hv : v.store.Grows v'.store) : Owns m t inserted v' :=
  fun row hrow => (h row hrow).grows hv

private def sparingAttempt (m : ServiceModule) (id : TaskId) (job : Job) (owner : String)
    (t : TenantId) (displayName : Option String) (actor : String) (ht : named t) :
    Provisioning.Outline ((Contract.sparing m named).stores id job) m owner t displayName actor
      fun _ _ => True where
  start _ := True
  chosen _ _ := True
  noted _ inserted v := Owns m t inserted v
  failing _ inserted v := Owns m t inserted v
  created _ inserted v := Owns m t inserted v
  registered _ inserted v := Owns m t inserted v
  find := sparing_triple (fun _ _ _ _ _ => trivial) (fun _ _ _ => spares_other nofun nofun nofun)
    (fun _ _ _ _ => trivial) fun _ _ _ => nofun
  insert schema := by
    refine sparing_triple (fun _ _ _ _ _ => trivial) ?_ ?_ fun _ _ _ => nofun
    · intro v _ _
      exact ⟨nofun, fun new hc => by cases hc; exact ⟨rfl, .inl ht⟩, nofun⟩
    · rintro v _ row ⟨⟩
      exact ⟨_, List.mem_append_right _ List.mem_cons_self, rfl, rfl, rfl⟩
  ensure _ _ := sparing_triple (fun _ _ h hv _ => h.grows hv)
    (fun _ _ _ => spares_other nofun nofun nofun)
    (fun v h => ⟨fun _ => h.grows (v.store.grows_apply _),
        fun _ _ => h.grows (v.store.grows_apply _)⟩)
    fun _ _ h => ⟨fun _ => h, fun _ _ => h⟩
  fail _ inserted e := by
    refine sparing_triple (fun _ _ h hv _ => h.grows hv) ?_ (fun _ _ => trivial)
      fun _ _ _ => trivial
    intro v h hkeyed
    cases inserted with
    | ok row => exact (h row rfl).spares_mark hkeyed (.inl ht) _ _
    | error err =>
      refine ⟨nofun, nofun, ?_⟩
      rintro _ _ _ ⟨⟩ row - hcovers
      simp only [Provisioning.failureTarget, Audit.Target.covers, Bool.and_eq_true,
        beq_iff_eq] at hcovers
      obtain ⟨⟨⟨rfl, hmodule⟩, -⟩, -⟩ := hcovers
      exact ⟨hmodule, .inl ht⟩
  progress _ row := sparing_triple (fun _ _ h hv _ => h.grows hv)
    (fun _ h hkeyed => (h row rfl).spares_mark hkeyed (.inl ht) _ _)
    (fun v h => h.grows (v.store.grows_apply _)) fun _ _ h => h
  register schema _ := by
    refine sparing_triple (fun _ _ h hv _ => h.grows hv) ?_
      (fun v h _ _ => h.grows (v.store.grows_apply _)) fun _ _ _ => nofun
    intro v _ _
    exact ⟨fun u k name hc => by cases hc; exact ⟨rfl, .inl ht⟩, nofun, nofun⟩
  succeed _ row := sparing_triple (fun _ _ h hv _ => h.grows hv)
    (fun _ h hkeyed => (h row rfl).spares_mark hkeyed (.inl ht) _ _)
    (fun _ _ _ _ => trivial) fun _ _ _ _ _ => trivial
  finish _ _ _ _ _ _ := trivial

/-- A row that a pass works on stands in the log, and the pass has picked it up. -/
private def WorkedOn (m : ServiceModule) (e : Audit.Entry) (v : View) : Prop :=
  Has m e.id e.tenant v ∧ PickedUp m v.log e.tenant

private theorem WorkedOn.grows {e : Audit.Entry} {v v' : View} (h : WorkedOn m e v)
    (hv : v.store.Grows v'.store) (hlog : v.log ⊆ v'.log) : WorkedOn m e v' := by
  refine ⟨h.1.grows hv, ?_⟩
  obtain ⟨event, hevent, hfound⟩ := h.2
  exact ⟨event, hlog hevent, hfound⟩

private theorem WorkedOn.perform {e : Audit.Entry} {v : View} (h : WorkedOn m e v) (c : StoreCall) :
    WorkedOn m e (v.perform id c) :=
  h.grows (v.store.grows_apply c) (List.subset_cons_self _ _)

private def sparingPass (m : ServiceModule) (id : TaskId) (job : Job) (cutoff : Timestamp) :
    Reconciliation.Outline ((Contract.sparing m named).stores id job) m cutoff where
  start _ := True
  known := WorkedOn m
  present := WorkedOn m
  missing := WorkedOn m
  blank := WorkedOn m
  registered := WorkedOn m
  keeps _ _ _ h hrely := h.grows hrely.2.1.1 hrely.2.1.2
  keepsOwn e v c r v' h _ hanswer := by
    obtain ⟨a, hanswer, rfl⟩ := hanswer
    cases hanswer with
    | applied c => exact h.perform c
    | failed c err => exact h
  find := by
    refine sparing_triple (fun _ _ _ _ _ => trivial)
      (fun _ _ _ => spares_other nofun nofun nofun) ?_
      fun _ _ _ => nofun
    rintro v _ rows ⟨⟩ e he
    obtain ⟨hmem, hmodule⟩ := Store.mem_of_mem_stalledAudits he
    exact ⟨⟨e, hmem, rfl, hmodule, rfl⟩, _, List.mem_cons_self, cutoff, rfl, e, he, rfl⟩
  look e := sparing_triple (fun _ _ h => h.grows) (fun _ _ _ => spares_other nofun nofun nofun)
    (fun _ h => ⟨fun _ => h.perform _, fun _ => h.perform _⟩) fun _ _ h => ⟨fun _ => h, fun _ => h⟩
  fail e := sparing_triple (fun _ _ h => h.grows)
    (fun _ h hkeyed => h.1.spares_mark hkeyed (.inr h.2) _ _) (fun _ _ => trivial)
    fun _ _ _ => trivial
  read e := sparing_triple (fun _ _ h => h.grows) (fun _ _ _ => spares_other nofun nofun nofun)
    (fun _ h _ _ => ⟨fun _ => h.perform _, fun _ => h.perform _⟩) fun _ _ _ _ => nofun
  repair e := by
    refine sparing_triple (fun _ _ h => h.grows) ?_ (fun _ h _ _ => h.perform _) fun _ _ _ => nofun
    intro v h _
    exact ⟨fun u k name hc => by cases hc; exact ⟨rfl, .inr h.2⟩, nofun, nofun⟩
  succeed e := sparing_triple (fun _ _ h => h.grows)
    (fun _ h hkeyed => h.1.spares_mark hkeyed (.inr h.2) _ _) (fun _ _ => trivial)
    fun _ _ _ => trivial

/-- Every task leaves alone what is not touched, if calls name only tenants that count as named. -/
theorem sparing_sound (m : ServiceModule) (named : TenantId → Prop) :
    (Contract.sparing m named).Sound m (fun _ => True)
      fun _ job => ∀ t, job.tenant? = some t → named t where
  refl _ _ v := ⟨.refl v.store, List.Subset.refl v.log⟩
  trans _ _ _ _ _ _ h h' := ⟨h.1.trans h'.1, List.Subset.trans h.2 h'.2⟩
  starts id _ job v hjob hv _ := by
    cases job with
    | provision owner t displayName actor =>
      exact Contract.provision_guarded (sparing_steady id _)
        (sparingAttempt m id _ owner t displayName actor (hjob t rfl)) hv (fun _ _ => trivial)
        (fun _ _ _ _ _ _ _ => trivial) fun _ _ => trivial
    | reconcile staleAfter =>
      exact Contract.reconcile_guarded (sparing_steady id _) (sparingPass m id _) hv
        (fun _ _ _ => trivial) fun _ _ => trivial
  keeps _ _ _ c hkeyed _ := hkeyed.apply c
  others S _ _ c _ _ _ _ _ _ _ _ _ _ := ⟨S.store.grows_apply c, List.subset_cons_self _ _⟩
  ticks _ _ _ h := ⟨h.nodup, h.le_last⟩
  ticksOthers _ _ _ _ _ _ :=
    ⟨⟨fun _ h => h, fun e he => ⟨e, he, .refl e⟩⟩, List.Subset.refl _⟩

end Interleaving

end Tenancy
