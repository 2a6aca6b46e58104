import Tenancy.Proofs.FoundRows
import Tenancy.Proofs.Serialization
import Tenancy.Proofs.Succession

/-!
# The audit log agrees with the registry

Where jobs follow one another, no task finds that the registry changed since it read it. So a task
registers a name only where none is registered, or the same again; and it marks a row as successful
only when the row's schema is what is registered. Whatever calls fail, and wherever a task is dropped,
what was registered stays, and so do the rows and results that name it.

A result is about a task that is over. It stays right because the tasks after it keep what is
registered, not because they know of it.

## Key results

- `Store.Agrees.apply`: which calls keep the log and the registry in agreement
- `agreed_coherent`: tasks that follow one another make only such calls
- `audits_agree_with_registry`: after every run, rows that were successful and results name what is
  registered
-/

namespace Tenancy

namespace Store

variable {m : ServiceModule} {s : Store} {c : StoreCall} {t : TenantId} {schema : String} {row : Int}

/-- Successful rows name what is registered. The log is keyed and holds trimmed names. -/
structure Agrees (m : ServiceModule) (s : Store) : Prop where
  keyed : s.Keyed
  trimmed : ∀ e ∈ s.audits, Text.nonBlank? e.schema = some e.schema
  registered : ∀ e ∈ s.audits, e.status = .success → s.registered? m e.tenant = some e.schema

/-- A call registers a trimmed name where no other is registered, adds a trimmed name to the log, or
    marks rows as successful whose schema is registered. -/
structure Upholds (m : ServiceModule) (s : Store) (c : StoreCall) : Prop where
  write : ∀ t schema, c = .setModuleSchema t m schema → Text.nonBlank? schema = some schema ∧
    ∀ name, s.registered? m t = some name → name = schema
  insert : ∀ new, c = .insertAudit new → Text.nonBlank? new.schema = some new.schema
  mark : ∀ target error, c = .updateAudit target .success error → ∀ e ∈ s.audits,
    target.covers e = true → s.registered? m e.tenant = some e.schema

theorem Upholds.registered?_apply (h : s.Upholds m c) {name : String}
    (hname : s.registered? m t = some name) : (s.apply c).2.registered? m t = some name :=
  registered?_apply_of_reuse (h.write t) hname

/-- Such calls keep the log and the registry in agreement. -/
theorem Agrees.apply (h : s.Agrees m) (hc : s.Upholds m c) : (s.apply c).2.Agrees m where
  keyed := h.keyed.apply c
  trimmed e' he' := by
    rcases mem_audits_apply he' with ⟨e, he, hlater⟩ | ⟨new, rfl, rfl⟩
    · rw [hlater.schema_eq]
      exact h.trimmed e he
    · exact hc.insert new rfl
  registered e' he' hstatus := by
    rcases mem_apply_cases he' with
      hsame | ⟨e, he, target, status, error, rfl, hcovers, rfl⟩ | ⟨new, rfl, rfl⟩
    · exact hc.registered?_apply (h.registered e' hsame hstatus)
    · obtain rfl : status = .success := hstatus
      exact hc.mark target error rfl e he hcovers
    · cases hstatus

/-- A row of the log is that of an attempt to give a tenant a schema. -/
def Attempted (s : Store) (t : TenantId) (schema : String) (row : Int) : Prop :=
  ∃ e ∈ s.audits, e.id = row ∧ e.tenant = t ∧ e.schema = schema

theorem Attempted.apply (h : s.Attempted t schema row) (c : StoreCall) :
    (s.apply c).2.Attempted t schema row := by
  obtain ⟨e, he, rfl, rfl, rfl⟩ := h
  obtain ⟨e', he', hlater⟩ := exists_continues_apply c he
  exact ⟨e', he', hlater.id_eq, hlater.tenant_eq, hlater.schema_eq⟩

/-- The row of an attempt may be marked as successful when its schema is registered. -/
theorem Attempted.upholds_success (h : s.Attempted t schema row) (hs : s.Keyed)
    (hname : s.registered? m t = some schema) (error : Option String) :
    s.Upholds m (.updateAudit (.entry row) .success error) where
  write := nofun
  insert := nofun
  mark target error' hc e he hcovers := by
    cases hc
    obtain ⟨own, hown, hid, rfl, rfl⟩ := h
    rwa [hs.eq_of_id_eq he hown ((beq_iff_eq.mp hcovers).trans hid.symm)]

/-- Rows may always be marked otherwise. -/
theorem upholds_updateAudit {status : Audit.Status} (h : status ≠ .success)
    (target : Audit.Target) (error : Option String) :
    s.Upholds m (.updateAudit target status error) where
  write := nofun
  insert := nofun
  mark _ _ hc := by
    cases hc
    exact absurd rfl h

end Store

namespace Interleaving

open Program (Guarded)

theorem SameButClock.attempted {s s' : Store} (h : SameButClock s s') {t : TenantId}
    {schema : String} {row : Int} (hrow : s.Attempted t schema row) :
    s'.Attempted t schema row := by
  unfold SameButClock at h
  rw [h]
  exact hrow

theorem SameButClock.trans {s s' s'' : Store} (h : SameButClock s s') (h' : SameButClock s' s'') :
    SameButClock s s'' := by
  unfold SameButClock at h h' ⊢
  rw [h', h]

/-- Tasks keep the log and the registry in agreement, and rely on the stores staying as they are. -/
def Contract.agreed (m : ServiceModule) : Contract where
  inv s _ := s.Agrees m
  rely _ _ v v' := SameButClock v.store v'.store
  guar _ _ v c := v.store.Upholds m c
  post _ job v outcome := ∀ t schema, job.tenant? = some t →
    outcome = .provisioned (.ok schema) → v.store.registered? m t = some schema

variable {m : ServiceModule} {id : TaskId} {job : Job}

/-- A call, where what was known before still is when it is made. -/
private theorem agreed_triple {P : View → Prop} {c : StoreCall} {Q : c.Reply → View → Prop}
    (hP : ∀ v v', P v → SameButClock v.store v'.store → P v')
    (hguar : ∀ v, P v → v.store.Agrees m → v.store.Upholds m c)
    (hok : ∀ v, P v → v.store.Agrees m → Q (.ok (v.store.apply c).1) (v.perform id c))
    (herror : ∀ v e, P v → Q (.error e) v) :
    ((Contract.agreed m).stores id job).Triple P c Q := by
  refine Contract.stores_triple fun v v' hv _ hrely hinv => ?_
  have hv' := hP v v' hv hrely
  exact ⟨hguar v' hv' hinv, hok v' hv' hinv, fun e => herror v' e hv'⟩

/-! ## Attempts -/

section Attempt

variable {owner : String} {t : TenantId} {displayName : Option String} {actor : String}
  {schema : String} {inserted : Except DbError Int} {v v' : View} {c : StoreCall}

/-- The attempt's schema is trimmed, and a name that is registered is that schema. -/
private def Fits (m : ServiceModule) (t : TenantId) (schema : String) (v : View) : Prop :=
  Text.nonBlank? schema = some schema ∧ ∀ name, v.store.registered? m t = some name → name = schema

/-- The attempt's row names its schema, if it has a row. -/
private def Entered (t : TenantId) (schema : String) (inserted : Except DbError Int) (v : View) :
    Prop :=
  ∀ row, inserted = .ok row → v.store.Attempted t schema row

private theorem Fits.same (h : Fits m t schema v) (hv : SameButClock v.store v'.store) :
    Fits m t schema v' := by
  unfold Fits
  rw [hv.registered?_eq]
  exact h

private theorem Fits.perform (h : Fits m t schema v)
    (hc : ∀ schema, c ≠ .setModuleSchema t m schema) : Fits m t schema (v.perform id c) := by
  refine ⟨h.1, fun name hname => h.2 name ?_⟩
  rwa [View.perform, v.store.registered?_apply_of_ne hc] at hname

private theorem Entered.same (h : Entered t schema inserted v)
    (hv : SameButClock v.store v'.store) : Entered t schema inserted v' :=
  fun row hrow => hv.attempted (h row hrow)

private theorem Entered.perform (h : Entered t schema inserted v) (c : StoreCall) :
    Entered t schema inserted (v.perform id c) := fun row hrow => (h row hrow).apply c

private def agreedAttempt (m : ServiceModule) (id : TaskId) (owner : String) (t : TenantId)
    (displayName : Option String) (actor : String) :
    Provisioning.Outline ((Contract.agreed m).stores id (.provision owner t displayName actor)) m
      owner t displayName actor fun schema v => v.store.registered? m t = some schema where
  start _ := True
  chosen := Fits m t
  noted schema inserted v := Fits m t schema v ∧ Entered t schema inserted v
  failing schema inserted _ := True
  created schema inserted v := Fits m t schema v ∧ Entered t schema inserted v
  registered schema inserted v :=
    v.store.registered? m t = some schema ∧ Entered t schema inserted v
  find := by
    -- the schema is the registered name, or there is none to compare with
    refine agreed_triple (fun _ _ h _ => h) (fun _ _ _ => ⟨nofun, nofun, nofun⟩) ?_
      (fun _ _ _ _ h => nomatch h)
    intro v _ _ record hr
    refine ⟨Provisioning.nonBlank?_schemaFor m record t displayName, fun name hname => ?_⟩
    change v.store.registered? m t = some name at hname
    rw [Store.registered?_of_tenant? (Except.ok.inj hr)] at hname
    exact (Provisioning.schemaFor_of_get hname t displayName).symm
  insert schema := by
    refine agreed_triple (fun _ _ h hv => h.same hv) ?_ ?_ (fun _ _ h => ⟨h, nofun⟩)
    · exact fun v h _ => ⟨nofun, fun new hc => by cases hc; exact h.1, nofun⟩
    · intro v h _
      refine ⟨h.perform nofun, fun row hrow => ?_⟩
      cases hrow
      exact ⟨v.store.newEntry _ (v.store.lastAudit + 1), List.mem_append_right _ List.mem_cons_self,
        rfl, rfl, rfl⟩
  ensure schema inserted := agreed_triple (fun _ _ h hv => ⟨h.1.same hv, h.2.same hv⟩)
    (fun _ _ _ => ⟨nofun, nofun, nofun⟩)
    (fun _ h _ => ⟨fun _ => ⟨h.1.perform nofun, h.2.perform _⟩, nofun⟩)
    (fun _ _ _ => ⟨nofun, fun _ _ => trivial⟩)
  fail schema inserted e := agreed_triple (fun _ _ h _ => h)
    (fun _ _ _ => Store.upholds_updateAudit (by decide) _ _) (fun _ _ _ => trivial)
    fun _ _ _ => trivial
  progress schema row := agreed_triple (fun _ _ h hv => ⟨h.1.same hv, h.2.same hv⟩)
    (fun _ _ _ => Store.upholds_updateAudit (by decide) _ _)
    (fun _ h _ => ⟨h.1.perform nofun, h.2.perform _⟩) (fun _ _ h => h)
  register schema inserted := by
    refine agreed_triple (fun _ _ h hv => ⟨h.1.same hv, h.2.same hv⟩) ?_ ?_ (fun _ _ _ => nofun)
    · exact fun v h _ => ⟨fun u name hc => by cases hc; exact h.1, nofun, nofun⟩
    · intro v h _ rows hrows
      exact ⟨Store.registered?_of_rows (Except.ok.inj hrows) h.1.1, h.2.perform _⟩
  succeed schema row := by
    have hpost : ∀ v v', v.store.registered? m t = some schema →
        ((Contract.agreed m).stores id (.provision owner t displayName actor)).rely v v' →
          v'.store.registered? m t = some schema :=
      fun v v' h hrely => hrely.2.1.registered?_eq.trans h
    refine agreed_triple (fun _ _ h hv => ⟨hv.registered?_eq.trans h.1, h.2.same hv⟩) ?_ ?_
      (fun v _ h v' => hpost v v' h.1)
    · exact fun v h hs => (h.2 row rfl).upholds_success hs.keyed h.1 none
    · exact fun v h _ v' => hpost _ v' h.1
  finish schema e v v' h hrely := hrely.2.1.registered?_eq.trans h.1

end Attempt

/-! ## Passes -/

section Pass

variable {e : Audit.Entry} {v v' : View}

/-- A row that was found is in the log, under its name. -/
private def Listed (e : Audit.Entry) (v : View) : Prop :=
  Text.nonBlank? e.schema = some e.schema ∧ v.store.Attempted e.tenant e.schema e.id

private theorem Listed.same (h : Listed e v) (hv : SameButClock v.store v'.store) : Listed e v' :=
  ⟨h.1, hv.attempted h.2⟩

private theorem Listed.perform (h : Listed e v) (c : StoreCall) : Listed e (v.perform id c) :=
  ⟨h.1, h.2.apply c⟩

private def agreedPass (m : ServiceModule) (id : TaskId) (job : Job) (cutoff : Timestamp) :
    Reconciliation.Outline ((Contract.agreed m).stores id job) m cutoff where
  start _ := True
  known := Listed
  present := Listed
  missing _ _ := True
  blank e v := Listed e v ∧ v.store.registered? m e.tenant = none
  registered e v := Listed e v ∧ v.store.registered? m e.tenant = some e.schema
  keeps _ _ _ h hrely := h.same hrely.2.1
  keepsOwn e v c r v' h _ hanswer := by
    obtain ⟨a, hanswer, rfl⟩ := hanswer
    cases hanswer with
    | applied c => exact h.perform c
    | failed c err => exact h
  find := by
    refine agreed_triple (fun _ _ h _ => h) (fun _ _ _ => ⟨nofun, nofun, nofun⟩) ?_
      (fun _ _ _ _ h => nomatch h)
    intro v _ hs rows hrows e he
    cases hrows
    have hmem := (Store.mem_of_mem_stalledAudits he).1
    exact ⟨hs.trimmed e hmem, e, hmem, rfl, rfl, rfl⟩
  look e := agreed_triple (fun _ _ h hv => h.same hv) (fun _ _ _ => ⟨nofun, nofun, nofun⟩)
    (fun _ h _ => ⟨fun _ => h, fun _ => trivial⟩) (fun _ _ _ => ⟨nofun, nofun⟩)
  fail e := agreed_triple (fun _ _ h _ => h)
    (fun _ _ _ => Store.upholds_updateAudit (by decide) _ _) (fun _ _ _ => trivial)
    fun _ _ _ => trivial
  read e := by
    refine agreed_triple (fun _ _ h hv => h.same hv) (fun _ _ _ => ⟨nofun, nofun, nofun⟩) ?_
      (fun _ _ _ _ h => nomatch h)
    -- what the row of the registry says is what is registered
    intro v h _ record hrecord
    cases hrecord
    exact ⟨fun hnone => ⟨h, hnone⟩, fun hsame => ⟨h, hsame⟩⟩
  repair e := by
    refine agreed_triple (fun _ _ h hv => ⟨h.1.same hv, hv.registered?_eq.trans h.2⟩) ?_ ?_
      (fun _ _ _ => nofun)
    · intro v h _
      refine ⟨fun u schema hc => ?_, nofun, nofun⟩
      cases hc
      exact ⟨h.1.1, fun name hname => nomatch h.2.symm.trans hname⟩
    · intro v h _ rows hrows
      exact ⟨h.1.perform _, Store.registered?_of_rows (Except.ok.inj hrows) h.1.1⟩
  succeed e := agreed_triple (fun _ _ h hv => ⟨h.1.same hv, hv.registered?_eq.trans h.2⟩)
    (fun _ h hs => h.1.2.upholds_success hs.keyed h.2 none) (fun _ _ _ => trivial)
    (fun _ _ _ => trivial)

end Pass

/-! ## Runs -/

private theorem agreed_trans (id : TaskId) (job : Job) (v v' v'' : View) (_ : v'.inside = v.inside)
    (h : (Contract.agreed m).rely id job v v') (h' : (Contract.agreed m).rely id job v' v'') :
    (Contract.agreed m).rely id job v v'' := SameButClock.trans h h'

/-- Tasks that follow one another keep the log and the registry in agreement. -/
theorem agreed_coherent (m : ServiceModule) :
    (Contract.agreed m).Coherent m (State.AtMostOne fun _ => True) fun _ _ => True where
  refl _ _ v := SameButClock.refl v.store
  trans := agreed_trans
  starts id _ job v _ hv _ := by
    cases job with
    | provision owner t displayName actor =>
      refine Contract.provision_guarded
        (Contract.surroundings_steady (fun _ _ v => SameButClock.refl v.store) agreed_trans _ _)
        (agreedAttempt m id owner t displayName actor) hv (fun _ _ => trivial) ?_ (fun _ _ => nofun)
      intro schema v v' v'' hname hrely hrely' u schema' hu houtcome
      cases hu
      cases houtcome
      exact hrely'.2.1.registered?_eq.trans (hrely.2.1.registered?_eq.trans hname)
    | reconcile staleAfter =>
      exact Contract.reconcile_guarded
        (Contract.surroundings_steady (fun _ _ v => SameButClock.refl v.store) agreed_trans _ _)
        (agreedPass m id _) hv (fun _ _ _ => trivial) (fun _ _ _ _ => nofun)
  keeps _ _ _ _ hinv hguar := hinv.apply hguar
  others S id task c k j other hI hS hid hlive hrest hguar hj hotherLive hne := by
    -- the other task is over, and its result stays right
    have hover : other.isOver = true := by
      by_contra hunder
      exact hne (hI id j task other hid hj trivial trivial
        (by rw [Task.isOver_of_rest hrest, hlive]) (Bool.not_eq_true _ ▸ hunder))
    obtain ⟨outcome, hdone⟩ := Task.exists_done_of_isOver hotherLive hover
    have hguarded := hS.tasks j other hj hotherLive
    rw [hdone] at hguarded ⊢
    intro v hv t schema ht houtcome
    have hname := hguarded (S.view other) ⟨rfl, SameButClock.refl _, hS.inv⟩ t schema ht houtcome
    exact hv.2.1.registered?_eq.trans (hguar.registered?_apply hname)
  ticks _ _ _ h := ⟨⟨h.keyed.nodup, h.keyed.le_last⟩, h.trimmed, h.registered⟩
  ticksOthers _ _ s _ _ now := SameButClock.tick (.refl s) now

/-- From an empty audit log, where jobs follow one another, whichever of their calls fail and wherever
    they are dropped: successful rows and results name what is registered; a row that stopped while
    another name was registered never becomes successful; and a registered name stays. -/
theorem audits_agree_with_registry (m : ServiceModule) (s : Store) (before after : List Move)
    (hs : s.audits = [])
    (hmoves : State.Successive m (fun _ => True) (State.idle s) (before ++ after)) :
    (∀ e ∈ ((State.idle s).run m (before ++ after)).store.audits, e.status = .success →
      ((State.idle s).run m (before ++ after)).store.registered? m e.tenant = some e.schema) ∧
    (∀ t id schema, ((State.idle s).run m (before ++ after)).Returned t id schema →
      ((State.idle s).run m (before ++ after)).store.registered? m t = some schema) ∧
    (∀ e ∈ ((State.idle s).run m before).store.audits, e.status = .schemaCreated →
      ∀ name, ((State.idle s).run m before).store.registered? m e.tenant = some name →
        name ≠ e.schema → ∀ e' ∈ ((State.idle s).run m (before ++ after)).store.audits,
          e'.id = e.id → e'.status ≠ .success) ∧
    ∀ t name, ((State.idle s).run m before).store.registered? m t = some name →
      ((State.idle s).run m (before ++ after)).store.registered? m t = some name := by
  have hcoherent := agreed_coherent m
  have hinv : s.Agrees m := ⟨Store.keyed_of_audits_eq_nil hs, by simp [hs], by simp [hs]⟩
  have hone : ∀ part, part <+: before ++ after →
      ((State.idle s).run m part).AtMostOne fun _ => True := fun _ => State.atMostOne_run hmoves
  have hany : ∀ move ∈ before ++ after, move.Admits fun _ _ => True :=
    fun move _ => by cases move <;> trivial
  have hholds := hcoherent.holds_run hinv hone hany
  have hstays : ∀ t name, ((State.idle s).run m before).store.registered? m t = some name →
      ((State.idle s).run m (before ++ after)).store.registered? m t = some name := by
    intro t name hname
    exact hcoherent.preserved_run (P := fun s => s.registered? m t = some name) hinv hone hany
      (fun _ _ h => h) (fun _ _ _ _ _ hguar h => hguar.registered?_apply h) hname
  refine ⟨hholds.inv.registered, ?_, ?_, hstays⟩
  · rintro t id schema ⟨task, hid, hjob, hlive, hrest⟩
    exact hcoherent.post_of_done hholds hid hlive hrest t schema hjob rfl
  · intro e he _ name hname hne e' he' hid hsuccess
    -- the later row is of the same tenant and schema, and would name what is registered
    obtain ⟨later, hlater, hcontinues⟩ := hcoherent.preserved_run
      (P := fun s => ∃ e' ∈ s.audits, e.Continues e') hinv hone hany (fun _ _ h => h)
      (fun _ _ _ c _ _ ⟨e', he', h⟩ =>
        let ⟨e'', he'', h'⟩ := Store.exists_continues_apply c he'
        ⟨e'', he'', h.trans h'⟩) ⟨e, he, .refl e⟩
    obtain rfl := hholds.inv.keyed.eq_of_id_eq he' hlater (hid.trans hcontinues.id_eq.symm)
    have hregistered := hholds.inv.registered e' he' hsuccess
    rw [hcontinues.tenant_eq, hcontinues.schema_eq, hstays e.tenant name hname] at hregistered
    exact hne (Option.some.inj hregistered)

/-- An attempt stops before it registers its schema, and the next one registers another: the first
    row never becomes successful, whatever a pass does. -/
theorem audits_agree_with_registry_superseded :
    let first : List Move :=
      [.start 0 0 (.provision "app" ⟨3⟩ (some "Globex") "api"), .proceed 0 none, .grant 0] ++
        List.replicate 5 (.proceed 0 none) ++ [.proceed 0 (some .poolTimedOut), .proceed 0 none]
    let second : List Move :=
      [.start 1 0 (.provision "app" ⟨3⟩ (some "Acme") "api"), .proceed 1 none, .grant 1] ++
        List.replicate 8 (.proceed 1 none)
    let pass : List Move := .start 2 0 (.reconcile (.ofMillis 0)) :: List.replicate 3 (.proceed 2 none)
    let s : Store := { tenants := [.unnamed .operations ⟨3⟩], clock := .ofNanos 1 }
    s.audits = [] ∧
      State.Successive .operations (fun _ => True) (State.idle s) (first ++ second ++ pass) ∧
      ((State.idle s).run .operations (first ++ second ++ pass)).Returned ⟨3⟩ 1 "ops_acme" ∧
      ((State.idle s).run .operations (first ++ second ++ pass)).store.registered? .operations ⟨3⟩ =
        some "ops_acme" ∧
      ∀ e ∈ ((State.idle s).run .operations (first ++ second ++ pass)).store.audits,
        e.id = 1 → e.status ≠ .success := by
  intro first second pass s
  have hfirst : State.Successive .operations (fun _ => True) (State.idle s) first :=
    ⟨fun _ _ _ _ _ _ _ => nofun, State.successive_of_admits (by simp [Move.Admits])⟩
  have hsecond : State.Successive .operations (fun _ => True) (State.idle s) (first ++ second) :=
    State.successive_append_start hfirst (by simp [first]; decide) (by simp [Move.Admits])
  have hmoves : State.Successive .operations (fun _ => True) (State.idle s)
      (first ++ second ++ pass) :=
    State.successive_append_start hsecond (by simp [first, second]; decide) (by simp [Move.Admits])
  have hagree := audits_agree_with_registry .operations s (first ++ second) pass rfl hmoves
  have hreturned : ((State.idle s).run .operations (first ++ second ++ pass)).Returned ⟨3⟩ 1
      "ops_acme" := by decide
  refine ⟨rfl, hmoves, hreturned, hagree.2.1 ⟨3⟩ 1 "ops_acme" hreturned, ?_⟩
  have hname : ((State.idle s).run .operations (first ++ second)).store.registered? .operations ⟨3⟩ =
      some "ops_acme" := by decide
  obtain ⟨row, hrow, hid, hstatus, htenant, hschema⟩ : ∃ row ∈ ((State.idle s).run .operations
      (first ++ second)).store.audits, row.id = 1 ∧ row.status = .schemaCreated ∧
      row.tenant = ⟨3⟩ ∧ row.schema = "ops_globex" := by decide
  have hne : "ops_acme" ≠ row.schema := by
    rw [hschema]
    decide
  rw [← htenant] at hname
  intro e he heid
  exact hagree.2.2.1 row hrow hstatus "ops_acme" hname hne e he (heid.trans hid.symm)

end Interleaving

end Tenancy
