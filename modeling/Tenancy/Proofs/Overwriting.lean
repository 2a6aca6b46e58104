import Tenancy.Proofs.Jobs
import Tenancy.Proofs.SchemaName
import Tenancy.Proofs.StoreEffect

/-!
# When a registered name is replaced

Attempts and passes read a tenant's row, and write its column several calls later whatever it holds
by then. What is written is based on what was read: where a name was registered, it is written
again. So a registered name is replaced by another exactly where the write is out of date, that is,
where another task registered that name between the reading and the writing. Nothing keeps other
processes from that, nor a pass in the same process, which takes no lock.

## Key results

- `based_sound`: every write is based on what its task read
- `overwrites_iff_outOfDate`: a write replaces a registered name by another if and only if it is out
  of date
- `not_forall_not_overwrites`: a registered name can be replaced
-/

namespace Tenancy.Interleaving

variable {m : ServiceModule} {t : TenantId} {id : TaskId} {e : Event}

namespace Event

/-- A call writes a tenant's column for a module. -/
def writes (m : ServiceModule) (t : TenantId) (e : Event) : Bool :=
  match e.call with
  | .setModuleSchema u k _ => u == t && k == m
  | _ => false

/-- A task reads a tenant's row. -/
def reads (id : TaskId) (t : TenantId) (e : Event) : Bool := e.task == id && e.call == .findTenant t

/-- A call replaces a registered name by another. -/
def Overwrites (m : ServiceModule) (e : Event) : Prop :=
  ∃ t schema name, e.call = .setModuleSchema t m schema ∧
    e.before.registered? m t = some name ∧ e.after.registered? m t ≠ some name

end Event

/-- The calls since a task read a tenant's row, latest first. -/
def sinceRead (id : TaskId) (t : TenantId) (log : List Event) : List Event :=
  log.takeWhile fun e => !e.reads id t

/-- A write is out of date: since its task read the tenant's row, the last to write the tenant's
    column was another task, and it registered another name. -/
def Event.OutOfDate (m : ServiceModule) (e : Event) (earlier : List Event) : Prop :=
  ∃ t schema w name, e.call = .setModuleSchema t m schema ∧
    (sinceRead e.task t earlier).find? (·.writes m t) = some w ∧ w.task ≠ e.task ∧
    w.after.registered? m t = some name ∧ Text.nonBlank? schema ≠ some name

/-! ## Names between two writes -/

/-- Only a write to a tenant's column changes its registered name. -/
theorem Event.registered?_after_of_writes_eq_false (h : e.writes m t = false) :
    e.after.registered? m t = e.before.registered? m t := by
  refine e.before.registered?_apply_of_ne fun schema hcall => ?_
  simp [writes, hcall] at h

/-- A write where a name is registered registers what it writes, trimmed. -/
private theorem registered?_after_of_write {schema name : String}
    (hcall : e.call = .setModuleSchema t m schema) (hbefore : e.before.registered? m t = some name) :
    e.after.registered? m t = Text.nonBlank? schema := by
  rw [Event.after, hcall]
  exact (e.before.registered?_setModuleSchema_self t m schema).trans
    (if_pos (Store.isSome_tenant?_of_registered? hbefore))

private theorem History.split {s₀ s : Store} {later earlier : List Event}
    (h : History s₀ s (later ++ e :: earlier)) : History s₀ e.before earlier := by
  induction later generalizing s with
  | nil => exact h.2
  | cons _ later ih => exact ih h.2

/-- While a tenant's column is not written, its registered name stays. -/
private theorem History.registered?_eq {s₀ s : Store} {recent earlier : List Event}
    (h : History s₀ s (recent ++ e :: earlier)) (hrecent : ∀ w ∈ recent, w.writes m t = false) :
    s.registered? m t = e.after.registered? m t := by
  induction recent generalizing s with
  | nil => exact h.1.registered?_eq
  | cons w recent ih =>
    calc s.registered? m t = w.after.registered? m t := h.1.registered?_eq
      _ = w.before.registered? m t :=
        Event.registered?_after_of_writes_eq_false (hrecent w List.mem_cons_self)
      _ = e.after.registered? m t :=
        ih h.2 fun w' hw' => hrecent w' (List.mem_cons_of_mem _ hw')

/-! ## What a write is based on -/

/-- A task read a tenant's row and has not written its column since; if a name was registered then,
    it is the schema. -/
def BasedOn (m : ServiceModule) (id : TaskId) (t : TenantId) (schema : String) (log : List Event) :
    Prop :=
  ∃ recent r earlier, log = recent ++ r :: earlier ∧ r.reads id t = true ∧
    (∀ e ∈ recent, e.reads id t = false ∧ (e.task = id → e.writes m t = false)) ∧
    ∀ name, r.before.registered? m t = some name → Text.nonBlank? schema = some name

/-- A task writes only what is based on what it read. -/
def Contract.based (m : ServiceModule) : Contract where
  inv _ _ := True
  rely id _ v v' := ∃ others, v'.log = others ++ v.log ∧ ∀ e ∈ others, e.task ≠ id
  guar id _ v c := ∀ t schema, c = .setModuleSchema t m schema → BasedOn m id t schema v.log
  post _ _ _ _ := True

private theorem BasedOn.append {schema : String} {log others : List Event}
    (h : BasedOn m id t schema log)
    (hothers : ∀ e ∈ others, e.reads id t = false ∧ (e.task = id → e.writes m t = false)) :
    BasedOn m id t schema (others ++ log) := by
  obtain ⟨recent, r, earlier, rfl, hreads, hrecent, hname⟩ := h
  refine ⟨others ++ recent, r, earlier, (List.append_assoc ..).symm, hreads, ?_, hname⟩
  intro e he
  cases List.mem_append.mp he with
  | inl hmem => exact hothers e hmem
  | inr hmem => exact hrecent e hmem

private theorem based_refl (id : TaskId) (job : Job) (v : View) :
    (Contract.based m).rely id job v v := ⟨[], rfl, nofun⟩

private theorem based_trans (id : TaskId) (job : Job) (v v' v'' : View)
    (_ : v'.inside = v.inside) (h : (Contract.based m).rely id job v v')
    (h' : (Contract.based m).rely id job v' v'') : (Contract.based m).rely id job v v'' := by
  obtain ⟨others, hlog, hothers⟩ := h
  obtain ⟨others', hlog', hothers'⟩ := h'
  refine ⟨others' ++ others, by rw [hlog', hlog, List.append_assoc], ?_⟩
  intro e he
  cases List.mem_append.mp he with
  | inl hmem => exact hothers' e hmem
  | inr hmem => exact hothers e hmem

private theorem BasedOn.rely {schema : String} {job : Job} {v v' : View}
    (h : BasedOn m id t schema v.log) (hrely : (Contract.based m).rely id job v v') :
    BasedOn m id t schema v'.log := by
  obtain ⟨others, hlog, hothers⟩ := hrely
  rw [hlog]
  refine h.append fun e he => ⟨?_, fun heq => absurd heq (hothers e he)⟩
  simp [Event.reads, hothers e he]

section Calls

variable {job : Job} {schema : String} {c : StoreCall} {Q : c.Reply → View → Prop}

/-- A call that neither reads a row nor writes a column leaves what a write is based on. -/
private theorem based_triple (hwrite : ∀ u k name, c ≠ .setModuleSchema u k name)
    (hread : ∀ u, c ≠ .findTenant u) (hQ : ∀ r v, BasedOn m id t schema v.log → Q r v) :
    ((Contract.based m).stores id job).Triple (fun v => BasedOn m id t schema v.log) c Q := by
  refine Contract.stores_triple fun v v' hv _ hrely _ => ?_
  have hv' := hv.rely hrely
  refine ⟨fun u name hcall => absurd hcall (hwrite u m name), hQ _ _ ?_, fun e => hQ _ _ hv'⟩
  show BasedOn m id t schema ([⟨id, c, v'.store⟩] ++ v'.log)
  refine hv'.append fun e he => ?_
  obtain rfl := List.mem_singleton.mp he
  refine ⟨by simp [Event.reads, hread], fun _ => ?_⟩
  unfold Event.writes
  split
  · next u k name hcall => exact absurd hcall (hwrite u k name)
  · rfl

/-- A call that writes no column, and nothing is known of. -/
private theorem unbased_triple {P : View → Prop} (hwrite : ∀ u k name, c ≠ .setModuleSchema u k name)
    (hQ : ∀ r v, Q r v) : ((Contract.based m).stores id job).Triple P c Q :=
  Contract.stores_triple fun _ _ _ _ _ _ =>
    ⟨fun u name hcall => absurd hcall (hwrite u m name), hQ _ _, fun _ => hQ _ _⟩

/-- A row was just read. -/
private theorem basedOn_read {s : Store} {log : List Event} {record : Option TenantRecord}
    (hrecord : s.tenant? t = record)
    (hname : ∀ name, (record.bind fun row => row.schemas.get m) = some name →
      Text.nonBlank? schema = some name) :
    BasedOn m id t schema (⟨id, .findTenant t, s⟩ :: log) := by
  refine ⟨[], ⟨id, .findTenant t, s⟩, log, rfl, by simp [Event.reads], nofun, ?_⟩
  intro name hregistered
  rw [Store.registered?, hrecord] at hregistered
  exact hname name hregistered

end Calls

private def basedAttempt (m : ServiceModule) (id : TaskId) (job : Job) (owner : String)
    (t : TenantId) (displayName : Option String) (actor : String) :
    Provisioning.Outline ((Contract.based m).stores id job) m owner t displayName actor
      fun _ _ => True where
  start _ := True
  chosen schema v := BasedOn m id t schema v.log
  noted schema _ v := BasedOn m id t schema v.log
  failing _ _ _ := True
  created schema _ v := BasedOn m id t schema v.log
  registered _ _ _ := True
  find := by
    refine Contract.stores_triple fun v v' _ _ _ _ => ⟨nofun, ?_, fun _ _ h => nomatch h⟩
    intro record hr
    refine basedOn_read (Except.ok.inj hr) fun name hname => ?_
    rw [Option.bind_some] at hname
    rw [Provisioning.nonBlank?_schemaFor, Provisioning.schemaFor_of_get hname]
  insert schema := based_triple nofun nofun fun _ _ h => h
  ensure schema inserted := based_triple nofun nofun fun _ _ h => ⟨fun _ => h, fun _ _ => trivial⟩
  fail schema inserted e := unbased_triple nofun fun _ _ => trivial
  progress schema row := based_triple nofun nofun fun _ _ h => h
  register schema inserted := by
    refine Contract.stores_triple fun v v' hv _ hrely _ => ⟨?_, fun _ _ => trivial, fun _ _ _ => trivial⟩
    intro u name hcall
    cases hcall
    exact hv.rely hrely
  succeed schema row := unbased_triple nofun fun _ _ _ _ => trivial
  finish _ _ _ _ _ _ := trivial

private def basedPass (m : ServiceModule) (id : TaskId) (job : Job) (cutoff : Timestamp) :
    Reconciliation.Outline ((Contract.based m).stores id job) m cutoff where
  start _ := True
  known _ _ := True
  present _ _ := True
  missing _ _ := True
  blank e v := BasedOn m id e.tenant e.schema v.log
  registered _ _ := True
  keeps _ _ _ _ _ := trivial
  keepsOwn _ _ _ _ _ _ _ _ := trivial
  find := unbased_triple nofun fun _ _ _ _ _ _ => trivial
  look e := unbased_triple nofun fun _ _ => ⟨fun _ => trivial, fun _ => trivial⟩
  fail e := unbased_triple nofun fun _ _ => trivial
  read e := by
    -- a pass writes only where it read no name, so there is none to keep
    refine Contract.stores_triple fun v v' _ _ _ _ => ⟨nofun, ?_, fun _ _ h => nomatch h⟩
    intro record hr
    refine ⟨fun hnone => ?_, fun _ => trivial⟩
    refine basedOn_read (Except.ok.inj hr) fun name hname => ?_
    rw [hnone] at hname
    cases hname
  repair e := by
    refine Contract.stores_triple fun v v' hv _ hrely _ => ⟨?_, fun _ _ => trivial, fun _ _ _ => trivial⟩
    intro u name hcall
    cases hcall
    exact hv.rely hrely
  succeed e := unbased_triple nofun fun _ _ => trivial

/-- Every write is based on what its task read, whoever else does what. -/
theorem based_sound (m : ServiceModule) :
    (Contract.based m).Sound m (fun _ => True) (fun _ _ => True) where
  refl := based_refl
  trans := based_trans
  starts _ _ _ _ _ hv _ := Contract.job_guarded
    (Contract.surroundings_steady based_refl based_trans) (fun _ _ _ _ => trivial) (basedAttempt m)
    (fun _ _ _ _ _ _ _ => trivial) (basedPass m) (fun _ _ _ _ => trivial) hv
  keeps _ _ _ _ _ _ := trivial
  others S id task c j other _ _ _ _ _ _ _ hne := by
    refine ⟨[⟨id, c, S.store⟩], rfl, fun e he => ?_⟩
    obtain rfl := List.mem_singleton.mp he
    exact hne
  ticks _ _ _ _ := trivial
  ticksOthers id job s log inside now := ⟨[], rfl, nofun⟩

/-! ## Writes that are out of date -/

/-- A write that is based on what was read does not replace a registered name by another unless it
    is out of date. -/
private theorem outOfDate_of_overwrites {s₀ : Store} {earlier : List Event}
    (hhistory : History s₀ e.before earlier)
    (hbased : ∀ t schema, e.call = .setModuleSchema t m schema → BasedOn m e.task t schema earlier)
    (h : e.Overwrites m) : e.OutOfDate m earlier := by
  obtain ⟨t, schema, name, hcall, hbefore, hafter⟩ := h
  obtain ⟨recent, r, older, rfl, hreads, hrecent, hreuse⟩ := hbased t schema hcall
  -- the reading that the write is based on is the task's last one
  have hsince : sinceRead e.task t (recent ++ r :: older) = recent := by
    unfold sinceRead
    rw [List.takeWhile_append_of_pos fun w hw => by simp [(hrecent w hw).1],
      List.takeWhile_cons_of_neg (by simp [hreads]), List.append_nil]
  have hother : Text.nonBlank? schema ≠ some name := by
    rwa [registered?_after_of_write hcall hbefore] at hafter
  cases hfind : recent.find? (·.writes m t) with
  | none =>
    -- nobody wrote since the reading, so the name was there to be read
    have hunwritten : ∀ w ∈ recent, w.writes m t = false := by simpa using hfind
    have hr : r.writes m t = false := by
      have hfindTenant : r.call = .findTenant t := by
        simp only [Event.reads, Bool.and_eq_true, beq_iff_eq] at hreads
        exact hreads.2
      simp [Event.writes, hfindTenant]
    rw [hhistory.registered?_eq hunwritten, Event.registered?_after_of_writes_eq_false hr] at hbefore
    exact absurd (hreuse name hbefore) hother
  | some w =>
    obtain ⟨hw, newer, older', hrecent', hnewer⟩ := List.find?_eq_some_iff_append.mp hfind
    have hmem : w ∈ recent := by simp [hrecent']
    refine ⟨t, schema, w, name, hcall, by rw [hsince, hfind], ?_, ?_, hother⟩
    · -- the task itself has not written since its reading
      intro htask
      rw [(hrecent w hmem).2 htask] at hw
      cases hw
    · rw [hrecent', List.append_assoc, List.cons_append] at hhistory
      rw [← hbefore, hhistory.registered?_eq fun w' hw' => by simpa using hnewer w' hw']

private theorem overwrites_of_outOfDate {s₀ : Store} {earlier : List Event}
    (hhistory : History s₀ e.before earlier) (h : e.OutOfDate m earlier) : e.Overwrites m := by
  obtain ⟨t, schema, w, name, hcall, hfind, -, hname, hother⟩ := h
  obtain ⟨-, newer, older, hsince, hnewer⟩ := List.find?_eq_some_iff_append.mp hfind
  have hlog : earlier = newer ++ w ::
      (older ++ earlier.dropWhile fun e' => !e'.reads e.task t) := by
    rw [← List.cons_append, ← List.append_assoc, ← hsince]
    exact List.takeWhile_append_dropWhile.symm
  rw [hlog] at hhistory
  have hbefore : e.before.registered? m t = some name := by
    rw [hhistory.registered?_eq fun w' hw' => by simpa using hnewer w' hw', hname]
  refine ⟨t, schema, name, hcall, hbefore, ?_⟩
  rwa [registered?_after_of_write hcall hbefore]

/-- In any number of processes that provision and reconcile, whatever the order of their calls,
    whichever fail and wherever they are dropped: a call replaces a registered name by another if
    and only if it is a write that is out of date. -/
theorem overwrites_iff_outOfDate (m : ServiceModule) (s : Store) (moves : List Move)
    (later : List Event) (e : Event) (earlier : List Event)
    (hlog : ((State.idle s).run m moves).log = later ++ e :: earlier) :
    e.Overwrites m ↔ e.OutOfDate m earlier := by
  have hhistory := State.history_run m s moves
  rw [hlog] at hhistory
  have hholds := (based_sound m).holds_every_run (s := s) trivial moves
  obtain ⟨-, job, inside, hguar⟩ := hholds.log later e earlier hlog
  exact ⟨outOfDate_of_overwrites hhistory.split hguar, overwrites_of_outOfDate hhistory.split⟩

/-- A pass finds a tenant without a name, whose last attempt stopped halfway, and is about to
    register that attempt's schema. Another attempt finds no name either, derives one and creates its
    schema. Then both write. -/
def lateWrite : List Move :=
  [.start 0 0 (.reconcile ⟨0⟩), .start 1 0 (.provision "app" ⟨3⟩ (some "Globex") "api")] ++
    List.replicate 4 (.proceed 0 none) ++ [.proceed 1 none, .grant 1] ++
    List.replicate 5 (.proceed 1 none) ++ [.proceed 0 none, .proceed 1 none]

private theorem exists_lateWrite :
    ∃ e earlier, ((State.idle (.halfway .operations ⟨3⟩ "ops_old")).run .operations lateWrite).log =
      e :: earlier ∧ e.Overwrites .operations := by
  cases hlog : ((State.idle (.halfway .operations ⟨3⟩ "ops_old")).run .operations lateWrite).log with
  | nil => exact absurd (congrArg List.length hlog) (by decide)
  | cons e earlier =>
    have hcall := congrArg (fun log => log.head?.map (·.call)) hlog
    have hbefore := congrArg
      (fun log => log.head?.bind fun e => e.before.registered? .operations ⟨3⟩) hlog
    have hafter := congrArg
      (fun log => log.head?.bind fun e => e.after.registered? .operations ⟨3⟩) hlog
    refine ⟨e, earlier, rfl, ⟨3⟩, "ops_globex", "ops_old", Option.some.inj (hcall.symm.trans ?_),
      hbefore.symm.trans ?_, fun hsame => absurd (hafter.trans hsame) ?_⟩ <;> decide

/-- The last call of that run is out of date. -/
theorem outOfDate_lateWrite :
    ∃ e earlier, ((State.idle (.halfway .operations ⟨3⟩ "ops_old")).run .operations lateWrite).log =
      e :: earlier ∧ e.OutOfDate .operations earlier := by
  obtain ⟨e, earlier, hlog, hoverwrites⟩ := exists_lateWrite
  exact ⟨e, earlier, hlog,
    (overwrites_iff_outOfDate .operations _ lateWrite [] e earlier hlog).mp hoverwrites⟩

/-- A registered name can be replaced by another. -/
theorem not_forall_not_overwrites :
    ¬∀ (s : Store) (moves : List Move), ∀ e ∈ ((State.idle s).run .operations moves).log,
      ¬e.Overwrites .operations := by
  obtain ⟨e, earlier, hlog, hoverwrites⟩ := exists_lateWrite
  intro h
  exact h (.halfway .operations ⟨3⟩ "ops_old") lateWrite e (hlog ▸ List.mem_cons_self) hoverwrites

end Tenancy.Interleaving
