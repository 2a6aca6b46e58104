import Tenancy.Proofs.Exclusion
import Tenancy.Proofs.SchemaName
import Tenancy.Proofs.StoreEffect

/-!
# One process that provisions

Where nobody but the attempts of one process writes the registry, a tenant's registered name is
never replaced. An attempt reads the name, or finds none and derives one, and registers it several
calls later. Between the two it is inside its tenant's lock, so no other attempt of the process
writes the tenant's column: the name is still what was read, or still absent.

## Key results

- `serial_sound`: one task's promises are what the others rely on
- `provisioning_serialized`: one attempt at a time for a tenant, one name for all of them, and the
  registered name stays
-/

namespace Tenancy.Interleaving

open Program (Guarded)

/-- The kind of moves of a process that does nothing but provision, when no other does anything. -/
def Provisions (p p' : ProcessId) (job : Job) : Prop := p' = p ∧ job.tenant?.isSome = true

namespace State

/-- A task of a process is between acquiring a tenant's lock and returning. -/
def Inside (S : State) (p : ProcessId) (t : TenantId) (id : TaskId) : Prop :=
  ∃ task, S.tasks id = some task ∧ task.process = p ∧ task.job.tenant? = some t ∧
    task.dropped = false ∧ task.inside = true

/-- An attempt for a tenant returned with a schema. -/
def Returned (S : State) (t : TenantId) (id : TaskId) (schema : String) : Prop :=
  ∃ task, S.tasks id = some task ∧ task.job.tenant? = some t ∧ task.dropped = false ∧
    task.rest = .done (.provisioned (.ok schema))

end State

/-- The schema that an attempt ended with. -/
def Task.schema? (task : Task) : Option String :=
  match task.rest with
  | .done (.provisioned (.ok schema)) => some schema
  | _ => none

theorem Task.schema?_eq_some_iff {task : Task} {schema : String} :
    task.schema? = some schema ↔ task.rest = .done (.provisioned (.ok schema)) := by
  unfold schema?
  split <;> simp_all

instance (S : State) (t : TenantId) (id : TaskId) (schema : String) :
    Decidable (S.Returned t id schema) :=
  decidable_of_iff (∃ task ∈ S.tasks id, task.job.tenant? = some t ∧ task.dropped = false ∧
    task.schema? = some schema) (by simp [State.Returned, Task.schema?_eq_some_iff])

/-- Nobody replaces a registered name, and nobody touches the name of a tenant whose lock another
    task has. -/
def Contract.serial (m : ServiceModule) : Contract where
  inv _ _ := True
  rely _ job v v' :=
    (∀ t name, v.store.registered? m t = some name → v'.store.registered? m t = some name) ∧
      ∀ t, v.inside = true → job.tenant? = some t →
        v'.store.registered? m t = v.store.registered? m t
  guar _ job v c := ∀ t schema, c = .setModuleSchema t m schema →
    v.inside = true ∧ job.tenant? = some t ∧ Text.nonBlank? schema = some schema ∧
      ∀ name, v.store.registered? m t = some name → name = schema
  post _ job v outcome := ∀ t schema, job.tenant? = some t →
    outcome = .provisioned (.ok schema) → v.store.registered? m t = some schema

variable {m : ServiceModule} {id : TaskId} {p : ProcessId}

/-- A name that is registered when an allowed call is made is registered after it. -/
private theorem registered?_of_allowed {job : Job} {v : View} {c : StoreCall}
    (h : (Contract.serial m).guar id job v c) {t : TenantId} {name : String}
    (hname : v.store.registered? m t = some name) :
    (v.store.apply c).2.registered? m t = some name := by
  refine Store.registered?_apply_of_reuse (fun schema hc => ?_) hname
  obtain ⟨-, -, htrimmed, hreuse⟩ := h t schema hc
  exact ⟨htrimmed, hreuse⟩

section Attempt

variable {owner : String} {t : TenantId} {displayName : Option String} {actor : String}

/-- The task is inside, its schema is trimmed, and a name that is registered is that schema. -/
private def Chosen (m : ServiceModule) (t : TenantId) (schema : String) (v : View) : Prop :=
  v.inside = true ∧ Text.nonBlank? schema = some schema ∧
    ∀ name, v.store.registered? m t = some name → name = schema

/-- Others leave what an attempt has found out. -/
private theorem Chosen.rely {schema : String} {v v' : View} (h : Chosen m t schema v)
    (hinside : v'.inside = v.inside)
    (hrely : (Contract.serial m).rely id (.provision owner t displayName actor) v v') :
    Chosen m t schema v' := by
  obtain ⟨hv, htrimmed, hreuse⟩ := h
  refine ⟨hinside.trans hv, htrimmed, fun name hname => hreuse name ?_⟩
  rwa [hrely.2 t hv rfl] at hname

/-- A call that writes no name, among those of an attempt. -/
private theorem chosen_triple {schema : String} {c : StoreCall} {Q : c.Reply → View → Prop}
    (hc : ∀ u name, c ≠ .setModuleSchema u m name)
    (hQ : ∀ r v, Chosen m t schema v → Q r v) :
    ((Contract.serial m).stores id (.provision owner t displayName actor)).Triple
      (Chosen m t schema) c Q := by
  refine Contract.stores_triple fun v v' hv hinside hrely _ => ?_
  have hv' := hv.rely hinside hrely
  refine ⟨fun u name hcall => absurd hcall (hc u name), hQ _ _ ?_, fun e => hQ _ _ hv'⟩
  obtain ⟨hv'inside, htrimmed, hreuse⟩ := hv'
  refine ⟨hv'inside, htrimmed, fun name hname => hreuse name ?_⟩
  rwa [View.perform, Store.registered?_apply_of_ne _ (fun u => hc _ u)] at hname

private def serialAttempt (m : ServiceModule) (id : TaskId) (owner : String) (t : TenantId)
    (displayName : Option String) (actor : String) :
    Provisioning.Outline ((Contract.serial m).stores id (.provision owner t displayName actor)) m
      owner t displayName actor fun schema v => v.store.registered? m t = some schema where
  start v := v.inside = true
  chosen := Chosen m t
  noted schema _ := Chosen m t schema
  failing schema _ := Chosen m t schema
  created schema _ := Chosen m t schema
  registered schema _ v := v.store.registered? m t = some schema
  find := by
    -- the schema is the registered name, or there is none to compare with
    refine Contract.stores_triple fun v v' hv hinside _ _ => ?_
    refine ⟨nofun, ?_, fun _ _ h => nomatch h⟩
    intro record hr
    have hrow : v'.store.tenant? t = some record := Except.ok.inj hr
    refine ⟨hinside.trans hv, Provisioning.nonBlank?_schemaFor m record t displayName, ?_⟩
    intro name hname
    change v'.store.registered? m t = some name at hname
    rw [Store.registered?_of_tenant? hrow] at hname
    exact (Provisioning.schemaFor_of_get hname t displayName).symm
  insert schema := chosen_triple (fun _ _ => nofun) fun _ _ h => h
  ensure schema inserted := chosen_triple (fun _ _ => nofun) fun _ _ h =>
    ⟨fun _ => h, fun _ _ => h⟩
  fail schema inserted e := chosen_triple (fun _ _ => nofun) fun _ _ _ => trivial
  progress schema row := chosen_triple (fun _ _ => nofun) fun _ _ h => h
  register schema inserted := by
    refine Contract.stores_triple fun v v' hv hinside hrely _ => ?_
    obtain ⟨hv'inside, htrimmed, hreuse⟩ := hv.rely hinside hrely
    refine ⟨?_, ?_, fun _ _ h => nomatch h⟩
    · intro u name hcall
      cases hcall
      exact ⟨hv'inside, rfl, htrimmed, hreuse⟩
    · intro rows hr
      exact Store.registered?_of_rows (Except.ok.inj hr) htrimmed
  succeed schema row := by
    refine Contract.stores_triple fun v v' hv hinside hrely _ => ?_
    have hv' := hrely.1 t schema hv
    refine ⟨nofun, ?_, ?_⟩
    · exact fun v'' hv'' => hv''.2.1.1 t schema hv'
    · exact fun e v'' hv'' => hv''.2.1.1 t schema hv'
  finish schema e v v' hv hrely := hrely.2.1.1 t schema hv

end Attempt

private theorem serial_refl (id : TaskId) (job : Job) (v : View) :
    (Contract.serial m).rely id job v v := ⟨fun _ _ h => h, fun _ _ _ => rfl⟩

private theorem serial_trans (id : TaskId) (job : Job) (v v' v'' : View)
    (hinside : v'.inside = v.inside) (h : (Contract.serial m).rely id job v v')
    (h' : (Contract.serial m).rely id job v' v'') : (Contract.serial m).rely id job v v'' :=
  ⟨fun t name hname => h'.1 t name (h.1 t name hname),
    fun t hv hjob => (h'.2 t (hinside.trans hv) hjob).trans (h.2 t hv hjob)⟩

/-- Tables and tasks agree, and all tasks are attempts of one process. -/
def State.Serial (p : ProcessId) (S : State) : Prop :=
  S.Locked ∧ ∀ id task, S.tasks id = some task → Provisions p task.process task.job

/-- One task's promises are what the others rely on. -/
theorem serial_sound (m : ServiceModule) (p : ProcessId) :
    (Contract.serial m).Sound m (State.Serial p) (Provisions p) where
  refl := serial_refl
  trans := serial_trans
  starts id p' job v hjob hv _ := by
    cases job with
    | provision owner t displayName actor =>
      refine Contract.provision_guarded (Contract.surroundings_steady serial_refl serial_trans _ _)
        (serialAttempt m id owner t displayName actor) hv (fun _ _ => rfl) ?_
        (fun e v => nofun)
      intro schema v v' v'' hname hrely hrely' u schema' hu houtcome
      cases hu
      cases houtcome
      exact hrely'.2.1.1 t schema (hrely.2.1.1 t schema hname)
    | reconcile staleAfter => exact absurd hjob.2 Bool.false_ne_true
  keeps _ _ _ _ _ _ := trivial
  others S id task c j other hS _ hid hlive hguar hj hotherLive hne := by
    obtain ⟨hlocked, hprovisions⟩ := hS
    refine ⟨fun t name => registered?_of_allowed hguar, fun t hinside hjob => ?_⟩
    rcases S.store.registered?_apply c m t with hsame | ⟨schema, rfl, -, -⟩
    · exact hsame
    · -- both tasks would be inside for one tenant
      obtain ⟨hwriterInside, htenant, -⟩ := hguar t schema rfl
      have hprocess := (hprovisions id task hid).1.trans (hprovisions j other hj).1.symm
      exact absurd (hlocked.eq_of_inside hid hj hlive hotherLive hwriterInside hinside hprocess
        (htenant.trans hjob.symm)) hne
  ticks _ _ _ _ := trivial
  ticksOthers id job s log inside now := ⟨fun _ _ h => h, fun _ _ _ => rfl⟩

/-- Every state of a run of one process that provisions is one that the contract is sound for. -/
private theorem serial_run (m : ServiceModule) (s : Store) {moves : List Move}
    (hmoves : ∀ move ∈ moves, move.Admits (Provisions p)) (part : List Move)
    (hpart : part <+: moves) : ((State.idle s).run m part).Serial p :=
  ⟨State.locked_run m s part, fun _ _ hid => State.admitted_run
    (fun move hmem => hmoves move (hpart.subset hmem)) hid⟩

/-- Where only the attempts of one process are made, whatever their order, whichever of their calls
    fail and wherever they are dropped: at most one attempt for a tenant is between acquiring its
    lock and returning; all that return a schema for it return the same; and once a name is
    registered it stays, and attempts return no other. -/
theorem provisioning_serialized (m : ServiceModule) (p : ProcessId) (s : Store)
    (before after : List Move) (t : TenantId)
    (hmoves : ∀ move ∈ before ++ after, move.Admits (Provisions p)) :
    (∀ i j, ((State.idle s).run m before).Inside p t i →
      ((State.idle s).run m before).Inside p t j → i = j) ∧
    (∀ i j schema schema', ((State.idle s).run m before).Returned t i schema →
      ((State.idle s).run m before).Returned t j schema' → schema = schema') ∧
    ∀ name, ((State.idle s).run m before).store.registered? m t = some name →
      ((State.idle s).run m (before ++ after)).store.registered? m t = some name ∧
      ∀ i schema, ((State.idle s).run m (before ++ after)).Returned t i schema →
        schema = name := by
  have hsound := serial_sound m p
  have hbefore : ∀ move ∈ before, move.Admits (Provisions p) :=
    fun move hmem => hmoves move (List.mem_append_left _ hmem)
  -- what an attempt returned is registered
  have hreturned : ∀ moves, (∀ move ∈ moves, move.Admits (Provisions p)) → ∀ i schema,
      ((State.idle s).run m moves).Returned t i schema →
        ((State.idle s).run m moves).store.registered? m t = some schema := by
    rintro moves hadmits i schema ⟨task, hi, hjob, hlive, hrest⟩
    have hholds := hsound.holds_run trivial (serial_run m s hadmits) hadmits
    exact hsound.post_of_done hholds hi hlive hrest t schema hjob rfl
  refine ⟨?_, ?_, ?_⟩
  · rintro i j ⟨task, hi, hip, hit, hilive, hiin⟩ ⟨other, hj, hjp, hjt, hjlive, hjin⟩
    exact (State.locked_run m s before).eq_of_inside hi hj hilive hjlive hiin hjin
      (hip.trans hjp.symm) (hit.trans hjt.symm)
  · intro i j schema schema' hi hj
    have hi' := hreturned before hbefore i schema hi
    rw [hreturned before hbefore j schema' hj] at hi'
    exact (Option.some.inj hi').symm
  · -- no allowed call replaces the name in the second part of the run
    intro name hname
    have hlater : ((State.idle s).run m (before ++ after)).store.registered? m t = some name :=
      hsound.preserved_run (P := fun s => s.registered? m t = some name) trivial
        (serial_run m s hmoves) hmoves (fun _ _ h => h)
        (fun _ _ _ _ _ hguar h => registered?_of_allowed hguar h) hname
    refine ⟨hlater, fun i schema hi => ?_⟩
    rw [hreturned _ hmoves i schema hi] at hlater
    exact Option.some.inj hlater

/-- Two attempts with different display names, of which one waits for the other: both return the
    name that the first derived. -/
theorem provisioning_serialized_two :
    let first : List Move :=
      [.start 0 0 (.provision "app" ⟨3⟩ (some "Globex") "api"),
        .start 1 0 (.provision "app" ⟨3⟩ (some "Acme") "api"), .proceed 0 none, .grant 0,
        .proceed 1 none] ++ List.replicate 8 (.proceed 0 none)
    let second : List Move := [.grant 1] ++ List.replicate 8 (.proceed 1 none)
    let S := (State.idle (.halfway .operations ⟨3⟩ "ops_old")).run .operations (first ++ second)
    (∀ move ∈ first ++ second, move.Admits (Provisions 0)) ∧ S.Returned ⟨3⟩ 0 "ops_globex" ∧
      S.Returned ⟨3⟩ 1 "ops_globex" ∧
      ∀ i schema, S.Returned ⟨3⟩ i schema → schema = "ops_globex" := by
  intro first second S
  have hmoves : ∀ move ∈ first ++ second, move.Admits (Provisions 0) := by
    simp [first, second, Move.Admits, Provisions, Job.tenant?]
  refine ⟨hmoves, ⟨_, rfl, rfl, rfl, rfl⟩, ⟨_, rfl, rfl, rfl, rfl⟩, ?_⟩
  exact ((provisioning_serialized .operations 0 _ first second ⟨3⟩ hmoves).2.2 "ops_globex"
    (by decide)).2

end Tenancy.Interleaving
