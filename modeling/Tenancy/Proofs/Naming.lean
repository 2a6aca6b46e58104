import Tenancy.Proofs.FoundRows
import Tenancy.Proofs.Jobs

/-!
# Schemas that tasks name

A task names a schema when it writes a column, adds a row to the audit log or creates a schema. The
schema of an attempt comes from the tenant's row in the registry or from a display name, and that of a
pass from a row of the log. So if all of these are of one kind, then tasks name schemas of that kind
only, whatever others do.

## Key results

- `Contract.naming_sound`: tasks name schemas of one kind
-/

namespace Tenancy

/-- The schema that a call names for a tenant, if it names one, is of a kind. -/
def StoreCall.Names (kind : TenantId → String → Prop) : StoreCall → Prop
  | .setModuleSchema t _ schema => kind t schema
  | .insertAudit new => kind new.tenant new.schema
  | .ensureSchema t schema _ => kind t schema
  | _ => True

namespace Interleaving

/-- What an attempt is asked to do is of a kind. -/
def Job.Asks (kind : TenantId → Option String → Prop) (job : Job) : Prop :=
  ∀ owner t displayName actor, job = .provision owner t displayName actor → kind t displayName

namespace Contract

/-- Tasks name schemas of a kind, and that keeps what is known of the stores. -/
def naming (kind : TenantId → String → Prop) (known : Store → Prop) : Contract where
  inv s _ := known s
  rely _ _ _ _ := True
  guar _ _ _ c := c.Names kind
  post _ job _ outcome := ∀ t schema, job.tenant? = some t →
    outcome = .provisioned (.ok schema) → kind t schema

variable {m : ServiceModule} {kind : TenantId → String → Prop} {known : Store → Prop} {id : TaskId}
  {job : Job}

/-- A call, where what is known does not depend on what others do. -/
private theorem naming_triple {P : Prop} {c : StoreCall} {Q : c.Reply → Prop}
    (hguar : P → c.Names kind) (hok : ∀ s : Store, known s → P → Q (.ok (s.apply c).1))
    (herror : ∀ e, P → Q (.error e)) :
    ((naming kind known).stores id job).Triple (fun _ => P) c fun r _ => Q r :=
  stores_triple fun _ v' hP _ _ hknown => ⟨hguar hP, hok v'.store hknown hP, fun e => herror e hP⟩

private def namingAttempt (m : ServiceModule) (id : TaskId) (job : Job) (owner : String)
    (t : TenantId) (displayName : Option String) (actor : String)
    (hschema : ∀ s record, known s → s.tenant? t = some record →
      kind t (Provisioning.schemaFor m record t displayName)) :
    Provisioning.Outline ((naming kind known).stores id job) m owner t displayName actor
      fun schema _ => kind t schema where
  start _ := True
  chosen schema _ := kind t schema
  noted schema _ _ := kind t schema
  failing _ _ _ := True
  created schema _ _ := kind t schema
  registered schema _ _ := kind t schema
  find := naming_triple (fun _ => trivial)
    (fun s hs _ record hrecord => hschema s record hs (Except.ok.inj hrecord))
    (fun _ _ _ h => nomatch h)
  insert _ := naming_triple (fun h => h) (fun _ _ h => h) (fun _ h => h)
  ensure _ _ := naming_triple (fun h => h)
    (fun _ _ h => ⟨fun _ => h, fun _ _ => trivial⟩) (fun _ h => ⟨fun _ => h, fun _ _ => trivial⟩)
  fail _ _ _ := naming_triple (fun _ => trivial) (fun _ _ _ => trivial)
    (fun _ _ => trivial)
  progress _ _ := naming_triple (fun _ => trivial) (fun _ _ h => h) (fun _ h => h)
  register _ _ := naming_triple (fun h => h) (fun _ _ h _ _ => h) (fun _ h _ _ => h)
  succeed _ _ := stores_triple fun _ _ h _ _ _ =>
    ⟨trivial, fun _ _ => h, fun _ _ _ => h⟩
  finish _ _ _ _ h _ := h

private def namingPass (m : ServiceModule) (id : TaskId) (job : Job) (cutoff : Timestamp)
    (hrows : ∀ s : Store, known s → ∀ e ∈ s.audits, e.moduleName = m.name → kind e.tenant e.schema) :
    Reconciliation.Outline ((naming kind known).stores id job) m cutoff where
  start _ := True
  known e _ := kind e.tenant e.schema
  present e _ := kind e.tenant e.schema
  missing _ _ := True
  blank e _ := kind e.tenant e.schema
  registered _ _ := True
  keeps _ _ _ h _ := h
  keepsOwn _ _ _ _ _ h _ _ := h
  find := by
    refine naming_triple (fun _ => trivial) ?_ (fun _ _ _ h => nomatch h)
    intro s hs _ rows hfound e he
    cases hfound
    obtain ⟨hmem, hmodule⟩ := Store.mem_of_mem_stalledAudits he
    exact hrows s hs e hmem hmodule
  look _ := naming_triple (fun _ => trivial) (fun _ _ h => ⟨fun _ => h, fun _ => trivial⟩)
    (fun _ h => ⟨fun _ => h, fun _ => trivial⟩)
  fail _ := naming_triple (fun _ => trivial) (fun _ _ _ => trivial) (fun _ _ => trivial)
  read _ := naming_triple (fun _ => trivial) (fun _ _ h _ _ => ⟨fun _ => h, fun _ => trivial⟩)
    (fun _ h _ _ => ⟨fun _ => h, fun _ => trivial⟩)
  repair _ := naming_triple (fun h => h) (fun _ _ _ _ _ => trivial) (fun _ _ _ _ => trivial)
  succeed _ := naming_triple (fun _ => trivial) (fun _ _ _ => trivial) (fun _ _ => trivial)

/-- Tasks name schemas of one kind, if what is known says so of the rows that they find, and naming
    such schemas keeps what is known. -/
theorem naming_sound {asked : TenantId → Option String → Prop}
    (hschema : ∀ s t displayName record, known s → asked t displayName →
      s.tenant? t = some record → kind t (Provisioning.schemaFor m record t displayName))
    (hrows : ∀ s : Store, known s → ∀ e ∈ s.audits, e.moduleName = m.name → kind e.tenant e.schema)
    (hkeeps : ∀ s c, known s → c.Names kind → known (s.apply c).2)
    (hticks : ∀ s now, known s → known { s with clock := now }) :
    (naming kind known).Sound m (fun _ => True) fun _ job => job.Asks asked where
  refl _ _ _ := trivial
  trans _ _ _ _ _ _ _ _ := trivial
  starts id p job v hjob hv _ := by
    have hE := surroundings_steady (K := naming kind known) (fun _ _ _ => trivial)
      (fun _ _ _ _ _ _ _ _ => trivial) id job
    cases job with
    | provision owner t displayName actor =>
      have hasked := hjob owner t displayName actor rfl
      refine provision_guarded hE (namingAttempt m id _ owner t displayName actor
        fun s record hs hrow => hschema s t displayName record hs hasked hrow) hv
        (fun _ _ => trivial) ?_ (fun _ _ _ _ _ => nofun)
      intro schema _ _ _ hkind _ _ u schema' hu houtcome
      cases hu
      cases houtcome
      exact hkind
    | reconcile staleAfter =>
      exact reconcile_guarded hE (fun cutoff => namingPass m id _ cutoff hrows) hv
        (fun _ _ _ => trivial) fun _ _ _ _ _ => nofun
  keeps _ _ v c hknown hguar := hkeeps v.store c hknown hguar
  others _ _ _ _ _ _ _ _ _ _ _ _ _ _ := trivial
  ticks s _ now hknown := hticks s now hknown
  ticksOthers _ _ _ _ _ _ := trivial

end Contract

end Interleaving

end Tenancy
