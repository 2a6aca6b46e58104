import Tenancy.Proofs.FoundRows
import Tenancy.Proofs.Sequential
import Tenancy.Proofs.SchemaName

/-!
# Tenants with names of their own

A schema's name is derived from a display name that anybody may choose, and no step compares it with
the names of other tenants. So two tenants may be given one name, even by operations that run one
after the other. They are not exactly where the names that the calls can derive are apart: from each
other, and from the names that were registered to begin with.

## Key results

- `isolated_iff_apart`: when tenants keep names of their own
- `not_forall_isolated`: two tenants may share a name
-/

namespace Tenancy

namespace Store

variable {s s₀ : Store} {m : ServiceModule} {t u : TenantId} {c : StoreCall}

/-- No two tenants have the same registered name. -/
def Isolated (m : ServiceModule) (s : Store) : Prop :=
  ∀ t u name, s.registered? m t = some name → s.registered? m u = some name → t = u

/-- A tenant has a row and no registered name. -/
def Unnamed (m : ServiceModule) (s : Store) (t : TenantId) : Prop :=
  (s.tenant? t).isSome = true ∧ s.registered? m t = none

/-- The names that calls with certain tenants and display names derive are apart from each other and
    from the names that are registered. -/
def Apart (m : ServiceModule) (s : Store) (calls : TenantId → Option String → Prop) : Prop :=
  ∀ t displayName, calls t displayName → s.Unnamed m t → ∀ u, u ≠ t →
    s.registered? m u ≠ some (SchemaName.forTenant m t displayName) ∧
    ∀ displayName', calls u displayName' → s.Unnamed m u →
      SchemaName.forTenant m u displayName' ≠ SchemaName.forTenant m t displayName

/-! ## The names that a tenant can have -/

/-- The name that a tenant had to begin with, or where it had none, one that a call derives. -/
def NameOf (m : ServiceModule) (s₀ : Store) (calls : TenantId → Option String → Prop) (t : TenantId)
    (name : String) : Prop :=
  s₀.registered? m t = some name ∨
    ∃ displayName, calls t displayName ∧ s₀.Unnamed m t ∧
      name = SchemaName.forTenant m t displayName

variable {calls : TenantId → Option String → Prop} {name : String}

theorem NameOf.nonBlank?_eq (h : NameOf m s₀ calls t name) : Text.nonBlank? name = some name := by
  obtain hname | ⟨displayName, -, -, rfl⟩ := h
  · exact nonBlank?_registered? hname
  · exact SchemaName.nonBlank?_forTenant m t displayName

/-- Where names are apart, two tenants cannot have the same. -/
theorem NameOf.eq_of_apart (hs : s₀.Isolated m) (hapart : s₀.Apart m calls)
    (ht : NameOf m s₀ calls t name) (hu : NameOf m s₀ calls u name) : t = u := by
  by_contra hne
  rcases ht with ht | ⟨d, hd, htunnamed, rfl⟩
  · rcases hu with hu | ⟨d', hd', huunnamed, rfl⟩
    · exact hne (hs t u name ht hu)
    · exact (hapart u d' hd' huunnamed t hne).1 ht
  · rcases hu with hu | ⟨d', hd', huunnamed, heq⟩
    · exact (hapart t d hd htunnamed u (Ne.symm hne)).1 hu
    · exact (hapart t d hd htunnamed u (Ne.symm hne)).2 d' hd' huunnamed heq.symm

/-- Every tenant has a name that it can have, or had none to begin with; the log names no others. -/
structure Named (m : ServiceModule) (s₀ : Store) (calls : TenantId → Option String → Prop)
    (s : Store) : Prop where
  rows : ∀ t, (s.tenant? t).isSome = (s₀.tenant? t).isSome
  registered : ∀ t name, s.registered? m t = some name → NameOf m s₀ calls t name
  unnamed : ∀ t, s.registered? m t = none → s₀.registered? m t = none
  audits : ∀ e ∈ s.audits, e.moduleName = m.name → NameOf m s₀ calls e.tenant e.schema

/-- A call registers and logs only names that the tenant can have. -/
structure Names (m : ServiceModule) (s₀ : Store) (calls : TenantId → Option String → Prop)
    (c : StoreCall) : Prop where
  write : ∀ t schema, c = .setModuleSchema t m schema → NameOf m s₀ calls t schema
  insert : ∀ new, c = .insertAudit new → NameOf m s₀ calls new.tenant new.schema

theorem Named.apply (h : Named m s₀ calls s) (hc : Names m s₀ calls c) :
    Named m s₀ calls (s.apply c).2 where
  rows t := (s.isSome_tenant?_apply c t).trans (h.rows t)
  registered t name hname := by
    rcases s.registered?_apply c m t with hsame | ⟨schema, rfl, -, hwritten⟩
    · exact h.registered t name (hsame ▸ hname)
    · have hschema := hc.write t schema rfl
      rw [hwritten, hschema.nonBlank?_eq] at hname
      exact Option.some.inj hname ▸ hschema
  unnamed t hnone := by
    rcases s.registered?_apply c m t with hsame | ⟨schema, rfl, -, hwritten⟩
    · exact h.unnamed t (hsame ▸ hnone)
    · rw [hwritten, (hc.write t schema rfl).nonBlank?_eq] at hnone
      cases hnone
  audits e' he' hmodule := by
    rcases mem_audits_apply he' with ⟨e, he, hlater⟩ | ⟨new, rfl, rfl⟩
    · rw [hlater.schema_eq, hlater.tenant_eq]
      exact h.audits e he (hlater.moduleName_eq ▸ hmodule)
    · exact hc.insert new rfl

/-- A call that neither registers nor logs a name. -/
private theorem names_other (hwrite : ∀ t k schema, c ≠ .setModuleSchema t k schema)
    (hinsert : ∀ new, c ≠ .insertAudit new) : Names m s₀ calls c :=
  ⟨fun t schema hc => absurd hc (hwrite t m schema), fun new hc => absurd hc (hinsert new)⟩

end Store

/-! ## Operations -/

open Store Program

private def namedAttempt (m : ServiceModule) (s₀ : Store) {calls : TenantId → Option String → Prop}
    (owner : String) (t : TenantId) (displayName : Option String) (actor : String)
    (hcall : calls t displayName) :
    Provisioning.Outline (alone (Named m s₀ calls) fun _ c => Names m s₀ calls c) m owner t
      displayName actor fun _ _ => True where
  start _ := True
  chosen schema _ := NameOf m s₀ calls t schema
  noted schema _ _ := NameOf m s₀ calls t schema
  failing _ _ _ := True
  created schema _ _ := NameOf m s₀ calls t schema
  registered _ _ _ := True
  find := by
    refine alone_triple (fun _ _ _ => names_other nofun nofun) ?_ fun _ _ _ h => nomatch h
    intro s hs _ record hrecord
    have hrow : s.tenant? t = some record := Except.ok.inj hrecord
    cases hget : record.schemas.get m with
    | some name =>
      rw [Provisioning.schemaFor_of_get hget]
      exact hs.registered t name ((registered?_of_tenant? hrow).trans hget)
    | none =>
      -- the tenant has no name now, so it had none to begin with
      have hnone := hs.unnamed t ((registered?_of_tenant? hrow).trans hget)
      have hhasRow : (s₀.tenant? t).isSome = true := by rw [← hs.rows, hrow, Option.isSome_some]
      rw [Provisioning.schemaFor, hget, Option.getD_none]
      exact .inr ⟨displayName, hcall, ⟨hhasRow, hnone⟩, rfl⟩
  insert schema := alone_triple (fun _ _ h => ⟨nofun, fun new hc => by cases hc; exact h⟩)
    (fun _ _ h => h) fun _ h => h
  ensure schema inserted := alone_triple (fun _ _ _ => names_other nofun nofun)
    (fun _ _ h => ⟨fun _ => h, fun _ _ => trivial⟩) fun _ h => ⟨fun _ => h, fun _ _ => trivial⟩
  fail schema inserted e := alone_triple (fun _ _ _ => names_other nofun nofun)
    (fun _ _ _ => trivial) fun _ _ => trivial
  progress schema id := alone_triple (fun _ _ _ => names_other nofun nofun)
    (fun _ _ h => h) fun _ h => h
  register schema inserted := alone_triple
    (fun _ _ h => ⟨fun u name hc => by cases hc; exact h, nofun⟩)
    (fun _ _ _ _ _ => trivial) fun _ _ _ _ => trivial
  succeed schema id := by
    rintro s s' - ⟨rfl, -⟩
    exact ⟨names_other nofun nofun, fun _ _ _ _ _ => trivial⟩
  finish _ _ _ _ _ _ := trivial

private def namedPass (m : ServiceModule) (s₀ : Store) (calls : TenantId → Option String → Prop)
    (cutoff : Timestamp) :
    Reconciliation.Outline (alone (Named m s₀ calls) fun _ c => Names m s₀ calls c) m cutoff where
  start _ := True
  known e _ := NameOf m s₀ calls e.tenant e.schema
  present e _ := NameOf m s₀ calls e.tenant e.schema
  missing _ _ := True
  blank e _ := NameOf m s₀ calls e.tenant e.schema
  registered _ _ := True
  keeps _ _ _ h _ := h
  keepsOwn _ _ _ _ _ h _ _ := h
  find := by
    refine alone_triple (fun _ _ _ => names_other nofun nofun) ?_ fun _ _ _ h => nomatch h
    intro s hs _ rows hrows e he
    cases hrows
    obtain ⟨hmem, hmodule⟩ := mem_of_mem_stalledAudits he
    exact hs.audits e hmem hmodule
  look e := alone_triple (fun _ _ _ => names_other nofun nofun)
    (fun _ _ h => ⟨fun _ => h, fun _ => trivial⟩) fun _ h => ⟨fun _ => h, fun _ => trivial⟩
  fail e := alone_triple (fun _ _ _ => names_other nofun nofun) (fun _ _ _ => trivial)
    fun _ _ => trivial
  read e := alone_triple (fun _ _ _ => names_other nofun nofun)
    (fun _ _ h _ _ => ⟨fun _ => h, fun _ => trivial⟩) fun _ _ _ h => nomatch h
  repair e := alone_triple (fun _ _ h => ⟨fun u name hc => by cases hc; exact h, nofun⟩)
    (fun _ _ _ _ _ => trivial) fun _ _ _ _ => trivial
  succeed e := alone_triple (fun _ _ _ => names_other nofun nofun) (fun _ _ _ => trivial)
    fun _ _ => trivial

namespace Operation

/-- An operation provisions with a tenant and a display name among those given, or reconciles. -/
def Within (calls : TenantId → Option String → Prop) (op : Operation) : Prop :=
  ∀ owner t displayName actor, op.job = .provision owner t displayName actor → calls t displayName

variable {m : ServiceModule} {s s₀ : Store} {calls : TenantId → Option String → Prop}

/-- After an operation tenants still have names that they can have. -/
theorem named_apply {op : Operation} (hop : op.Within calls) (hs : Named m s₀ calls s) :
    Named m s₀ calls (apply m s op) := by
  have hnow : Named m s₀ calls { s with clock := op.now } :=
    ⟨hs.rows, hs.registered, hs.unnamed, hs.audits⟩
  have hkeeps : ∀ s c, Named m s₀ calls s → Names m s₀ calls c → Named m s₀ calls (s.apply c).2 :=
    fun _ _ h hc => h.apply hc
  obtain ⟨job, fails, now⟩ := op
  cases job with
  | provision owner t displayName actor =>
    have hguarded := (namedAttempt m s₀ owner t displayName actor
      (hop owner t displayName actor rfl)).guarded (v := { s with clock := now }) trivial
    exact (runWith_of_guarded hkeeps hguarded hnow fails 0).1
  | reconcile staleAfter =>
    have hguarded := (namedPass m s₀ calls (Reconciliation.cutoff now staleAfter)).guarded
      alone_steady (v := { s with clock := now }) trivial
    exact (runWith_of_guarded hkeeps hguarded hnow fails 0).1

/-- An attempt whose calls succeed. -/
def provision (t : TenantId) (displayName : Option String) : Operation where
  job := .provision "" t displayName ""
  fails _ := none
  now := .ofNanos 0

/-- An attempt for a tenant without a name, whose calls succeed, registers the name that it derives,
    and leaves the other tenants. -/
theorem registered?_provision {t : TenantId} (displayName : Option String) (h : s.Unnamed m t) :
    (apply m s (provision t displayName)).registered? m t =
      some (SchemaName.forTenant m t displayName) ∧
    ∀ u, u ≠ t →
      (apply m s (provision t displayName)).registered? m u = s.registered? m u ∧
      ((apply m s (provision t displayName)).tenant? u).isSome = (s.tenant? u).isSome := by
  obtain ⟨hhasRow, hnone⟩ := h
  obtain ⟨record, hrow⟩ := Option.isSome_iff_exists.mp hhasRow
  have hschema : Provisioning.schemaFor m record t displayName =
      SchemaName.forTenant m t displayName := by
    rw [registered?_of_tenant? hrow] at hnone
    rw [Provisioning.schemaFor, hnone, Option.getD_none]
  have hrun := Provisioning.runOn_attempt (s := { s with clock := .ofNanos 0 }) "" "" hrow hschema
  have happly : apply m s (provision t displayName) = _ := congrArg Prod.snd hrun
  rw [happly]
  refine ⟨?_, fun u hu => ⟨?_, isSome_tenant?_applyAll _ _ u⟩⟩
  · -- the last call but one registers the name, and the last leaves it
    refine (registered?_setModuleSchema_self _ t m _).trans ?_
    rw [SchemaName.nonBlank?_forTenant, if_pos]
    exact (isSome_tenant?_applyAll { s with clock := .ofNanos 0 }
      [.insertAudit ⟨t, m, _, ""⟩, .ensureSchema t _ "", .updateAudit (.entry _) _ none] t).trans
      hhasRow
  · refine registered?_applyAll fun c hc schema => ?_
    simp only [List.mem_cons, List.not_mem_nil, or_false] at hc
    rcases hc with rfl | rfl | rfl | rfl | rfl <;> simp [Ne.symm hu]

end Operation

/-! ## Sequences of operations -/

namespace Operation

variable {m : ServiceModule} {s : Store} {calls : TenantId → Option String → Prop}

/-- From tenants with names of their own and an empty log, with provisioning for certain tenants and
    display names, whichever store calls fail: tenants keep names of their own in every state that a
    sequence of operations leads to, if and only if the names that these calls derive are apart. -/
theorem isolated_iff_apart (hs : s.Isolated m) (haudits : s.audits = []) :
    (∀ ops, (∀ op ∈ ops, Within calls op) → (applyAll m s ops).Isolated m) ↔ s.Apart m calls := by
  constructor
  · intro h t displayName hcall hunnamed u hu
    have hwithin : ∀ {v d}, calls v d → Within calls (provision v d) := by
      rintro v d hvd owner v' d' actor ⟨⟩
      exact hvd
    obtain ⟨hown, hothers⟩ := registered?_provision displayName hunnamed
    obtain ⟨hsame, hrow⟩ := hothers u hu
    constructor
    · -- one call gives `t` the name that `u` has
      intro hname
      have hisolated := h [provision t displayName] (by simpa using hwithin hcall)
      exact hu (hisolated t u _ hown (hsame.trans hname)).symm
    · -- two calls give both tenants one name
      intro displayName' hcall' hunnamed' heq
      have hisolated := h [provision t displayName, provision u displayName'] (by
        simpa using ⟨hwithin hcall, hwithin hcall'⟩)
      obtain ⟨hown', hothers'⟩ := registered?_provision displayName'
        (s := apply m s (provision t displayName)) ⟨hrow.trans hunnamed'.1, hsame.trans hunnamed'.2⟩
      rw [heq] at hown'
      exact hu (hisolated t u _ ((hothers' t hu.symm).1.trans hown) hown').symm
  · intro hapart ops hops t u name ht hu
    -- to begin with the log is empty, and every name is the tenant's first
    have hstart : Named m s calls s :=
      ⟨fun _ => rfl, fun _ _ hname => .inl hname, fun _ hnone => hnone, by simp [haudits]⟩
    have hnamed : Named m s calls (applyAll m s ops) :=
      inv_applyAll (fun _ op hop h => named_apply (hops op hop) h) hstart
    exact (hnamed.registered t name ht).eq_of_apart hs hapart (hnamed.registered u name hu)

/-- Two tenants without names. -/
def twoTenants : Store where
  tenants := [.unnamed .operations ⟨2⟩, .unnamed .operations ⟨3⟩]

private theorem registered?_twoTenants (t : TenantId) : twoTenants.registered? .operations t = none :=
  registered?_eq_none fun r hr => by
    simp only [twoTenants, List.mem_cons, List.not_mem_nil, or_false] at hr
    rcases hr with rfl | rfl <;> rfl

private theorem isolated_twoTenants : twoTenants.Isolated .operations := by
  intro t u name ht
  rw [registered?_twoTenants] at ht
  cases ht

/-- Two tenants that are provisioned with display names whose slugs differ keep names of their own. -/
theorem isolated_iff_apart_twoTenants :
    twoTenants.Isolated .operations ∧ twoTenants.audits = [] ∧
      ∀ ops, (∀ op ∈ ops, Within (fun t displayName => t = ⟨2⟩ ∧ displayName = some "Acme" ∨
        t = ⟨3⟩ ∧ displayName = some "Globex") op) →
        (applyAll .operations twoTenants ops).Isolated .operations := by
  refine ⟨isolated_twoTenants, rfl, (isolated_iff_apart isolated_twoTenants rfl).mpr ?_⟩
  intro t displayName hcall _ u hu
  refine ⟨by simp [registered?_twoTenants], fun displayName' hcall' _ => ?_⟩
  rcases hcall with ⟨rfl, rfl⟩ | ⟨rfl, rfl⟩
  · rcases hcall' with ⟨rfl, rfl⟩ | ⟨rfl, rfl⟩
    · exact absurd rfl hu
    · decide
  · rcases hcall' with ⟨rfl, rfl⟩ | ⟨rfl, rfl⟩
    · decide
    · exact absurd rfl hu

/-- Two tenants may share a name: their display names need only have one slug. -/
theorem not_forall_isolated :
    ¬∀ s : Store, s.Isolated .operations → s.audits = [] →
      ∀ ops, (applyAll .operations s ops).Isolated .operations := by
  intro h
  have hisolated := h twoTenants isolated_twoTenants rfl
    [provision ⟨2⟩ (some "Acme"), provision ⟨3⟩ (some "Acme!")]
  exact absurd (hisolated ⟨2⟩ ⟨3⟩ "ops_acme" (by decide) (by decide)) (by decide)

end Operation

end Tenancy
