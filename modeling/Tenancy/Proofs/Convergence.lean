import Tenancy.Proofs.LoneTask
import Tenancy.Proofs.Naming
import Tenancy.Proofs.Serialization

/-!
# Attempts with one display name

Where all attempts for a tenant are made with one display name, they agree without talking to each
other: the name that they derive is the only one that its column, its rows in the audit log and its
attempts ever have. So neither the order of calls nor what stops halfway matters, in any number of
processes, and an attempt that runs to its end finishes what was left.

## Key results

- `Store.Fixed.apply`: which calls leave a tenant nothing but one name
- `fixed_sound`: tasks that use one display name make only such calls
- `provisioning_converges`: one name for the tenant in every run, and it is registered by the next
  attempt that is made alone
-/

namespace Tenancy

namespace Store

variable {s : Store} {m : ServiceModule} {t : TenantId} {name : String} {c : StoreCall}

/-! ## Columns as they stand -/

/-- A module's column as it stands in a tenant's row. -/
def column? (s : Store) (m : ServiceModule) (t : TenantId) : Option String :=
  (s.tenant? t).bind fun r => r.schemas.column m

theorem registered?_eq_bind (s : Store) (m : ServiceModule) (t : TenantId) :
    s.registered? m t = (s.column? m t).bind Text.nonBlank? := by
  unfold registered? column?
  rw [Option.bind_assoc]
  rfl

theorem column?_setModuleSchema_self (s : Store) (t : TenantId) (m : ServiceModule)
    (schema : String) :
    (s.setModuleSchema t m schema).column? m t =
      if (s.tenant? t).isSome then some schema else none := by
  unfold column?
  rw [tenant?_setModuleSchema]
  cases s.tenant? t with
  | none => rfl
  | some r => simp [TenantRecord.withSchema]

theorem column?_setModuleSchema_of_ne (s : Store) {t u : TenantId} {m k : ServiceModule}
    (schema : String) (h : ¬(u = t ∧ k = m)) :
    (s.setModuleSchema t m schema).column? k u = s.column? k u := by
  unfold column?
  rw [tenant?_setModuleSchema]
  cases s.tenant? u with
  | none => rfl
  | some r =>
    by_cases hu : u = t
    · have hk : k ≠ m := fun hk => h ⟨hu, hk⟩
      simp [hu, TenantRecord.withSchema, ModuleSchemas.column_set_of_ne _ _ hk]
    · simp [hu]

/-- A column changes by a write to its tenant and module alone; then it is the text that was
    written. -/
theorem column?_apply (s : Store) (c : StoreCall) (m : ServiceModule) (t : TenantId) :
    (s.apply c).2.column? m t = s.column? m t ∨
      ∃ schema, c = .setModuleSchema t m schema ∧ (s.apply c).2.column? m t = some schema := by
  cases c with
  | setModuleSchema u k schema =>
    by_cases h : t = u ∧ m = k
    · obtain ⟨rfl, rfl⟩ := h
      have hself := column?_setModuleSchema_self s t m schema
      cases hrow : s.tenant? t with
      | none =>
        left
        simpa [apply, column?, hrow] using hself
      | some r =>
        right
        exact ⟨schema, rfl, by simpa [apply, hrow] using hself⟩
    · exact .inl (column?_setModuleSchema_of_ne s schema h)
  | ensureSchema u schema owner =>
    left
    simp only [apply, addSchema]
    split <;> rfl
  | _ => exact .inl rfl

/-- A column is blank or holds a name. -/
def BlankOr (m : ServiceModule) (t : TenantId) (name : String) (s : Store) : Prop :=
  ∀ text, s.column? m t = some text → Text.nonBlank? text = none ∨ text = name

theorem BlankOr.registered? (h : s.BlankOr m t name) (hname : Text.nonBlank? name = some name) :
    s.registered? m t = none ∨ s.registered? m t = some name := by
  rw [registered?_eq_bind]
  cases hcolumn : s.column? m t with
  | none => exact .inl rfl
  | some text =>
    rcases h text hcolumn with hblank | rfl
    · exact .inl hblank
    · exact .inr hname

/-! ## One name -/

/-- A tenant has a row, whose column is blank or holds a name, and all its rows in the audit log have
    that name. -/
structure Fixed (m : ServiceModule) (t : TenantId) (name : String) (s : Store) : Prop where
  row : (s.tenant? t).isSome = true
  column : s.BlankOr m t name
  audits : ∀ e ∈ s.audits, e.tenant = t → e.moduleName = m.name → e.schema = name

/-- Calls that name no other schema for the tenant leave it nothing but that name. -/
theorem Fixed.apply (h : s.Fixed m t name) (hc : c.Names fun u schema => u = t → schema = name) :
    (s.apply c).2.Fixed m t name where
  row := (s.isSome_tenant?_apply c t).trans h.row
  column text htext := by
    rcases s.column?_apply c m t with hsame | ⟨schema, rfl, hwritten⟩
    · exact h.column text (hsame ▸ htext)
    · rw [hwritten] at htext
      exact .inr (Option.some.inj htext ▸ hc rfl)
  audits e' he' htenant hmodule := by
    rcases mem_audits_apply he' with ⟨e, he, hlater⟩ | ⟨new, rfl, rfl⟩
    · rw [hlater.schema_eq]
      exact h.audits e he (hlater.tenant_eq ▸ htenant) (hlater.moduleName_eq ▸ hmodule)
    · exact hc htenant

/-- The schema of an attempt, from a row whose column is blank or holds the derived name. -/
theorem Fixed.schemaFor_eq {d : Option String} {record : TenantRecord}
    (h : s.Fixed m t (SchemaName.forTenant m t d)) (hrow : s.tenant? t = some record) :
    Provisioning.schemaFor m record t d = SchemaName.forTenant m t d := by
  have hregistered := h.column.registered? (SchemaName.nonBlank?_forTenant m t d)
  rw [registered?_of_tenant? hrow] at hregistered
  rcases hregistered with hnone | hname
  · rw [Provisioning.schemaFor, hnone, Option.getD_none]
  · exact Provisioning.schemaFor_of_get hname t d

/-! ## The next attempt -/

/-- What an attempt leaves if no call fails: the name is in the column and is that of a schema, and the
    attempt's row is successful. -/
theorem applyAll_attempt (hrow : (s.tenant? t).isSome = true)
    (m : ServiceModule) (name owner actor : String) :
    let s' := s.applyAll [.insertAudit ⟨t, m, name, actor⟩, .ensureSchema t name owner,
      .updateAudit (.entry (s.lastAudit + 1)) .schemaCreated none, .setModuleSchema t m name,
      .updateAudit (.entry (s.lastAudit + 1)) .success none]
    s'.column? m t = some name ∧ name ∈ s'.schemas ∧
      { s.newEntry ⟨t, m, name, actor⟩ (s.lastAudit + 1) with status := .success } ∈ s'.audits := by
  intro s'
  let s₁ := (s.apply (.insertAudit ⟨t, m, name, actor⟩)).2
  let s₂ := (s₁.apply (.ensureSchema t name owner)).2
  let s₃ := (s₂.apply (.updateAudit (.entry (s.lastAudit + 1)) .schemaCreated none)).2
  let s₄ := (s₃.apply (.setModuleSchema t m name)).2
  refine ⟨?_, ?_, ?_⟩
  · have hrow₃ : (s₃.tenant? t).isSome = true := by
      rw [isSome_tenant?_apply, isSome_tenant?_apply, isSome_tenant?_apply, hrow]
    exact (column?_setModuleSchema_self s₃ t m name).trans (if_pos hrow₃)
  · have hcreated : name ∈ s₂.schemas := mem_schemas_apply.mpr (.inr ⟨t, owner, rfl⟩)
    exact schemas_subset_apply _ _ (schemas_subset_apply _ _ (schemas_subset_apply _ _ hcreated))
  · let e := s.newEntry ⟨t, m, name, actor⟩ (s.lastAudit + 1)
    have hinserted : e ∈ s₁.audits := List.mem_append_right _ List.mem_cons_self
    have hcreated : e ∈ s₂.audits := mem_apply_of_ne nofun hinserted
    have hmarked : e.mark .schemaCreated none ∈ s₃.audits :=
      mark_mem_apply hcreated (beq_self_eq_true _) _ _
    have hregistered : e.mark .schemaCreated none ∈ s₄.audits := mem_apply_of_ne nofun hmarked
    exact mark_mem_apply hregistered (beq_self_eq_true _) .success none

end Store

namespace Interleaving

/-- Tasks that use one display name for a tenant name one schema for it, whoever else does what. -/
theorem fixed_sound (m : ServiceModule) (t : TenantId) (d : Option String) :
    (Contract.naming (fun u schema => u = t → schema = SchemaName.forTenant m t d)
      (Store.Fixed m t (SchemaName.forTenant m t d))).Sound m (fun _ => True)
      fun _ job => job.Asks fun u displayName => u = t → displayName = d := by
  refine Contract.naming_sound ?_ ?_ (fun _ _ hs hc => hs.apply hc)
    (fun _ _ hs => ⟨hs.row, hs.column, hs.audits⟩)
  · rintro s u displayName record hs hname hrow rfl
    rw [hname rfl]
    exact hs.schemaFor_eq hrow
  · exact fun s hs e he hmodule ht => hs.audits e he ht hmodule

/-- From a tenant whose column is blank or holds the name derived from a display name, and whose audit
    rows have that name, where all attempts for the tenant use that display name, in any number of
    processes, whatever the order of calls, whichever fail and wherever tasks are dropped: the column
    stays blank or holds that name, schemas are created for the tenant under that name only, and
    attempts for it return no other; and from every state that is reached, an attempt that is made
    alone in a process that has no other under way for the tenant returns the name, with the name in
    the column, its schema, and its own row successful. -/
theorem provisioning_converges (m : ServiceModule) (t : TenantId) (d : Option String) (s : Store)
    (moves : List Move) (hs : s.Fixed m t (SchemaName.forTenant m t d))
    (hmoves : ∀ move ∈ moves,
      move.Admits fun _ job => job.Asks fun u displayName => u = t → displayName = d) :
    ((State.idle s).run m moves).store.BlankOr m t (SchemaName.forTenant m t d) ∧
    (∀ id task schema owner k, ((State.idle s).run m moves).tasks id = some task →
      task.dropped = false → task.rest = .ask (.store (.ensureSchema t schema owner)) k →
        schema = SchemaName.forTenant m t d) ∧
    (∀ id schema, ((State.idle s).run m moves).Returned t id schema →
      schema = SchemaName.forTenant m t d) ∧
    ∀ id p owner actor, ((State.idle s).run m moves).tasks id = none →
      (∀ j other, ((State.idle s).run m moves).tasks j = some other → other.process = p →
        other.job.tenant? = some t → other.isOver = true) →
      ∃ n S, ((State.idle s).run m moves).run m
          (Move.alone id p (.provision owner t d actor) n) = S ∧
        S.Returned t id (SchemaName.forTenant m t d) ∧
        S.store.column? m t = some (SchemaName.forTenant m t d) ∧
        SchemaName.forTenant m t d ∈ S.store.schemas ∧
        ∃ e ∈ S.store.audits, e.id = ((State.idle s).run m moves).store.lastAudit + 1 ∧
          e.tenant = t ∧ e.actor = some actor ∧ e.schema = SchemaName.forTenant m t d ∧
          e.status = .success := by
  have hsound := fixed_sound m t d
  have hholds := hsound.holds_run hs (fun _ _ => trivial) hmoves
  refine ⟨hholds.inv.column, ?_, ?_, ?_⟩
  · intro id task schema owner k hid hlive hrest
    exact hsound.guar_of_rest hholds hid hlive hrest rfl
  · -- what an attempt returned names a schema for its own tenant
    rintro id schema ⟨task, hid, hjob, hlive, hrest⟩
    exact hsound.post_of_done hholds hid hlive hrest t schema hjob rfl rfl
  · intro id p owner actor hnew hover
    obtain ⟨n, hstore, htask⟩ := State.run_attempt_alone m s moves owner d actor hnew hover
    -- what is in the stores now decides what the attempt does
    obtain ⟨record, hrecord⟩ := Option.isSome_iff_exists.mp hholds.inv.row
    rw [Provisioning.runOn_attempt owner actor hrecord (hholds.inv.schemaFor_eq hrecord)]
      at hstore htask
    dsimp only at hstore htask
    obtain ⟨hcolumn, hexists, hrow⟩ := Store.applyAll_attempt hholds.inv.row m
      (SchemaName.forTenant m t d) owner actor
    rw [← hstore] at hcolumn hexists hrow
    exact ⟨n, _, rfl, ⟨_, htask, rfl, rfl, rfl⟩, hcolumn, hexists, _, hrow, rfl, rfl, rfl, rfl, rfl⟩

/-- One process is cut off while it marks its progress, and another one is under way: the next attempt
    in the first process registers the name. -/
theorem provisioning_converges_cutOff :
    let s : Store := { tenants := [.unnamed .operations ⟨3⟩] }
    let moves : List Move :=
      [.start 0 0 (.provision "app" ⟨3⟩ (some "Globex") "api"), .proceed 0 none, .grant 0] ++
        List.replicate 4 (.proceed 0 none) ++ [.drop 0 true] ++
        [.start 1 1 (.provision "app" ⟨3⟩ (some "Globex") "api"), .proceed 1 none, .grant 1] ++
        List.replicate 3 (.proceed 1 none)
    s.Fixed .operations ⟨3⟩ (SchemaName.forTenant .operations ⟨3⟩ (some "Globex")) ∧
      (∀ move ∈ moves, move.Admits fun _ job => job.Asks fun u displayName =>
        u = ⟨3⟩ → displayName = some "Globex") ∧
      ((State.idle s).run .operations moves).store.registered? .operations ⟨3⟩ = none ∧
      ∃ n S, ((State.idle s).run .operations moves).run .operations
          (Move.alone 2 0 (.provision "app" ⟨3⟩ (some "Globex") "api") n) = S ∧
        S.Returned ⟨3⟩ 2 "ops_globex" ∧ S.store.column? .operations ⟨3⟩ = some "ops_globex" := by
  intro s moves
  have hname : SchemaName.forTenant .operations ⟨3⟩ (some "Globex") = "ops_globex" := by decide
  have hs : s.Fixed .operations ⟨3⟩ (SchemaName.forTenant .operations ⟨3⟩ (some "Globex")) :=
    ⟨rfl, fun _ => nofun, fun _ => nofun⟩
  have hmoves : ∀ move ∈ moves, move.Admits fun _ job => job.Asks fun u displayName =>
      u = ⟨3⟩ → displayName = some "Globex" := by
    have hjob : Job.Asks (fun u displayName => u = ⟨3⟩ → displayName = some "Globex")
        (.provision "app" ⟨3⟩ (some "Globex") "api") := by
      rintro owner u displayName actor ⟨⟩ -
      rfl
    simpa [moves, Move.Admits] using hjob
  have hover : ∀ j other, ((State.idle s).run .operations moves).tasks j = some other →
      other.process = 0 → other.job.tenant? = some ⟨3⟩ → other.isOver = true := by
    intro j other hj hprocess _
    have hstart := State.start_mem_of_tasks hj
    obtain rfl : j = 0 := by
      simp [moves, hprocess] at hstart
      exact hstart.1
    have hall : (((State.idle s).run .operations moves).tasks 0).all (·.isOver) = true := by decide
    rwa [hj] at hall
  have hnew : ((State.idle s).run .operations moves).tasks 2 = none :=
    Option.isNone_iff_eq_none.mp (by decide)
  obtain ⟨n, S, hS, hreturned, hcolumn, -⟩ := (provisioning_converges .operations ⟨3⟩
    (some "Globex") s moves hs hmoves).2.2.2 2 0 "app" "api" hnew hover
  rw [hname] at hreturned hcolumn
  exact ⟨hs, hmoves, by decide, n, S, hS, hreturned, hcolumn⟩

end Interleaving

end Tenancy
