import Tenancy.Proofs.FoundRows
import Tenancy.Proofs.Sequential

/-!
# Work on one row

A pass asks for the schema of a row and for the tenant's row in the registry, and what they say
decides what becomes of the row. A call that fails cuts the work short. Then the stores are as they
were, except that a name may be registered while the row still says that none is.

## Key results

- `worked_entry`: work on a row, whichever of its calls fail
- `runOn_entry`: work on a row in which no call fails
- `carryOut_halfway`: work that was cut short is finished by work in which no call fails
- `Worked.of_error`, `Worked.of_settled`: what an outcome says of the stores
-/

namespace Tenancy.Reconciliation

variable {m : ServiceModule} {e : Audit.Entry} {s : Store} {fails : Nat → Option DbError}
  {index : Nat} {result : Except DbError Outcome × Store}

/-- What becomes of a row if no call fails. -/
def verdict (m : ServiceModule) (e : Audit.Entry) (s : Store) : Outcome :=
  if e.schema ∈ s.schemas then
    match s.registered? m e.tenant with
    | none => if (s.tenant? e.tenant).isSome then .repaired else .conflict
    | some name => if name = e.schema then .confirmed else .conflict
  else .failed

/-- The stores after the work on a row that came to an outcome. -/
def carryOut (m : ServiceModule) (e : Audit.Entry) (s : Store) : Outcome → Store
  | .repaired =>
    (s.setModuleSchema e.tenant m e.schema).updateAudit (.entry e.id) .success none
  | .confirmed => s.updateAudit (.entry e.id) .success none
  | .failed => s.updateAudit (.entry e.id) .failed (some schemaNotFound)
  | .conflict => s

theorem verdict_eq_failed_iff : verdict m e s = .failed ↔ e.schema ∉ s.schemas := by
  unfold verdict
  repeat' split
  all_goals simp_all

theorem verdict_eq_confirmed_iff :
    verdict m e s = .confirmed ↔
      e.schema ∈ s.schemas ∧ s.registered? m e.tenant = some e.schema := by
  unfold verdict
  repeat' split
  all_goals simp_all

theorem verdict_eq_repaired_iff :
    verdict m e s = .repaired ↔ e.schema ∈ s.schemas ∧ s.registered? m e.tenant = none ∧
      (s.tenant? e.tenant).isSome = true := by
  unfold verdict
  repeat' split
  all_goals simp_all

theorem verdict_eq_conflict_iff :
    verdict m e s = .conflict ↔ e.schema ∈ s.schemas ∧
      ((s.tenant? e.tenant).isSome = false ∧ s.registered? m e.tenant = none ∨
        ∃ name, s.registered? m e.tenant = some name ∧ name ≠ e.schema) := by
  unfold verdict
  repeat' split
  all_goals simp_all

/-! ## Whichever calls fail -/

/-- The result of the work on a row and the stores after it. -/
inductive Worked (fails : Nat → Option DbError) (m : ServiceModule) (e : Audit.Entry) (s : Store) :
    Except DbError Outcome × Store → Prop where
  | done {outcome : Outcome} (hverdict : verdict m e s = outcome) :
    Worked fails m e s (.ok outcome, carryOut m e s outcome)
  /-- A call failed before anything was changed. -/
  | stopped {err : DbError} (hfails : ∃ i, fails i = some err) : Worked fails m e s (.error err, s)
  /-- The schema was registered, and the row could not be marked. -/
  | halfway {err : DbError} (hfails : ∃ i, fails i = some err) (hverdict : verdict m e s = .repaired) :
    Worked fails m e s (.error err, s.setModuleSchema e.tenant m e.schema)

private theorem runWith_settle (e : Audit.Entry) (status : Audit.Status) (error : Option String)
    (outcome : Outcome) (s : Store) :
    (settle e status error outcome).runWith fails index s =
      match fails index with
      | some err => (.error err, s)
      | none => (.ok outcome, s.updateAudit (.entry e.id) status error) := by
  rw [settle, ask, Program.call_bind, StoreProgram.runWith]
  cases fails index <;> rfl

private theorem worked_settle {status : Audit.Status} {error : Option String} {outcome : Outcome}
    (hverdict : verdict m e s = outcome)
    (hdone : carryOut m e s outcome = s.updateAudit (.entry e.id) status error) :
    Worked fails m e s ((settle e status error outcome).runWith fails index s) := by
  rw [runWith_settle]
  cases hfails : fails index with
  | some err => exact .stopped ⟨index, hfails⟩
  | none =>
    dsimp only
    rw [← hdone]
    exact .done hverdict

private theorem worked_repair (hexists : e.schema ∈ s.schemas)
    (hnone : s.registered? m e.tenant = none) :
    Worked fails m e s ((repair m e).runWith fails index s) := by
  rw [repair, ask, Program.call_bind, StoreProgram.runWith]
  cases hfails : fails index with
  | some err => exact .stopped ⟨index, hfails⟩
  | none =>
    -- the write answers how many rows it changed, and a tenant has one at most
    cases hrow : (s.tenant? e.tenant).isSome with
    | false =>
      have hanswer : s.apply (.setModuleSchema e.tenant m e.schema) = (0, s) := by
        rw [Store.apply, s.setModuleSchema_of_isNone hrow, if_neg (by simp [hrow])]
      have hverdict : verdict m e s = .conflict := by simp [verdict, hexists, hnone, hrow]
      rw [hanswer]
      exact .done hverdict
    | true =>
      have hanswer : (s.apply (.setModuleSchema e.tenant m e.schema)).1 = 1 := if_pos hrow
      have hverdict := verdict_eq_repaired_iff.mpr ⟨hexists, hnone, hrow⟩
      dsimp only
      rw [hanswer]
      dsimp only
      rw [runWith_settle]
      cases hlast : fails (index + 1) with
      | some err => exact .halfway ⟨index + 1, hlast⟩ hverdict
      | none => exact .done hverdict

/-- Work on a row comes to what the stores say becomes of it, or it fails. If it fails, then nothing
    was changed, or the schema was registered and no more. -/
theorem worked_entry (fails : Nat → Option DbError) (m : ServiceModule) (e : Audit.Entry)
    (index : Nat) (s : Store) : Worked fails m e s ((entry m e).runWith fails index s) := by
  rw [entry, ask, Program.call_bind, StoreProgram.runWith]
  cases hfirst : fails index with
  | some err => exact .stopped ⟨index, hfirst⟩
  | none =>
    by_cases hexists : e.schema ∈ s.schemas
    · have hanswer : s.apply (.schemaExists e.schema) = (true, s) := by simp [Store.apply, hexists]
      rw [hanswer]
      dsimp only
      rw [ask, Program.call_bind, StoreProgram.runWith]
      cases hsecond : fails (index + 1) with
      | some err => exact .stopped ⟨index + 1, hsecond⟩
      | none =>
        -- what the registry names decides
        have hread : (s.apply (.findTenant e.tenant)).1.bind (fun r => r.schemas.get m) =
            s.registered? m e.tenant := rfl
        dsimp only
        rw [hread]
        cases hname : s.registered? m e.tenant with
        | none => exact worked_repair hexists hname
        | some name =>
          by_cases hsame : name = e.schema
          · subst hsame
            simp only [if_true]
            exact worked_settle (verdict_eq_confirmed_iff.mpr ⟨hexists, hname⟩) rfl
          · have hverdict : verdict m e s = .conflict := by simp [verdict, hexists, hname, hsame]
            simp only [hsame, if_false]
            exact .done hverdict
    · have hanswer : s.apply (.schemaExists e.schema) = (false, s) := by
        simp [Store.apply, hexists]
      rw [hanswer]
      exact worked_settle (verdict_eq_failed_iff.mpr hexists) rfl

/-- Work on a row in which no call fails comes to what the stores say becomes of it. -/
theorem runOn_entry (m : ServiceModule) (e : Audit.Entry) (s : Store) :
    (entry m e).runOn s = (.ok (verdict m e s), carryOut m e s (verdict m e s)) := by
  have hworked := worked_entry (fun _ => none) m e 0 s
  rw [← StoreProgram.runOn] at hworked
  generalize (entry m e).runOn s = result at hworked ⊢
  cases hworked with
  | done hverdict => rw [hverdict]
  | stopped hfails => obtain ⟨_, ⟨⟩⟩ := hfails
  | halfway hfails => obtain ⟨_, ⟨⟩⟩ := hfails

/-- A row whose schema was registered by work that was cut short is confirmed by work in which no call
    fails, and then the stores are as if it had not been cut short. -/
theorem carryOut_halfway (hverdict : verdict m e s = .repaired)
    (hname : Text.nonBlank? e.schema = some e.schema) :
    verdict m e (s.setModuleSchema e.tenant m e.schema) = .confirmed ∧
      carryOut m e (s.setModuleSchema e.tenant m e.schema) .confirmed = carryOut m e s .repaired := by
  obtain ⟨hexists, -, hrow⟩ := verdict_eq_repaired_iff.mp hverdict
  refine ⟨verdict_eq_confirmed_iff.mpr ⟨hexists, ?_⟩, rfl⟩
  rw [Store.registered?_setModuleSchema_self, if_pos hrow, hname]

/-! ## What an outcome says -/

namespace Worked

/-- Work that came to an outcome came to what the stores say, and was carried out. -/
theorem of_ok (h : Worked fails m e s result) {outcome : Outcome} (houtcome : result.1 = .ok outcome) :
    verdict m e s = outcome ∧ result.2 = carryOut m e s outcome := by
  cases h with
  | done hverdict =>
    obtain rfl := Except.ok.inj houtcome
    exact ⟨hverdict, rfl⟩
  | stopped hfails => cases houtcome
  | halfway hfails hverdict => cases houtcome

/-- A row that failed or met a conflict leaves all tenants as they were. -/
theorem tenants_eq (h : Worked fails m e s result)
    (houtcome : result.1 = .ok .failed ∨ result.1 = .ok .conflict) :
    result.2.tenants = s.tenants := by
  cases houtcome with
  | inl hfailed => rw [(h.of_ok hfailed).2, carryOut, Store.updateAudit_eq]
  | inr hconflict => rw [(h.of_ok hconflict).2, carryOut]

/-- Work that failed leaves the log as it was, and changes the registry at most by a name where none
    was registered. -/
theorem of_error (h : Worked fails m e s result) {err : DbError} (houtcome : result.1 = .error err) :
    result.2.audits = s.audits ∧ (result.2.tenants = s.tenants ∨
      s.registered? m e.tenant = none ∧
        result.2.tenants = (s.setModuleSchema e.tenant m e.schema).tenants) := by
  cases h with
  | done hverdict => cases houtcome
  | stopped hfails => exact ⟨rfl, .inl rfl⟩
  | halfway hfails hverdict =>
    exact ⟨rfl, .inr ⟨(verdict_eq_repaired_iff.mp hverdict).2.1, rfl⟩⟩

/-- The name of a row that was repaired or confirmed is registered, and the row is marked. -/
theorem of_settled (h : Worked fails m e s result)
    (houtcome : result.1 = .ok .repaired ∨ result.1 = .ok .confirmed) (he : e ∈ s.audits) :
    result.2.registered? m e.tenant = Text.nonBlank? e.schema ∧
      e.mark .success none ∈ result.2.audits := by
  have hmarked : ∀ s : Store, e ∈ s.audits →
      e.mark .success none ∈ (s.updateAudit (.entry e.id) .success none).audits := fun _ he =>
    Store.mark_mem_apply he (beq_self_eq_true _) .success none
  cases houtcome with
  | inl hrepaired =>
    obtain ⟨hverdict, hstores⟩ := h.of_ok hrepaired
    obtain ⟨-, -, hrow⟩ := verdict_eq_repaired_iff.mp hverdict
    rw [hstores]
    refine ⟨?_, hmarked (s.setModuleSchema e.tenant m e.schema) he⟩
    exact (s.registered?_setModuleSchema_self e.tenant m e.schema).trans (if_pos hrow)
  | inr hconfirmed =>
    obtain ⟨hverdict, hstores⟩ := h.of_ok hconfirmed
    obtain ⟨-, hname⟩ := verdict_eq_confirmed_iff.mp hverdict
    rw [hstores]
    exact ⟨hname.trans (Store.nonBlank?_registered? hname).symm, hmarked s he⟩

/-- What a write to the tenant's column and marks on the row keep, the work on the row keeps. -/
theorem invariant (h : Worked fails m e s result) {P : Store → Prop}
    (hwrite : ∀ s, P s → P (s.setModuleSchema e.tenant m e.schema))
    (hmark : ∀ s status error, P s → P (s.updateAudit (.entry e.id) status error)) (hs : P s) :
    P result.2 := by
  cases h with
  | @done outcome hverdict =>
    cases outcome with
    | repaired => exact hmark _ _ _ (hwrite s hs)
    | confirmed => exact hmark s _ _ hs
    | failed => exact hmark s _ _ hs
    | conflict => exact hs
  | stopped hfails => exact hs
  | halfway hfails hverdict => exact hwrite s hs

theorem keyed (h : Worked fails m e s result) (hs : s.Keyed) : result.2.Keyed :=
  h.invariant (fun _ hs => hs.apply (.setModuleSchema e.tenant m e.schema))
    (fun _ status error hs => hs.apply (.updateAudit (.entry e.id) status error)) hs

/-- Rows with other ids stay as they are. -/
theorem mem_of_id_ne (h : Worked fails m e s result) {other : Audit.Entry} (hmem : other ∈ s.audits)
    (hid : other.id ≠ e.id) : other ∈ result.2.audits := by
  refine h.invariant (P := fun s => other ∈ s.audits) (fun _ hmem => hmem) ?_ hmem
  intro s status error hmem
  exact List.mem_map.mpr ⟨other, hmem, if_neg fun hcovers => hid (beq_iff_eq.mp hcovers)⟩

end Worked

/-! ## What a pass finds afterwards -/

/-- A row that came to something else than a conflict is not found again. -/
theorem stalledAudits_carryOut {outcome : Outcome} (houtcome : outcome ≠ .conflict)
    (cutoff : Timestamp) :
    (carryOut m e s outcome).stalledAudits m cutoff =
      (s.stalledAudits m cutoff).filter (·.id != e.id) := by
  cases outcome with
  | repaired => exact Store.stalledAudits_updateAudit _ m cutoff e.id none nofun
  | confirmed => exact Store.stalledAudits_updateAudit s m cutoff e.id none nofun
  | failed => exact Store.stalledAudits_updateAudit s m cutoff e.id _ nofun
  | conflict => exact absurd rfl houtcome

/-- A pass finds what it would have found before the work on a row, with the row or without it. -/
theorem Worked.stalledAudits_eq (h : Worked fails m e s result) (cutoff : Timestamp) :
    result.2.stalledAudits m cutoff = s.stalledAudits m cutoff ∨
      result.2.stalledAudits m cutoff = (s.stalledAudits m cutoff).filter (·.id != e.id) := by
  cases h with
  | @done outcome hverdict =>
    by_cases houtcome : outcome = .conflict
    · left
      rw [houtcome]
      rfl
    · exact .inr (stalledAudits_carryOut houtcome cutoff)
  | stopped hfails => exact .inl rfl
  | halfway hfails hverdict => exact .inl rfl

end Tenancy.Reconciliation
