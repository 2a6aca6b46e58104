import Tenancy.Proofs.Observation
import Tenancy.Proofs.Repair

/-!
# The audit log is best effort

An attempt goes on whether or not its calls about the audit log fail. Such a failure changes which
further calls about the log are made, and nothing else: the other calls, what they answer and what
they leave in the stores are those of the attempt whose calls about the log succeed.

Two programs are alike if they do the same but for calls about the log, which either of them may
make at any time and whatever they are answered. Programs that are alike have observations that
agree on everything but the log.

## Key results

- `StoreProgram.observe_of_alike`: what is observed of programs that are alike
- `Provisioning.attempt_alike`: an attempt is alike to itself, whatever it is told about the log
- `Provisioning.audit_best_effort`: attempts whose calls about the log fail differently
-/

namespace Tenancy

/-! ## Stores that differ in their logs -/

/-- Two stores with the same tenants, schemas and time. -/
structure Store.SameBesideAudit (s s' : Store) : Prop where
  tenants : s.tenants = s'.tenants
  schemas : s.schemas = s'.schemas
  clock : s.clock = s'.clock

namespace Store.SameBesideAudit

variable {s s' s'' : Store} {c : StoreCall}

theorem refl (s : Store) : s.SameBesideAudit s := ⟨rfl, rfl, rfl⟩

theorem symm (h : s.SameBesideAudit s') : s'.SameBesideAudit s :=
  ⟨h.tenants.symm, h.schemas.symm, h.clock.symm⟩

theorem trans (h : s.SameBesideAudit s') (h' : s'.SameBesideAudit s'') : s.SameBesideAudit s'' :=
  ⟨h.tenants.trans h'.tenants, h.schemas.trans h'.schemas, h.clock.trans h'.clock⟩

/-- Calls about the log change nothing else. -/
theorem apply_audit (s : Store) (hc : c.kind.isAudit = true) :
    s.SameBesideAudit (s.apply c).2 := by
  cases c with
  | insertAudit _ | updateAudit _ _ _ | latestAudit _ _ | stalledAudits _ _ =>
    exact ⟨rfl, rfl, rfl⟩
  | _ => cases hc

/-- Calls about anything else do not see the log. -/
theorem apply (h : s.SameBesideAudit s') (hc : c.kind.isAudit = false) :
    (s.apply c).1 = (s'.apply c).1 ∧ (s.apply c).2.SameBesideAudit (s'.apply c).2 := by
  obtain ⟨htenants, hschemas, hclock⟩ := h
  have htenant : ∀ t, s.tenant? t = s'.tenant? t := fun t => by
    rw [Store.tenant?, Store.tenant?, htenants]
  cases c with
  | setModuleSchema t m schema =>
    refine ⟨by simp only [Store.apply, htenant], ?_, hschemas, hclock⟩
    simp only [Store.apply, Store.setModuleSchema, htenants, hclock]
  | ensureSchema t schema owner =>
    refine ⟨rfl, ?_⟩
    simp only [Store.apply, Store.addSchema, hschemas]
    split
    · exact ⟨htenants, hschemas, hclock⟩
    · exact ⟨htenants, rfl, hclock⟩
  | schemaExists schema =>
    exact ⟨by simp only [Store.apply, hschemas], htenants, hschemas, hclock⟩
  | findTenant t => exact ⟨htenant t, htenants, hschemas, hclock⟩
  | isActive t => exact ⟨by simp only [Store.apply, htenant], htenants, hschemas, hclock⟩
  | hasModule t m => exact ⟨by simp only [Store.apply, htenant], htenants, hschemas, hclock⟩
  | insertAudit _ | updateAudit _ _ _ | latestAudit _ _ | stalledAudits _ _ => cases hc

end Store.SameBesideAudit

/-! ## Programs that are alike -/

/-- The calls that are not about the audit log. -/
def Made.besideAudit (made : List Made) : List Made := made.filter (!·.call.kind.isAudit)

namespace Made

variable {made made' : List Made} {call : StoreCall} {failure : Option DbError}

theorem besideAudit_append_audit (h : call.kind.isAudit = true) :
    besideAudit (made ++ [⟨call, failure⟩]) = besideAudit made := by
  simp [besideAudit, h]

theorem besideAudit_append (h : call.kind.isAudit = false) :
    besideAudit (made ++ [⟨call, failure⟩]) = besideAudit made ++ [⟨call, failure⟩] := by
  simp [besideAudit, h]

/-- Calls about the log do not count among calls of other kinds. -/
theorem count_eq_of_besideAudit {kind : StoreCall.Kind} (h : besideAudit made = besideAudit made')
    (hkind : kind.isAudit = false) : count made kind = count made' kind := by
  have hbeside : ∀ made, count (besideAudit made) kind = count made kind := by
    intro made
    rw [count, count, besideAudit, List.countP_filter]
    refine List.countP_congr fun call _ => ?_
    simp only [decide_eq_true_eq, Bool.and_eq_true, Bool.not_eq_true', and_iff_left_iff_imp]
    exact fun hcall => hcall ▸ hkind
  rw [← hbeside, h, hbeside]

end Made

namespace StoreProgram

variable {α β : Type}

/-- Two programs do the same but for calls about the audit log. The calls that they share are of the
    given kinds. -/
inductive Alike (kinds : List StoreCall.Kind) (R : α → β → Prop) :
    StoreProgram α → StoreProgram β → Prop
  | done {a : α} {b : β} (h : R a b) : Alike kinds R (.done a) (.done b)
  | left {c : StoreCall} {k : c.Reply → StoreProgram α} {q : StoreProgram β}
      (haudit : c.kind.isAudit = true) (h : ∀ r, Alike kinds R (k r) q) :
      Alike kinds R (.ask c k) q
  | right {p : StoreProgram α} {c : StoreCall} {k : c.Reply → StoreProgram β}
      (haudit : c.kind.isAudit = true) (h : ∀ r, Alike kinds R p (k r)) :
      Alike kinds R p (.ask c k)
  | both {c : StoreCall} {k : c.Reply → StoreProgram α} {k' : c.Reply → StoreProgram β}
      (hkind : c.kind ∈ kinds) (haudit : c.kind.isAudit = false)
      (h : ∀ r, Alike kinds R (k r) (k' r)) : Alike kinds R (.ask c k) (.ask c k')

/-- A call about the log is answered somehow, and leaves everything but the log. -/
private theorem exists_observe_audit {c : StoreCall} (haudit : c.kind.isAudit = true)
    (k : c.Reply → StoreProgram α) (faults : Faults) (made : List Made) (s : Store) :
    ∃ r made' s', observe faults (.ask c k) made s = observe faults (k r) made' s' ∧
      Made.besideAudit made' = Made.besideAudit made ∧ s.SameBesideAudit s' := by
  cases hfault : faults c.kind (Made.count made c.kind) with
  | some e =>
    exact ⟨_, _, _, observe_failed hfault, Made.besideAudit_append_audit haudit, .refl s⟩
  | none =>
    exact ⟨_, _, _, observe_applied hfault, Made.besideAudit_append_audit haudit,
      .apply_audit s haudit⟩

/-- Programs that are alike, with calls that fail alike but for those about the log, have related
    results, make the same calls beside those about the log, and leave the same but for the log. -/
theorem observe_of_alike {kinds : List StoreCall.Kind} {R : α → β → Prop} {p : StoreProgram α}
    {q : StoreProgram β} (h : Alike kinds R p q) {faults faults' : Faults}
    (hfaults : ∀ kind ∈ kinds, faults kind = faults' kind) {made made' : List Made}
    (hmade : Made.besideAudit made = Made.besideAudit made') {s s' : Store}
    (hs : s.SameBesideAudit s') :
    R (observe faults p made s).result (observe faults' q made' s').result ∧
      Made.besideAudit (observe faults p made s).calls =
        Made.besideAudit (observe faults' q made' s').calls ∧
      (observe faults p made s).store.SameBesideAudit (observe faults' q made' s').store := by
  induction h generalizing made made' s s' with
  | done hR => exact ⟨hR, hmade, hs⟩
  | left haudit _ ih =>
    obtain ⟨r, made₁, s₁, hrun, hmade₁, hs₁⟩ := exists_observe_audit haudit _ faults made s
    rw [hrun]
    exact ih r (hmade₁.trans hmade) (hs₁.symm.trans hs)
  | right haudit _ ih =>
    obtain ⟨r, made₁, s₁, hrun, hmade₁, hs₁⟩ := exists_observe_audit haudit _ faults' made' s'
    rw [hrun]
    exact ih r (hmade.trans hmade₁.symm) (hs.trans hs₁)
  | @both c k k' hkind haudit _ ih =>
    -- both calls are counted alike, so they fail alike
    have hcount := Made.count_eq_of_besideAudit hmade haudit
    have hnext : ∀ failure, Made.besideAudit (made ++ [⟨c, failure⟩]) =
        Made.besideAudit (made' ++ [⟨c, failure⟩]) := fun failure => by
      rw [Made.besideAudit_append haudit, Made.besideAudit_append haudit, hmade]
    cases hfault : faults c.kind (Made.count made c.kind) with
    | some e =>
      have hfault' : faults' c.kind (Made.count made' c.kind) = some e := by
        rw [← hfaults _ hkind, ← hcount, hfault]
      rw [observe_failed hfault, observe_failed hfault']
      exact ih _ (hnext _) hs
    | none =>
      have hfault' : faults' c.kind (Made.count made' c.kind) = none := by
        rw [← hfaults _ hkind, ← hcount, hfault]
      obtain ⟨hreply, hstore⟩ := hs.apply haudit
      rw [observe_applied hfault, observe_applied hfault', hreply]
      exact ih _ (hnext _) hstore

end StoreProgram

/-! ## Attempts -/

/-- The failure without what it says of the audit log. -/
def ProvisioningError.withoutAudit : ProvisioningError → ProvisioningError
  | .schemaCreation t schema e _ => .schemaCreation t schema e none
  | e => e

/-- Whether a row could not be added to the audit log. -/
def Observed.insertFailed {α : Type} (run : Observed α) : Bool :=
  run.calls.any fun made => decide (made.call.kind = .insertAudit) && made.failure.isSome

namespace Provisioning

open StoreProgram

variable {m : ServiceModule} {owner : String} {t : TenantId} {schema : String}
  {displayName : Option String} {actor : String} {inserted inserted' : Except DbError Int}

/-- The kinds of the calls of an attempt that are not about the audit log. -/
def sharedKinds : List StoreCall.Kind := [.findTenant, .ensureSchema, .setModuleSchema]

/-- Results are the same but for what a failure says of the audit log. -/
def SameResult (r r' : Except ProvisioningError String) : Prop :=
  r.mapError ProvisioningError.withoutAudit = r'.mapError ProvisioningError.withoutAudit

/-- Marking the attempt's row is a call about the log, or none. -/
private theorem markOwn_alike {α β : Type} {R : α → β → Prop} {p : StoreProgram α}
    {q : StoreProgram β} (status : Audit.Status) (h : Alike sharedKinds R p q) :
    Alike sharedKinds R (markOwn inserted status >>= fun _ => p)
      (markOwn inserted' status >>= fun _ => q) := by
  have hright : Alike sharedKinds R p (markOwn inserted' status >>= fun _ => q) := by
    cases inserted' with
    | error e => exact h
    | ok id => exact .right rfl fun _ => h
  cases inserted with
  | error e => exact hright
  | ok id => exact .left rfl fun _ => hright

private theorem register_alike :
    Alike sharedKinds SameResult (register m t schema inserted)
      (register m t schema inserted') := by
  refine .both (by simp [sharedKinds, StoreCall.kind]) rfl fun reply => ?_
  rcases reply with e | (_ | rows)
  · exact .done rfl
  · exact .done rfl
  · exact markOwn_alike .success (.done rfl)

private theorem create_alike : Alike sharedKinds SameResult (create m owner t schema inserted)
    (create m owner t schema inserted') := by
  refine .both (by simp [sharedKinds, StoreCall.kind]) rfl fun reply => ?_
  rcases reply with e | ⟨⟩
  · exact .left rfl fun _ => .right rfl fun _ => .done rfl
  · exact markOwn_alike .schemaCreated register_alike

/-- An attempt is alike to itself, whatever it is told about the log. -/
theorem attempt_alike : Alike sharedKinds SameResult (attempt m owner t displayName actor)
    (attempt m owner t displayName actor) := by
  rw [attempt_eq]
  refine .both (by simp [sharedKinds, StoreCall.kind]) rfl fun reply => ?_
  rcases reply with e | (_ | record)
  · exact .done rfl
  · exact .done rfl
  · -- the two may be told differently about their rows
    exact .left rfl fun _ => .right rfl fun _ => create_alike

/-! ## What a failure says of the log -/

/-- A failed creation says whether the attempt could add its row. -/
private def TellsOf (inserted : Except DbError Int) (r : Except ProvisioningError String) : Prop :=
  ∀ t schema cause audit, r = .error (.schemaCreation t schema cause audit) →
    audit.isSome = inserted.toOption.isNone

private theorem create_tells : (create m owner t schema inserted).Returns (TellsOf inserted) := by
  refine create_returns (fun _ _ _ _ h => nomatch h) (fun _ _ _ _ _ h => nomatch h) ?_
  rintro e t schema cause audit ⟨⟩
  cases inserted <;> rfl

/-- After it tried to add its row an attempt adds none. -/
private theorem insertFailed_create {faults : Faults} {made : List Made} {s : Store} :
    (observe faults (create m owner t schema inserted) made s).insertFailed =
      made.any fun made => decide (made.call.kind = .insertAudit) && made.failure.isSome := by
  have hmakes : (create m owner t schema inserted).Makes
      fun c => decide (c.kind = .insertAudit) = false :=
    create_makes rfl rfl fun _ _ _ => rfl
  rw [Observed.insertFailed, ← List.any_filter, filter_calls_of_makes hmakes, List.any_filter]

/-- A failed creation says that the attempt could not add its row exactly where it could not. -/
theorem audit_isSome_eq (faults : Faults) (s : Store) {u : TenantId} {name : String}
    {cause : DbError} {audit : Option AuditLogError}
    (h : (observe faults (attempt m owner t displayName actor) [] s).result =
      .error (.schemaCreation u name cause audit)) :
    audit.isSome = (observe faults (attempt m owner t displayName actor) [] s).insertFailed := by
  rcases found_or_ended m owner t displayName actor faults s with
    ⟨hfind, record, hrow⟩ | ⟨e, herror, hother⟩
  · obtain ⟨inserted, failure, s', hrun, hinserted⟩ := observe_attempt_of_found hfind hrow
    rw [hrun] at h ⊢
    rw [insertFailed_create, result_of_returns create_tells faults _ _ _ _ _ _ h, hinserted]
    simp [StoreCall.kind]
  · rw [herror] at h
    exact absurd (Except.error.inj h) (hother u name cause audit)

/-- Two runs of an attempt, whose calls fail alike but for those about the audit log: they make the
    same other calls in the same order, leave the same tenants and schemas, and return the same, but
    that a failed creation says whether the attempt's row could not be added. -/
theorem audit_best_effort (m : ServiceModule) (owner : String) (t : TenantId)
    (displayName : Option String) (actor : String) (faults faults' : Faults) (s : Store)
    (hfind : faults .findTenant = faults' .findTenant)
    (hensure : faults .ensureSchema = faults' .ensureSchema)
    (hwrite : faults .setModuleSchema = faults' .setModuleSchema) :
    let run := observe faults (attempt m owner t displayName actor) [] s
    let run' := observe faults' (attempt m owner t displayName actor) [] s
    Made.besideAudit run.calls = Made.besideAudit run'.calls ∧
      run.store.tenants = run'.store.tenants ∧ run.store.schemas = run'.store.schemas ∧
      run.result.mapError ProvisioningError.withoutAudit =
        run'.result.mapError ProvisioningError.withoutAudit ∧
      ∀ r ∈ [run, run'], ∀ u schema cause audit,
        r.result = .error (.schemaCreation u schema cause audit) →
          audit.isSome = r.insertFailed := by
  intro run run'
  have hfaults : ∀ kind ∈ sharedKinds, faults kind = faults' kind := by
    simp [sharedKinds, hfind, hensure, hwrite]
  have halike : Alike sharedKinds SameResult (attempt m owner t displayName actor)
      (attempt m owner t displayName actor) := attempt_alike
  obtain ⟨hresult, hcalls, hstores⟩ := observe_of_alike halike hfaults rfl (.refl s)
  refine ⟨hcalls, hstores.tenants, hstores.schemas, hresult, fun r hr u schema cause audit h => ?_⟩
  simp only [List.mem_cons, List.not_mem_nil, or_false] at hr
  obtain rfl | rfl := hr
  · exact audit_isSome_eq faults s h
  · exact audit_isSome_eq faults' s h

/-- No schema can be created; whether the audit log can be reached is given. -/
def stuck (reachable : Bool) : Faults := fun kind _ =>
  if kind = .ensureSchema ∨ kind.isAudit ∧ !reachable then some .poolTimedOut else none

/-- Without the audit log an attempt whose schema cannot be created fails as it does with it, and
    says so. -/
theorem audit_best_effort_stuck :
    let attempt := attempt .operations "app" ⟨3⟩ (some "Globex") "api"
    let run := observe (stuck true) attempt [] Store.padded
    let run' := observe (stuck false) attempt [] Store.padded
    run.result = .error (.schemaCreation ⟨3⟩ "ops_main" .poolTimedOut none) ∧
      run'.result = .error (.schemaCreation ⟨3⟩ "ops_main" .poolTimedOut
        (some ⟨⟨3⟩, "insert", .poolTimedOut⟩)) ∧
      Made.besideAudit run.calls = Made.besideAudit run'.calls ∧
      run.store.tenants = run'.store.tenants ∧ run'.insertFailed = true := by
  intro attempt run run'
  obtain ⟨hcalls, htenants, -, -, hflags⟩ := audit_best_effort .operations "app" ⟨3⟩ (some "Globex")
    "api" (stuck true) (stuck false) Store.padded rfl rfl rfl
  have hrun' : run'.result = .error (.schemaCreation ⟨3⟩ "ops_main" .poolTimedOut
      (some ⟨⟨3⟩, "insert", .poolTimedOut⟩)) := by decide +kernel
  exact ⟨by decide +kernel, hrun', hcalls, htenants,
    (hflags run' (List.mem_cons_of_mem _ List.mem_cons_self) _ _ _ _ hrun').symm⟩

end Provisioning

end Tenancy
