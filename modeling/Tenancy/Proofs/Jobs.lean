import Tenancy.Proofs.Contract
import Tenancy.Proofs.Outline

/-!
# Jobs under a contract

What has to be shown of a contract for the programs of both jobs to keep to it: an outline of what
each does to the stores, and what happens around that. An attempt runs between acquiring its
tenant's lock and releasing it; a pass reads the time before it begins.

## Key results

- `Contract.stores_triple`: one store call of a task
- `Contract.provision_guarded_of_attempt` / `Contract.reconcile_guarded_of_pass`: a job whose
  program over the stores is guarded keeps to the contract
- `Contract.provision_guarded` / `Contract.reconcile_guarded`: so does one whose program has an
  outline
- `Contract.job_guarded`: both at once, for a contract that does not speak of results
-/

namespace Tenancy.Interleaving.Contract

open Program (Guarded Surroundings)

variable {K : Contract} {m : ServiceModule} {id : TaskId} {job : Job} {v : View}

/-- A store call takes effect, or fails and changes nothing. -/
theorem stores_triple {P : View → Prop} {c : StoreCall} {Q : c.Reply → View → Prop}
    (h : ∀ v v', P v → v'.inside = v.inside → K.rely id job v v' → K.inv v'.store v'.log →
      K.guar id job v' c ∧ Q (.ok (v'.store.apply c).1) (v'.perform id c) ∧ ∀ e, Q (.error e) v') :
    (K.stores id job).Triple P c Q := by
  intro v v' hv hrely
  obtain ⟨hguar, hok, herror⟩ := h v v' hv hrely.1 hrely.2.1 hrely.2.2
  refine ⟨hguar, ?_⟩
  rintro r v'' ⟨a, hanswer, rfl⟩
  cases hanswer with
  | applied c => exact hok
  | failed c e => exact herror e

/-- Calls to the stores leave a task inside or outside. -/
private theorem frame_inside {α : Type} {post : View → α → Prop} {p : StoreProgram α} {inside : Bool}
    (h : Guarded (K.stores id job) post p v) (hv : v.inside = inside) :
    Guarded (K.stores id job) (fun v a => v.inside = inside ∧ post v a) p v := by
  refine h.frame (F := fun v => v.inside = inside) ?_ ?_ hv
  · intro v v' hinside hrely
    exact hrely.1.trans hinside
  · rintro v c r v' hinside - ⟨a, hanswer, rfl⟩
    cases hanswer <;> exact hinside

section Provision

variable {owner : String} {t : TenantId} {displayName : Option String} {actor : String}
  {post : String → View → Prop}

/-- An attempt whose program over the stores is guarded, between acquiring its tenant's lock and
    releasing it. -/
theorem provision_guarded_of_attempt
    (hE : (K.surroundings id (.provision owner t displayName actor)).Steady) (hv : v.inside = false)
    (hattempt : ∀ v', (K.surroundings id (.provision owner t displayName actor)).rely v v' →
      Guarded (K.stores id (.provision owner t displayName actor)) (Provisioning.Outline.Right post)
        (Provisioning.attempt m owner t displayName actor) { v' with inside := true })
    (hpost : ∀ result v v' v'', Provisioning.Outline.Right post v result →
      (K.surroundings id (.provision owner t displayName actor)).rely v v' →
      (K.surroundings id (.provision owner t displayName actor)).rely
        { v' with inside := false } v'' →
      K.post id (.provision owner t displayName actor) v'' (.provisioned result)) :
    Guarded (K.surroundings id (.provision owner t displayName actor))
      (K.post id (.provision owner t displayName actor))
      (Job.program m (.provision owner t displayName actor)) v := by
  refine Guarded.map ?_
  intro v₁ hv₁
  refine ⟨⟨rfl, hv₁.1.trans hv⟩, ?_⟩
  rintro r v₂ ⟨⟩
  have hinside := frame_inside (hattempt v₁ hv₁) rfl
  show Guarded _ _ (Service.onStores (Provisioning.attempt m owner t displayName actor) >>=
    fun result => Program.ask (.unlockTenant t) fun _ => Program.done result) _
  refine Guarded.bind hE ((Program.guarded_lift_iff.mpr hinside).imp ?_)
  rintro v₃ result ⟨hinside, hright⟩
  -- releasing the lock is all that is left
  intro v₄ hv₄
  refine ⟨hv₄.1.trans hinside, ?_⟩
  rintro r v₅ ⟨⟩
  intro v₆ hv₆
  exact hpost result v₃ v₄ v₆ hright hv₄ hv₆

/-- An attempt with an outline, between acquiring its tenant's lock and releasing it. -/
theorem provision_guarded
    (hE : (K.surroundings id (.provision owner t displayName actor)).Steady)
    (o : Provisioning.Outline (K.stores id (.provision owner t displayName actor)) m owner t
      displayName actor post)
    (hv : v.inside = false)
    (hstart : ∀ v', (K.surroundings id (.provision owner t displayName actor)).rely v v' →
      o.start { v' with inside := true })
    (hpost : ∀ schema v v' v'', post schema v →
      (K.surroundings id (.provision owner t displayName actor)).rely v v' →
      (K.surroundings id (.provision owner t displayName actor)).rely
        { v' with inside := false } v'' →
      K.post id (.provision owner t displayName actor) v'' (.provisioned (.ok schema)))
    (herror : ∀ e v,
      K.post id (.provision owner t displayName actor) v (.provisioned (.error e))) :
    Guarded (K.surroundings id (.provision owner t displayName actor))
      (K.post id (.provision owner t displayName actor))
      (Job.program m (.provision owner t displayName actor)) v := by
  refine provision_guarded_of_attempt hE hv (fun v' hv' => o.guarded (hstart v' hv')) ?_
  intro result v₁ v₂ v₃ hright hv₁ hv₂
  cases result with
  | error e => exact herror e v₃
  | ok schema => exact hpost schema v₁ v₂ v₃ (hright schema rfl) hv₁ hv₂

end Provision

/-- A pass whose program over the stores is guarded for every cutoff, after reading the time. It
    never is inside a lock. -/
theorem reconcile_guarded_of_pass {staleAfter : Duration} (hv : v.inside = false)
    (hpass : ∀ v' cutoff, (K.surroundings id (.reconcile staleAfter)).rely v v' →
      Guarded (K.stores id (.reconcile staleAfter)) (fun _ _ => True)
        (Reconciliation.pass m cutoff) v')
    (hpost : ∀ v r, v.inside = false → K.post id (.reconcile staleAfter) v (.reconciled r)) :
    Guarded (K.surroundings id (.reconcile staleAfter)) (K.post id (.reconcile staleAfter))
      (Job.program m (.reconcile staleAfter)) v := by
  refine Guarded.map ?_
  intro v₁ hv₁
  refine ⟨trivial, ?_⟩
  rintro r v₂ ⟨⟩
  have houtside := frame_inside (hpass v₁ (Reconciliation.cutoff v₁.store.clock staleAfter) hv₁)
    (hv₁.1.trans hv)
  refine (Program.guarded_lift_iff.mpr houtside).imp ?_
  rintro v₃ r ⟨hinside, -⟩
  exact hpost v₃ r hinside

/-- A pass with an outline for every cutoff, after reading the time. -/
theorem reconcile_guarded {staleAfter : Duration}
    (hE : (K.surroundings id (.reconcile staleAfter)).Steady)
    (o : ∀ cutoff, Reconciliation.Outline (K.stores id (.reconcile staleAfter)) m cutoff)
    (hv : v.inside = false)
    (hstart : ∀ v' cutoff, (K.surroundings id (.reconcile staleAfter)).rely v v' →
      (o cutoff).start v')
    (hpost : ∀ v r, K.post id (.reconcile staleAfter) v (.reconciled r)) :
    Guarded (K.surroundings id (.reconcile staleAfter)) (K.post id (.reconcile staleAfter))
      (Job.program m (.reconcile staleAfter)) v :=
  reconcile_guarded_of_pass hv
    (fun v' cutoff hv' => (o cutoff).guarded (hE.comap ServiceCall.store fun _ reply => reply)
      (hstart v' cutoff hv'))
    fun v r _ => hpost v r

/-- Where results are not spoken of, outlines of what both jobs do to the stores are enough. -/
theorem job_guarded (hE : ∀ id job, (K.surroundings id job).Steady)
    (hpost : ∀ id job v outcome, K.post id job v outcome)
    (attempt : ∀ id job owner t displayName actor,
      Provisioning.Outline (K.stores id job) m owner t displayName actor fun _ _ => True)
    (hattempt : ∀ id job owner t displayName actor v,
      (attempt id job owner t displayName actor).start v)
    (pass : ∀ id job cutoff, Reconciliation.Outline (K.stores id job) m cutoff)
    (hpass : ∀ id job cutoff v, (pass id job cutoff).start v) (hv : v.inside = false) :
    Guarded (K.surroundings id job) (K.post id job) (job.program m) v := by
  cases job with
  | provision owner t displayName actor =>
    exact provision_guarded (hE id _) (attempt id _ owner t displayName actor) hv
      (fun _ _ => hattempt _ _ _ _ _ _ _) (fun _ _ _ _ _ _ _ => hpost _ _ _ _)
      fun _ _ => hpost _ _ _ _
  | reconcile staleAfter =>
    exact reconcile_guarded (hE id _) (pass id _) hv (fun _ _ _ => hpass _ _ _ _)
      fun _ _ => hpost _ _ _ _

end Tenancy.Interleaving.Contract
