import Tenancy.Proofs.Exclusion
import Tenancy.Proofs.LockEntries
import Tenancy.Proofs.Succession

/-!
# Locks that nobody left behind

A tenant's lock is never held by nobody. A caller that waits for its mutex, or was given it without
having noticed, is a task that stands where it asks for the lock. A caller that holds its mutex is a
task that is inside, and no task is inside when it returns. So where no task of a process is under way
for a tenant, the next one gets the tenant's lock at once.

For the last step the mutex that the next task finds has to be one of its tenant only: the entries of
a table have different mutexes.

## Key results

- `Table.isOwned_arrive`: who comes for a lock that nobody has finds a mutex that nobody has
- `State.attended_run`: every caller has a task that attends to it, after every run
- `State.Attended.owns_eq_false`: where no task is under way for a tenant, nobody has its lock
-/

namespace Tenancy

namespace Lock.Table

variable {T T' : Table} {id : CallerId} {c c' : Caller} {t u : TenantId} {mutex : MutexId}

/-! ## Mutexes of different tenants -/

namespace Numbered

theorem resume (h : T.Numbered) (id : CallerId) : (T.resume id).Numbered := ⟨h.nodup, h.lt_next⟩

theorem grantTo (h : T.Numbered) (id : CallerId) : (T.grantTo id).Numbered := by
  unfold Table.grantTo
  split
  · split
    · exact ⟨h.nodup, h.lt_next⟩
    · exact h
  · exact h

theorem withdraw (h : T.Numbered) (id : CallerId) : (T.withdraw id).Numbered := by
  unfold Table.withdraw
  split
  · split <;> exact ⟨h.nodup, h.lt_next⟩
  · exact h

theorem tidy (h : T.Numbered) (id : CallerId) : (T.tidy id).Numbered := by
  unfold Table.tidy
  split
  · split
    · exact h.leave _
    · exact h
  · exact h

end Numbered

/-- Who comes for a lock that nobody has waits for a mutex that nobody has. -/
theorem isOwned_arrive (hs : T.Sound) (hn : T.Numbered) (hnew : T.caller? id = none)
    (hfree : ∀ c ∈ T.callers, c.tenant = t → c.phase.owns = false) :
    ∃ mutex, (T.arrive id t).caller? id = some ⟨id, t, mutex, .waiting⟩ ∧
      (T.arrive id t).isOwned mutex = false := by
  obtain ⟨mutex, hentry, hcallers⟩ := T.callers_arrive id t
  have hsound := hs.arrive t hnew
  have hmem : (⟨id, t, mutex, .waiting⟩ : Caller) ∈ (T.arrive id t).callers := by
    rw [hcallers]
    exact List.mem_append_right _ List.mem_cons_self
  refine ⟨mutex, caller?_of_mem hsound.nodup hmem, List.any_eq_false.mpr fun c hc howner => ?_⟩
  simp only [Bool.and_eq_true, beq_iff_eq] at howner
  obtain ⟨hmutex, howns⟩ := howner
  have hrefers : c.phase.refers = true := by
    cases hphase : c.phase <;> simp_all [Phase.owns, Phase.refers]
  -- an owner's mutex is that of its tenant
  have hcentry := hsound.entry c hc hrefers
  rw [hmutex] at hcentry
  have ht := (hn.arrive id t).eq_of_entry_eq_some hcentry hentry
  rw [hcallers, List.mem_append, List.mem_singleton] at hc
  rcases hc with hold | rfl
  · rw [hfree c hold ht] at howns
    cases howns
  · cases howns

/-! ## The phase that a caller is in after its step -/

theorem phase_withdraw (h : (T.withdraw id).caller? id = some c) : c.phase = .leaving := by
  unfold withdraw at h
  split at h
  · next old hold =>
    split at h
    · rw [caller?_removeCaller, if_pos rfl] at h
      cases h
    · rw [caller?_removeCaller, if_pos rfl] at h
      cases h
    · rw [caller?_setPhase, hold, Option.map_some, if_pos rfl] at h
      exact Option.some.inj h ▸ rfl
    · next hphase =>
      rw [hold] at h
      exact Option.some.inj h ▸ hphase
  · next hnone =>
    rw [hnone] at h
    cases h

theorem phase_grantTo (h : (T.grantTo id).caller? id = some c') :
    ∃ c, T.caller? id = some c ∧
      (c'.phase = c.phase ∨ c.phase = .waiting ∧ c'.phase = .granted) := by
  unfold grantTo at h
  split at h
  · next c hc =>
    split at h
    · next hwaits =>
      rw [caller?_setPhase, hc, Option.map_some, if_pos rfl] at h
      exact ⟨c, hc, .inr ⟨hwaits.1, Option.some.inj h ▸ rfl⟩⟩
    · exact ⟨c', h, .inl rfl⟩
  · exact ⟨c', h, .inl rfl⟩

theorem caller?_of_tidy (h : (T.tidy id).caller? id = some c) : T.caller? id = some c := by
  unfold tidy at h
  split at h
  · next old hold =>
    split at h
    · rw [caller?_leave, id_of_caller? hold, if_pos rfl] at h
      cases h
    · exact h
  · exact h

end Lock.Table

namespace Interleaving

/-! ## Callers and their tasks -/

/-- What the task of a caller is doing while the caller is in a phase. -/
def Task.Attends (task : Task) : Lock.Phase → Prop
  | .waiting | .granted => task.dropped = false ∧ ∃ t k, task.rest = .ask (.lockTenant t) k
  | .holding => task.dropped = false ∧ task.inside = true
  | .leaving => True

/-- A task that asks for something else goes on attending to its caller. -/
theorem Task.Attends.rest {task : Task} {phase : Lock.Phase} (h : task.Attends phase)
    {c : ServiceCall} {k : c.Reply → ServiceProgram Outcome} (hrest : task.rest = .ask c k)
    (hc : ∀ t, c ≠ .lockTenant t) (rest : ServiceProgram Outcome) :
    Attends { task with rest } phase := by
  have hasks : ¬∃ t k, task.rest = .ask (.lockTenant t) k := by
    rintro ⟨t, k', hasks⟩
    rw [hrest] at hasks
    cases hasks
    exact hc t rfl
  cases phase with
  | waiting => exact absurd h.2 hasks
  | granted => exact absurd h.2 hasks
  | holding => exact h
  | leaving => trivial

namespace State

/-- Every caller has a task that attends to it, and mutexes are numbered. -/
structure Attended (S : State) : Prop where
  numbered : ∀ p, (S.locks p).Numbered
  attends : ∀ p id c, (S.locks p).caller? id = some c →
    ∃ task, S.tasks id = some task ∧ task.Attends c.phase

namespace Attended

variable {S S' : State} {id : TaskId} {task task' : Task}

/-- A task acts, and its process's table changes in what concerns the task. -/
private theorem act (h : S.Attended) (hS : S.Locked) (hid : S.tasks id = some task)
    {T' : Lock.Table} (hnumbered : T'.Numbered)
    (hothers : ∀ j, j ≠ id → T'.caller? j = (S.locks task.process).caller? j)
    (hself : ∀ c, T'.caller? id = some c → task'.Attends c.phase)
    (hlocks : S'.locks = Function.update S.locks task.process T')
    (htasks : S'.tasks = Function.update S.tasks id (some task')) : S'.Attended where
  numbered p := by
    rw [hlocks]
    by_cases hp : p = task.process
    · subst hp
      rwa [Function.update_self]
    · rw [Function.update_of_ne hp]
      exact h.numbered p
  attends p j c hc := by
    rw [hlocks] at hc
    rw [htasks]
    by_cases hj : j = id
    · subst hj
      -- a task is a caller in its own process only
      have hp : p = task.process := by
        by_contra hne
        rw [Function.update_of_ne hne] at hc
        obtain ⟨owner, howner, hprocess, -⟩ := hS.caller p j c hc
        exact hne (Option.some.inj (hid.symm.trans howner) ▸ hprocess.symm)
      rw [hp, Function.update_self] at hc
      exact ⟨task', Function.update_self .., hself c hc⟩
    · rw [Function.update_of_ne hj]
      by_cases hp : p = task.process
      · rw [hp, Function.update_self, hothers j hj] at hc
        exact h.attends _ j c hc
      · rw [Function.update_of_ne hp] at hc
        exact h.attends p j c hc

/-- The task that attends to a caller is the one of the caller's name. -/
private theorem self (h : S.Attended) (hid : S.tasks id = some task) {p : ProcessId}
    {c : Lock.Caller} (hc : (S.locks p).caller? id = some c) : task.Attends c.phase := by
  obtain ⟨owner, howner, hattends⟩ := h.attends p id c hc
  exact Option.some.inj (hid.symm.trans howner) ▸ hattends

/-- A task goes on from a call that is not about locks. -/
private theorem goOn (h : S.Attended) (hS : S.Locked) (hid : S.tasks id = some task)
    {c : ServiceCall} {k : c.Reply → ServiceProgram Outcome} (hrest : task.rest = .ask c k)
    (hc : ∀ t, c ≠ .lockTenant t) {rest : ServiceProgram Outcome}
    (hlocks : S'.locks = S.locks)
    (htasks : S'.tasks = Function.update S.tasks id (some { task with rest })) : S'.Attended :=
  h.act hS hid (h.numbered _) (fun _ _ => rfl) (fun _ hcaller => (h.self hid hcaller).rest hrest hc rest)
    (by rw [hlocks, Function.update_eq_self]) htasks

/-- A task goes, or is dropped. -/
private theorem withdraw (h : S.Attended) (hS : S.Locked) (hid : S.tasks id = some task)
    (hlocks : S'.locks = Function.update S.locks task.process ((S.locks task.process).withdraw id))
    (htasks : S'.tasks = Function.update S.tasks id (some task')) : S'.Attended := by
  refine h.act hS hid ((h.numbered _).withdraw id)
    (Lock.Table.concerns_withdraw id _).others (fun c hc => ?_) hlocks htasks
  rw [Lock.Table.phase_withdraw hc]
  trivial

private theorem tasks_eq_update (hid : S.tasks id = some task) :
    S.tasks = Function.update S.tasks id (some task) := by
  rw [← hid, Function.update_eq_self]

/-- A task makes its next call. -/
private theorem proceed (h : S.Attended) (hS : S.Locked) (hid : S.tasks id = some task)
    (hlive : task.dropped = false) (failure : Option DbError) :
    (S.proceed id task failure).Attended := by
  unfold State.proceed
  split
  · next c k hrest => split <;> exact h.goOn hS hid hrest (fun _ => nofun) rfl rfl
  · next t k hrest =>
    dsimp only
    split
    · next hmay =>
      -- it was given its mutex, and is inside from now on
      obtain ⟨hconcerns, holder, hholder, hphase⟩ := Lock.Table.concerns_resume hmay
      refine h.act hS hid ((h.numbered _).resume id) hconcerns.others ?_ rfl rfl
      intro c hc
      rw [← Option.some.inj (hholder.symm.trans hc), hphase]
      exact ⟨hlive, rfl⟩
    · split
      · next hnone =>
        obtain ⟨mutex, hfound⟩ := (S.locks task.process).caller?_arrive id t
          (Option.isNone_iff_eq_none.mp hnone)
        refine h.act hS hid ((h.numbered _).arrive id t) (fun j hj => ?_) ?_ rfl
          (tasks_eq_update hid)
        · rw [hfound, if_neg hj]
        · -- it waits where it asks for the lock
          intro c hc
          rw [hfound, if_pos rfl] at hc
          rw [← Option.some.inj hc]
          exact ⟨hlive, t, k, hrest⟩
      · exact h
  · next t k hrest => exact h.withdraw hS hid rfl rfl
  · next k hrest => exact h.goOn hS hid hrest (fun _ => nofun) rfl rfl
  · exact h

/-- A task is dropped where it waits. -/
private theorem drop (h : S.Attended) (hS : S.Locked) (hid : S.tasks id = some task)
    (applied : Bool) : (S.drop id task applied).Attended := by
  unfold State.drop
  split
  · exact h
  · dsimp only
    split
    · unfold performNext
      split <;> exact h.withdraw hS hid rfl rfl
    · exact h.withdraw hS hid rfl rfl

/-- One move leaves every caller a task that attends to it. -/
theorem step (h : S.Attended) (hS : S.Locked) (m : ServiceModule) (move : Move) :
    (S.step m move).Attended := by
  cases move with
  | start id p job =>
    simp only [State.step]
    split
    · next hnew =>
      -- the new task is no caller yet
      refine ⟨h.numbered, fun q j c hc => ?_⟩
      obtain ⟨task, hj, hattends⟩ := h.attends q j c hc
      have hne : j ≠ id := by
        rintro rfl
        rw [Option.isNone_iff_eq_none.mp hnew] at hj
        cases hj
      exact ⟨task, (Function.update_of_ne hne _ _).trans hj, hattends⟩
    · exact h
  | proceed id failure =>
    simp only [State.step]
    split
    · next task hid =>
      split
      · exact h
      · next hlive => exact h.proceed hS hid (by simpa using hlive) failure
    · exact h
  | grant id =>
    simp only [State.step]
    split
    · next task hid =>
      refine h.act hS hid ((h.numbered _).grantTo id) (Lock.Table.concerns_grantTo id _).others ?_
        rfl (tasks_eq_update hid)
      intro c' hc'
      obtain ⟨c, hc, hphase⟩ := Lock.Table.phase_grantTo hc'
      have hattends := h.self hid hc
      rcases hphase with hsame | ⟨hwaiting, hgranted⟩
      · rwa [hsame]
      · -- whoever was given its mutex stands where it waited
        rw [hwaiting] at hattends
        rw [hgranted]
        exact hattends
    · exact h
  | tidy id =>
    simp only [State.step]
    split
    · next task hid =>
      exact h.act hS hid ((h.numbered _).tidy id) (Lock.Table.concerns_tidy id _).others
        (fun c hc => h.self hid (Lock.Table.caller?_of_tidy hc)) rfl (tasks_eq_update hid)
    · exact h
  | drop id applied =>
    simp only [State.step]
    split
    · next task hid =>
      split
      · exact h
      · exact h.drop hS hid applied
    · exact h
  | tick now => exact ⟨h.numbered, h.attends⟩

/-- Where no task of a process is under way for a tenant, nobody has the tenant's lock. -/
theorem owns_eq_false (h : S.Attended) (hS : S.Locked) (hfree : Contract.free.Holds S)
    {p : ProcessId} {t : TenantId} (hover : ∀ j other, S.tasks j = some other → other.process = p →
      other.job.tenant? = some t → other.isOver = true) :
    ∀ c ∈ (S.locks p).callers, c.tenant = t → c.phase.owns = false := by
  intro c hc ht
  have hcaller := Lock.Table.caller?_of_mem (hS.sound p).nodup hc
  obtain ⟨task, hid, hprocess, htenant⟩ := hS.caller p c.id c hcaller
  have hisOver := hover c.id task hid hprocess (ht ▸ htenant)
  have hattends := h.self hid hcaller
  cases hphase : c.phase with
  | waiting => rfl
  | leaving => rfl
  | granted =>
    -- it still asks for the lock, so it is under way
    rw [hphase] at hattends
    obtain ⟨hlive, u, k, hrest⟩ := hattends
    rw [Task.isOver_of_rest hrest, hlive] at hisOver
    cases hisOver
  | holding =>
    -- it would have returned while it was inside
    rw [hphase] at hattends
    obtain ⟨hlive, hinside⟩ := hattends
    obtain ⟨outcome, hrest⟩ := Task.exists_done_of_isOver hlive hisOver
    have houtside := (Contract.free_sound .operations).post_of_done hfree hid hlive hrest
    exact absurd hinside (by rw [show task.inside = false from houtside]; decide)

end Attended

/-- Every caller has a task that attends to it, after every run. -/
theorem attended_run (m : ServiceModule) (s : Store) (moves : List Move) :
    ((idle s).run m moves).Attended := by
  induction moves using List.reverseRecOn with
  | nil => exact ⟨fun _ => .empty, fun _ _ _ hc => by cases hc⟩
  | append_singleton moves move ih =>
    rw [run_append]
    exact ih.step (locked_run m s moves) m move

end State

end Interleaving

end Tenancy
