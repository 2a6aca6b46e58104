import Tenancy.Proofs.Jobs

/-!
# At most one attempt inside

Each process has a table of tenant locks, and its tasks take the steps of the table's callers. What
ties the two together is `State.Locked`: a caller in a table is a task of that table's process that
asked for the lock of its own tenant, and a task that is inside holds that lock. With a sound table
it follows that two tasks of one process that are inside for one tenant are one task.

That a task asks for its own tenant's lock only, and gives back only what it acquired, is part of
every contract; here the contract that promises nothing else is enough.

## Key results

- `State.locked_run`: tables and tasks agree after every run
- `State.Locked.eq_of_inside`: at most one task of a process is inside for a tenant
-/

namespace Tenancy

namespace Lock.Table

/-! ## What one caller's step leaves of a table -/

/-- A table after something that concerns one caller. -/
structure Concerns (id : CallerId) (T T' : Table) : Prop where
  sound : T.Sound → T'.Sound
  others : ∀ j, j ≠ id → T'.caller? j = T.caller? j
  tenant : ∀ c', T'.caller? id = some c' → ∃ c, T.caller? id = some c ∧ c'.tenant = c.tenant

variable {T : Table} {id : CallerId} {c : Caller}

theorem Concerns.refl (id : CallerId) (T : Table) : Concerns id T T :=
  ⟨fun h => h, fun _ _ => rfl, fun c' h => ⟨c', h, rfl⟩⟩

/-- A caller changes its phase. -/
private theorem concerns_setPhase {phase : Phase} (hc : T.caller? id = some c)
    (hstep : Step T (T.setPhase id phase)) : Concerns id T (T.setPhase id phase) where
  sound := hstep.sound
  others j hj := by
    rw [caller?_setPhase]
    cases T.caller? j <;> simp [hj]
  tenant c' hc' := by
    rw [caller?_setPhase, hc] at hc'
    obtain rfl := Option.some.inj hc'
    refine ⟨c, hc, ?_⟩
    simp only [if_true]

/-- A caller goes. -/
private theorem concerns_gone {T' : Table} (hstep : Step T T')
    (hgone : ∀ j, T'.caller? j = if j = id then none else T.caller? j) : Concerns id T T' where
  sound := hstep.sound
  others j hj := by rw [hgone, if_neg hj]
  tenant c' hc' := by
    rw [hgone, if_pos rfl] at hc'
    cases hc'

theorem concerns_grantTo (id : CallerId) (T : Table) : Concerns id T (T.grantTo id) := by
  unfold grantTo
  split
  · next c hc =>
    obtain rfl := id_of_caller? hc
    split
    · next h => exact concerns_setPhase hc (.grant hc h.1 h.2)
    · exact .refl _ _
  · exact .refl _ _

theorem concerns_withdraw (id : CallerId) (T : Table) : Concerns id T (T.withdraw id) := by
  unfold withdraw
  split
  · next c hc =>
    obtain rfl := id_of_caller? hc
    split
    · next hphase => exact concerns_gone (.abandon hc (.inl hphase)) (caller?_removeCaller T c.id)
    · next hphase => exact concerns_gone (.abandon hc (.inr hphase)) (caller?_removeCaller T c.id)
    · next hphase => exact concerns_setPhase hc (.release hc hphase)
    · exact .refl _ _
  · exact .refl _ _

theorem concerns_tidy (id : CallerId) (T : Table) : Concerns id T (T.tidy id) := by
  unfold tidy
  split
  · next c hc =>
    obtain rfl := id_of_caller? hc
    split
    · next hphase => exact concerns_gone (.leave hc hphase) (caller?_leave T c)
    · exact .refl _ _
  · exact .refl _ _

theorem concerns_resume (h : T.mayResume id = true) :
    Concerns id T (T.resume id) ∧ ∃ c, (T.resume id).caller? id = some c ∧ c.phase = .holding := by
  obtain ⟨c, hc, hphase⟩ := (Option.any_eq_true _ _).mp h
  obtain rfl := id_of_caller? hc
  have hgranted : c.phase = .granted := by simpa using hphase
  refine ⟨concerns_setPhase hc (.resume hc hgranted), { c with phase := .holding }, ?_, rfl⟩
  rw [resume, caller?_setPhase, hc]
  simp

/-- A caller that holds its mutex does so after a grant. -/
theorem holding_grantTo (hc : T.caller? id = some c) (hphase : c.phase = .holding) :
    (T.grantTo id).caller? id = some c := by
  have hsame : T.grantTo id = T := by simp [grantTo, hc, hphase]
  rw [hsame, hc]

/-- A caller that holds its mutex has no entry to look after yet. -/
theorem holding_tidy (hc : T.caller? id = some c) (hphase : c.phase = .holding) :
    (T.tidy id).caller? id = some c := by
  have hsame : T.tidy id = T := by simp [tidy, hc, hphase]
  rw [hsame, hc]

end Lock.Table

namespace Interleaving

/-! ## The contract that promises nothing -/

/-- The contract that promises nothing, but to be outside in the end. -/
def Contract.free : Contract where
  inv _ _ := True
  rely _ _ _ _ := True
  guar _ _ _ _ := True
  post _ _ v _ := v.inside = false

private theorem free_triple {id : TaskId} {job : Job} {P : View → Prop} {c : StoreCall}
    {Q : c.Reply → View → Prop} (h : ∀ r v, Q r v) : (Contract.free.stores id job).Triple P c Q :=
  fun _ _ _ _ => ⟨trivial, fun r v _ => h r v⟩

private def freeAttempt (m : ServiceModule) (id : TaskId) (job : Job) (owner : String) (t : TenantId)
    (displayName : Option String) (actor : String) :
    Provisioning.Outline (Contract.free.stores id job) m owner t displayName actor
      fun _ _ => True where
  start _ := True
  chosen _ _ := True
  noted _ _ _ := True
  failing _ _ _ := True
  created _ _ _ := True
  registered _ _ _ := True
  find := free_triple fun _ _ _ _ => trivial
  insert _ := free_triple fun _ _ => trivial
  ensure _ _ := free_triple fun _ _ => ⟨fun _ => trivial, fun _ _ => trivial⟩
  fail _ _ _ := free_triple fun _ _ => trivial
  progress _ _ := free_triple fun _ _ => trivial
  register _ _ := free_triple fun _ _ _ _ => trivial
  succeed _ _ := free_triple fun _ _ _ _ => trivial
  finish _ _ _ _ _ _ := trivial

private def freePass (m : ServiceModule) (id : TaskId) (job : Job) (cutoff : Timestamp) :
    Reconciliation.Outline (Contract.free.stores id job) m cutoff where
  start _ := True
  known _ _ := True
  present _ _ := True
  missing _ _ := True
  blank _ _ := True
  registered _ _ := True
  keeps _ _ _ _ _ := trivial
  keepsOwn _ _ _ _ _ _ _ _ := trivial
  find := free_triple fun _ _ _ _ _ _ => trivial
  look _ := free_triple fun _ _ => ⟨fun _ => trivial, fun _ => trivial⟩
  fail _ := free_triple fun _ _ => trivial
  read _ := free_triple fun _ _ _ _ => ⟨fun _ => trivial, fun _ => trivial⟩
  repair _ := free_triple fun _ _ _ _ => trivial
  succeed _ := free_triple fun _ _ => trivial

/-- Every program keeps to it. -/
theorem Contract.free_sound (m : ServiceModule) :
    Contract.free.Sound m (fun _ => True) (fun _ _ => True) where
  refl _ _ _ := trivial
  trans _ _ _ _ _ _ _ _ := trivial
  starts id _ job v _ hv _ := by
    have hE := surroundings_steady (K := free) (fun _ _ _ => trivial)
      (fun _ _ _ _ _ _ _ _ => trivial) id job
    cases job with
    | provision owner t displayName actor =>
      exact provision_guarded_of_attempt hE hv
        (fun _ _ => (freeAttempt m id _ owner t displayName actor).guarded trivial)
        fun _ _ _ _ _ _ hv'' => hv''.1
    | reconcile staleAfter =>
      exact reconcile_guarded_of_pass hv
        (fun _ cutoff _ => (freePass m id _ cutoff).guarded
          (hE.comap ServiceCall.store fun _ reply => reply) trivial)
        fun _ _ hv' => hv'
  keeps _ _ _ _ _ _ := trivial
  others _ _ _ _ _ _ _ _ _ _ _ _ _ _ := trivial
  ticks _ _ _ _ := trivial
  ticksOthers _ _ _ _ _ _ := trivial

/-! ## Tables and tasks -/

namespace State

/-- Tables and tasks agree. -/
structure Locked (S : State) : Prop where
  sound : ∀ p, (S.locks p).Sound
  /-- A caller is a task of the process, for the lock of its tenant. -/
  caller : ∀ p id c, (S.locks p).caller? id = some c →
    ∃ task, S.tasks id = some task ∧ task.process = p ∧ task.job.tenant? = some c.tenant
  /-- A task that is inside holds the lock. -/
  holding : ∀ id task, S.tasks id = some task → task.dropped = false → task.inside = true →
    ∃ c, (S.locks task.process).caller? id = some c ∧ c.phase = .holding

namespace Locked

variable {S S' : State} {id : TaskId} {task task' : Task}

/-- At most one task of a process is inside for a tenant. -/
theorem eq_of_inside (h : S.Locked) {i j : TaskId} {task other : Task}
    (hi : S.tasks i = some task) (hj : S.tasks j = some other) (hiLive : task.dropped = false)
    (hjLive : other.dropped = false) (hiInside : task.inside = true)
    (hjInside : other.inside = true) (hprocess : task.process = other.process)
    (htenant : task.job.tenant? = other.job.tenant?) : i = j := by
  obtain ⟨c, hc, hcphase⟩ := h.holding i task hi hiLive hiInside
  obtain ⟨d, hd, hdphase⟩ := h.holding j other hj hjLive hjInside
  -- both callers wait for their tasks' tenant, so for one mutex
  obtain ⟨task', hi', -, hct⟩ := h.caller _ i c hc
  obtain ⟨other', hj', -, hdt⟩ := h.caller _ j d hd
  obtain rfl : task' = task := Option.some.inj (hi'.symm.trans hi)
  obtain rfl : other' = other := Option.some.inj (hj'.symm.trans hj)
  have htenants : c.tenant = d.tenant := by
    rw [hct, hdt] at htenant
    exact Option.some.inj htenant
  rw [← hprocess] at hd
  have hids := (h.sound task'.process).eq_of_owns (Lock.Table.mem_of_caller? hc)
    (Lock.Table.mem_of_caller? hd) (by rw [hcphase]; rfl) (by rw [hdphase]; rfl) htenants
  rw [Lock.Table.id_of_caller? hc, Lock.Table.id_of_caller? hd] at hids
  exact hids

private theorem tasks_eq_update (hid : S.tasks id = some task) :
    S.tasks = Function.update S.tasks id (some task) := by
  rw [← hid, Function.update_eq_self]

/-- A task acts, and its process's table changes in what concerns the task. -/
private theorem act (h : S.Locked) (hid : S.tasks id = some task) {T' : Lock.Table}
    (hsound : T'.Sound)
    (hothers : ∀ j, j ≠ id → T'.caller? j = (S.locks task.process).caller? j)
    (hself : ∀ c, T'.caller? id = some c → task.job.tenant? = some c.tenant)
    (hlocks : S'.locks = Function.update S.locks task.process T')
    (htasks : S'.tasks = Function.update S.tasks id (some task'))
    (hprocess : task'.process = task.process) (hjob : task'.job = task.job)
    (hholding : task'.dropped = false → task'.inside = true →
      ∃ c, T'.caller? id = some c ∧ c.phase = .holding) : S'.Locked where
  sound p := by
    rw [hlocks]
    by_cases hp : p = task.process
    · subst hp
      rwa [Function.update_self]
    · rw [Function.update_of_ne hp]
      exact h.sound p
  caller p j c hc := by
    rw [hlocks] at hc
    rw [htasks]
    by_cases hp : p = task.process
    · subst hp
      rw [Function.update_self] at hc
      by_cases hj : j = id
      · subst hj
        exact ⟨task', Function.update_self .., hprocess, hjob ▸ hself c hc⟩
      · rw [Function.update_of_ne hj]
        exact h.caller _ j c (hothers j hj ▸ hc)
    · rw [Function.update_of_ne hp] at hc
      obtain ⟨other, hother, hprocess', htenant⟩ := h.caller p j c hc
      -- a caller of another process is another task
      have hj : j ≠ id := by
        rintro rfl
        rw [hid] at hother
        exact hp (Option.some.inj hother ▸ hprocess'.symm)
      rw [Function.update_of_ne hj]
      exact ⟨other, hother, hprocess', htenant⟩
  holding j other hj hlive hinside := by
    rw [htasks] at hj
    rw [hlocks]
    by_cases hji : j = id
    · subst hji
      rw [Function.update_self] at hj
      obtain rfl := Option.some.inj hj
      rw [hprocess, Function.update_self]
      exact hholding hlive hinside
    · rw [Function.update_of_ne hji] at hj
      obtain ⟨c, hc, hphase⟩ := h.holding j other hj hlive hinside
      refine ⟨c, ?_, hphase⟩
      by_cases hp : other.process = task.process
      · rw [hp, Function.update_self, hothers j hji, ← hp, hc]
      · rw [Function.update_of_ne hp, hc]

/-- The table of a task's process changes in what concerns the task. -/
private theorem concerns (h : S.Locked) (hid : S.tasks id = some task) {T' : Lock.Table}
    (hT' : Lock.Table.Concerns id (S.locks task.process) T')
    (hlocks : S'.locks = Function.update S.locks task.process T')
    (htasks : S'.tasks = Function.update S.tasks id (some task'))
    (hprocess : task'.process = task.process) (hjob : task'.job = task.job)
    (hholding : task'.dropped = false → task'.inside = true →
      ∃ c, T'.caller? id = some c ∧ c.phase = .holding) : S'.Locked := by
  refine h.act hid (hT'.sound (h.sound _)) hT'.others ?_ hlocks htasks hprocess hjob hholding
  intro c' hc'
  obtain ⟨c, hc, htenant⟩ := hT'.tenant c' hc'
  obtain ⟨owner, howner, -, hjobTenant⟩ := h.caller _ id c hc
  obtain rfl := Option.some.inj (hid.symm.trans howner)
  rw [hjobTenant, htenant]

/-- A task acts without its process's table. -/
private theorem same (h : S.Locked) (hid : S.tasks id = some task)
    (hlocks : S'.locks = S.locks) (htasks : S'.tasks = Function.update S.tasks id (some task'))
    (hprocess : task'.process = task.process) (hjob : task'.job = task.job)
    (hinside : task'.dropped = false → task'.inside = true →
      task.dropped = false ∧ task.inside = true) : S'.Locked := by
  refine h.concerns hid (.refl id _) (by rw [hlocks, Function.update_eq_self]) htasks hprocess
    hjob ?_
  intro hlive hins
  exact h.holding id task hid (hinside hlive hins).1 (hinside hlive hins).2

/-- A new task is in no table. -/
private theorem start (h : S.Locked) (hnew : S.tasks id = none) (hinside : task.inside = false) :
    (S.setTask id task).Locked where
  sound := h.sound
  caller p j c hc := by
    obtain ⟨other, hother, hrest⟩ := h.caller p j c hc
    have hj : j ≠ id := by
      rintro rfl
      rw [hnew] at hother
      cases hother
    exact ⟨other, (Function.update_of_ne hj _ _).trans hother, hrest⟩
  holding j other hj hlive hins := by
    simp only [setTask] at hj
    by_cases hji : j = id
    · subst hji
      rw [Function.update_self] at hj
      obtain rfl := Option.some.inj hj
      rw [hinside] at hins
      cases hins
    · rw [Function.update_of_ne hji] at hj
      exact h.holding j other hj hlive hins

/-- A task that asked for no lock yet asks for its tenant's. -/
private theorem arrive (h : S.Locked) (hid : S.tasks id = some task) {t : TenantId}
    (ht : task.job.tenant? = some t) (hnew : (S.locks task.process).caller? id = none)
    (houtside : task.inside = false) :
    (S.setLocks task.process ((S.locks task.process).arrive id t)).Locked := by
  obtain ⟨mutex, hfound⟩ := (S.locks task.process).caller?_arrive id t hnew
  refine h.act hid ((h.sound _).arrive t hnew) ?_ ?_ rfl (tasks_eq_update hid) rfl rfl ?_
  · intro j hj
    rw [hfound, if_neg hj]
  · intro c hc
    rw [hfound, if_pos rfl] at hc
    obtain rfl := Option.some.inj hc
    exact ht
  · intro _ hinside
    rw [houtside] at hinside
    cases hinside

/-- A task makes its next call. -/
private theorem proceed (h : S.Locked) (hS : Contract.free.Holds S) {m : ServiceModule}
    (hid : S.tasks id = some task) (hlive : task.dropped = false) (failure : Option DbError) :
    (S.proceed id task failure).Locked := by
  have hallows : ∀ c k, task.rest = .ask c k → Contract.free.Allows id task.job (S.view task) c :=
    fun c k hrest => (Contract.free_sound m).guar_of_rest hS hid hlive hrest
  unfold State.proceed
  split
  · next c k hrest =>
    split <;> exact h.same hid rfl rfl rfl rfl fun hd hi => ⟨hd, hi⟩
  · next t k hrest =>
    obtain ⟨ht, houtside⟩ := hallows _ k hrest
    dsimp only
    split
    · next hmay =>
      obtain ⟨hconcerns, hholding⟩ := Lock.Table.concerns_resume hmay
      exact h.concerns hid hconcerns rfl rfl rfl rfl fun _ _ => hholding
    · split
      · next hnone => exact h.arrive hid ht (Option.isNone_iff_eq_none.mp hnone) houtside
      · exact h
  · next t k hrest =>
    exact h.concerns hid (Lock.Table.concerns_withdraw id _) rfl rfl rfl rfl
      fun _ hinside => nomatch hinside
  · next k hrest => exact h.same hid rfl rfl rfl rfl fun hd hi => ⟨hd, hi⟩
  · exact h

/-- A task is dropped where it waits. -/
private theorem drop (h : S.Locked) (hid : S.tasks id = some task) (applied : Bool) :
    (S.drop id task applied).Locked := by
  have hwithdrawn : ∀ S' : State,
      S'.locks = Function.update S.locks task.process ((S.locks task.process).withdraw id) →
      S'.tasks = Function.update S.tasks id (some { task with dropped := true }) → S'.Locked := by
    intro S' hlocks htasks
    exact h.concerns hid (Lock.Table.concerns_withdraw id _) hlocks htasks rfl rfl
      fun hdropped => nomatch hdropped
  unfold State.drop
  split
  · -- a task that returned is not dropped
    exact h
  · dsimp only
    split
    · unfold performNext
      split <;> exact hwithdrawn _ rfl rfl
    · exact hwithdrawn _ rfl rfl

/-- One move preserves the agreement of tables and tasks. -/
theorem step (h : S.Locked) {m : ServiceModule} (hS : Contract.free.Holds S) (move : Move) :
    (S.step m move).Locked := by
  cases move with
  | start id p job =>
    simp only [State.step]
    split
    · next hnew => exact h.start (Option.isNone_iff_eq_none.mp hnew) rfl
    · exact h
  | proceed id failure =>
    simp only [State.step]
    split
    · next task hid =>
      split
      · exact h
      · next hlive => exact h.proceed (m := m) hS hid (by simpa using hlive) failure
    · exact h
  | grant id =>
    simp only [State.step]
    split
    · next task hid =>
      refine h.concerns hid (Lock.Table.concerns_grantTo id _) rfl (tasks_eq_update hid) rfl rfl ?_
      -- a task that is inside waits for nothing
      intro hlive hinside
      obtain ⟨c, hc, hphase⟩ := h.holding id task hid hlive hinside
      exact ⟨c, Lock.Table.holding_grantTo hc hphase, hphase⟩
    · exact h
  | tidy id =>
    simp only [State.step]
    split
    · next task hid =>
      refine h.concerns hid (Lock.Table.concerns_tidy id _) rfl (tasks_eq_update hid) rfl rfl ?_
      intro hlive hinside
      obtain ⟨c, hc, hphase⟩ := h.holding id task hid hlive hinside
      exact ⟨c, Lock.Table.holding_tidy hc hphase, hphase⟩
    · exact h
  | drop id applied =>
    simp only [State.step]
    split
    · next task hid =>
      split
      · exact h
      · exact h.drop hid applied
    · exact h
  | tick now => exact ⟨h.sound, h.caller, h.holding⟩

end Locked

/-- Tables and tasks agree after every run. -/
theorem locked_run (m : ServiceModule) (s : Store) (moves : List Move) :
    ((idle s).run m moves).Locked := by
  induction moves using List.reverseRecOn with
  | nil =>
    refine ⟨fun _ => .empty, ?_, ?_⟩
    · intro p id c hc
      cases hc
    · intro id task hid
      cases hid
  | append_singleton moves move ih =>
    have hS : Contract.free.Holds ((idle s).run m moves) :=
      (Contract.free_sound m).holds_every_run trivial moves
    rw [run_append]
    exact ih.step hS move

end State

end Interleaving

end Tenancy
