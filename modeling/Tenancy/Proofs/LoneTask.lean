import Tenancy.Proofs.Attendance
import Tenancy.Proofs.Sequential

/-!
# A task that moves alone

When nobody else moves, a task finds the stores between two of its calls as it left them. If it is a
pass, then it does to the stores what its program does to them alone, and returns. So does an
attempt whose process has no other under way for the tenant, once it has got the tenant's lock.

## Key results

- `State.run_onStores`: a program over the stores, run call by call by a task that moves alone
- `State.run_pass_alone`, `State.run_attempt_alone`: the whole of a pass, and of an attempt
-/

namespace Tenancy.Interleaving

/-- The program of an attempt: its calls to the stores are made between two calls about its lock. -/
theorem Job.program_provision (m : ServiceModule) (owner : String) (t : TenantId)
    (displayName : Option String) (actor : String) :
    (Job.provision owner t displayName actor).program m = .ask (.lockTenant t) fun _ =>
      Service.onStores (Provisioning.attempt m owner t displayName actor) >>= fun result =>
        .ask (.unlockTenant t) fun _ => .done (.provisioned result) := by
  rw [Job.program, ← bind_pure_comp, Service.provision]
  simp only [Service.call, Program.call_bind, Program.ask_bind, bind_assoc, Program.pure_eq_done,
    Program.done_bind]

/-- The program of a pass: it asks for the time, and makes its calls to the stores. -/
theorem Job.program_reconcile (m : ServiceModule) (staleAfter : Duration) :
    (Job.reconcile staleAfter).program m = .ask .now fun now =>
      Service.onStores (Reconciliation.pass m (Reconciliation.cutoff now staleAfter)) >>= fun result =>
        .done (.reconciled result) := by
  rw [Job.program, ← bind_pure_comp, Service.reconcile]
  simp only [Service.call, Program.call_bind, Program.ask_bind, Program.pure_eq_done]

/-- A task begins a job, asks for its lock, is given it and makes its calls, while nobody else moves. -/
def Move.alone (id : TaskId) (p : ProcessId) (job : Job) (n : Nat) : List Move :=
  [.start id p job, .proceed id none, .grant id] ++ List.replicate n (.proceed id none)

namespace State

variable {m : ServiceModule} {S : State} {id : TaskId} {task : Task}

private theorem step_proceed (m : ServiceModule) (hid : S.tasks id = some task)
    (hlive : task.dropped = false) (failure : Option DbError) :
    S.step m (.proceed id failure) = S.proceed id task failure := by
  simp only [step, hid, hlive, Bool.false_eq_true, if_false]

/-- A task that moves alone runs its program over the stores as the program runs alone. -/
theorem run_onStores {α : Type} (m : ServiceModule) (p : StoreProgram α)
    (f : α → ServiceProgram Outcome) (hid : S.tasks id = some task) (hlive : task.dropped = false)
    (hrest : task.rest = Service.onStores p >>= f) :
    ∃ n, (S.run m (List.replicate n (.proceed id none))).store = (p.runOn S.store).2 ∧
      (S.run m (List.replicate n (.proceed id none))).tasks id =
        some { task with rest := f (p.runOn S.store).1 } ∧
      (S.run m (List.replicate n (.proceed id none))).locks = S.locks := by
  induction p generalizing S task with
  | done a =>
    refine ⟨0, rfl, ?_, rfl⟩
    have hdone : f a = task.rest := hrest.symm
    rw [List.replicate_zero, run_nil, hid]
    simp only [StoreProgram.runOn, StoreProgram.runWith, hdone]
  | ask c k ih =>
    -- one call takes effect, and the rest of the program meets what it left
    have hasks : task.rest = .ask (.store c) fun r => Service.onStores (k r) >>= f := hrest
    have hstep : S.step m (.proceed id none) = (S.perform id c).setTask id
        { task with rest := Service.onStores (k (.ok (S.store.apply c).1)) >>= f } := by
      rw [step_proceed m hid hlive, proceed, hasks]
    obtain ⟨n, hstore, htask, hlocks⟩ := ih (.ok (S.store.apply c).1)
      (S := (S.perform id c).setTask id
        { task with rest := Service.onStores (k (.ok (S.store.apply c).1)) >>= f })
      (Function.update_self ..) hlive rfl
    refine ⟨n + 1, ?_⟩
    rw [List.replicate_succ, run_cons, hstep, runOn_ask]
    exact ⟨hstore, htask, hlocks⟩

variable {p : ProcessId} {t : TenantId}

/-- A pass made alone: it does to the stores what its program does alone, with the cutoff of the time
    at which it begins, and returns the same. -/
theorem run_pass_alone (m : ServiceModule) (staleAfter : Duration) (hnew : S.tasks id = none) :
    ∃ n, (S.run m (.start id p (.reconcile staleAfter) :: List.replicate n (.proceed id none))).store =
        ((Reconciliation.pass m (Reconciliation.cutoff S.store.clock staleAfter)).runOn S.store).2 ∧
      (S.run m (.start id p (.reconcile staleAfter) :: List.replicate n (.proceed id none))).tasks id =
        some { process := p, job := .reconcile staleAfter
               rest := .done (.reconciled ((Reconciliation.pass m
                (Reconciliation.cutoff S.store.clock staleAfter)).runOn S.store).1) } := by
  let passing (now : Timestamp) : Task :=
    { process := p, job := .reconcile staleAfter
      rest := Service.onStores (Reconciliation.pass m (Reconciliation.cutoff now staleAfter)) >>=
        fun result => .done (.reconciled result) }
  let begun : Task :=
    { process := p, job := .reconcile staleAfter, rest := .ask .now fun now => (passing now).rest }
  have hstarted : S.step m (.start id p (.reconcile staleAfter)) = S.setTask id begun := by
    simp only [step, hnew, Option.isNone_none, if_true, Job.program_reconcile, begun, passing]
  have htimed : (S.setTask id begun).step m (.proceed id none) =
      (S.setTask id begun).setTask id (passing S.store.clock) := by
    rw [step_proceed m (Function.update_self ..) rfl]
    rfl
  obtain ⟨n, hstore, htask, -⟩ := run_onStores m
    (Reconciliation.pass m (Reconciliation.cutoff S.store.clock staleAfter)) _
    (S := (S.setTask id begun).setTask id (passing S.store.clock)) (Function.update_self ..) rfl rfl
  refine ⟨n + 1, ?_⟩
  rw [run_cons, hstarted, List.replicate_succ, run_cons, htimed]
  exact ⟨hstore, htask⟩

/-- A task for a new job asks for a lock that nobody has, and gets it. -/
private theorem run_lock (hS : S.Locked) (hattended : S.Attended) (hnew : S.tasks id = none)
    (hfree : ∀ c ∈ (S.locks p).callers, c.tenant = t → c.phase.owns = false) {job : Job}
    {k : Unit → ServiceProgram Outcome} (hprogram : job.program m = .ask (.lockTenant t) k) :
    (S.run m [.start id p job, .proceed id none, .grant id, .proceed id none]).store = S.store ∧
      (S.run m [.start id p job, .proceed id none, .grant id, .proceed id none]).tasks id =
        some { process := p, job, rest := k (), inside := true } := by
  -- every caller has a task, and this one had none
  have hcaller : (S.locks p).caller? id = none := by
    cases hfound : (S.locks p).caller? id with
    | none => rfl
    | some c =>
      obtain ⟨task, hid, -⟩ := hS.caller p id c hfound
      rw [hnew] at hid
      cases hid
  obtain ⟨mutex, hwaits, hunowned⟩ :=
    Lock.Table.isOwned_arrive (t := t) (hS.sound p) (hattended.numbered p) hcaller hfree
  -- the task and its process's table after each of the moves
  let asking : Task := { process := p, job, rest := .ask (.lockTenant t) k }
  let waiting : Lock.Table := (S.locks p).arrive id t
  let granted : Lock.Table := waiting.setPhase id .granted
  have hstarted : S.step m (.start id p job) = S.setTask id asking := by
    simp only [step, hnew, Option.isNone_none, if_true, hprogram, asking]
  have hasked : (S.setTask id asking).step m (.proceed id none) =
      (S.setTask id asking).setLocks p waiting := by
    have hmay : (S.locks p).mayResume id = false := by simp [Lock.Table.mayResume, hcaller]
    rw [step_proceed m (Function.update_self ..) rfl]
    simp [proceed, asking, setTask, hmay, hcaller, waiting]
  have hgranted : ((S.setTask id asking).setLocks p waiting).step m (.grant id) =
      ((S.setTask id asking).setLocks p waiting).setLocks p granted := by
    have hgrant : waiting.grantTo id = granted := by
      simp [Lock.Table.grantTo, waiting, hwaits, hunowned, granted]
    simp [step, setLocks, setTask, asking, hgrant]
  have hresumed : (((S.setTask id asking).setLocks p waiting).setLocks p granted).step m
      (.proceed id none) = (((S.setTask id asking).setLocks p waiting).setLocks p granted
        |>.setLocks p (granted.resume id)).setTask id { asking with rest := k (), inside := true } := by
    have hmay : granted.mayResume id = true := by
      simp [Lock.Table.mayResume, granted, Lock.Table.caller?_setPhase, waiting, hwaits]
    rw [step_proceed m (Function.update_self ..) rfl]
    simp [proceed, asking, setLocks, hmay]
  rw [run_cons, hstarted, run_cons, hasked, run_cons, hgranted, run_cons, hresumed, run_nil]
  exact ⟨rfl, Function.update_self ..⟩

/-- An attempt for a tenant that no other task of its process is under way for, made alone: it does to
    the stores what its program does alone, and returns the same. -/
theorem run_attempt_alone (m : ServiceModule) (s : Store) (moves : List Move) (owner : String)
    (displayName : Option String) (actor : String)
    (hnew : ((idle s).run m moves).tasks id = none)
    (hover : ∀ j other, ((idle s).run m moves).tasks j = some other → other.process = p →
      other.job.tenant? = some t → other.isOver = true) :
    ∃ n, (((idle s).run m moves).run m
        (Move.alone id p (.provision owner t displayName actor) n)).store =
          ((Provisioning.attempt m owner t displayName actor).runOn ((idle s).run m moves).store).2 ∧
      (((idle s).run m moves).run m
        (Move.alone id p (.provision owner t displayName actor) n)).tasks id =
          some { process := p, job := .provision owner t displayName actor
                 rest := .done (.provisioned ((Provisioning.attempt m owner t displayName actor).runOn
                   ((idle s).run m moves).store).1) } := by
  have hlocked := locked_run m s moves
  have hattended := attended_run m s moves
  have hfree := hattended.owns_eq_false hlocked ((Contract.free_sound m).holds_every_run trivial moves)
    hover
  generalize (idle s).run m moves = S at *
  obtain ⟨hstore, hinside⟩ := run_lock hlocked hattended hnew hfree
    (Job.program_provision m owner t displayName actor)
  generalize hlock : S.run m [.start id p (.provision owner t displayName actor), .proceed id none,
    .grant id, .proceed id none] = S₁ at hstore hinside
  obtain ⟨n, hdone, hreleasing, -⟩ := run_onStores m
    (Provisioning.attempt m owner t displayName actor) _ hinside rfl rfl
  rw [hstore] at hdone hreleasing
  -- one move gets the lock before that, and one releases it after
  have hmoves : Move.alone id p (.provision owner t displayName actor) (n + 2) =
      [.start id p (.provision owner t displayName actor), .proceed id none, .grant id,
        .proceed id none] ++ List.replicate n (.proceed id none) ++ [.proceed id none] := by
    rw [Move.alone, List.replicate_succ, List.replicate_succ']
    rfl
  refine ⟨n + 2, ?_⟩
  rw [hmoves, run_append, run_append, hlock, run_cons, run_nil, step_proceed m hreleasing rfl]
  exact ⟨hdone, Function.update_self ..⟩

end State

end Tenancy.Interleaving
