import Mathlib.Data.List.Induction
import Tenancy.Proofs.Interleaving
import Tenancy.Proofs.RelyGuarantee
import Tenancy.Proofs.StoreEffect

/-!
# Contracts between tasks

A contract says for each job what its task relies on, which calls it may make, and what its result
says; and what holds of the stores and the log at every moment. `Contract.Sound` collects what has
to be shown of a contract, one store call at a time. Then the contract holds after every
interleaving, and every call in the log was one that its task was allowed to make at its moment.

What a task relies on is a matter of its job and of what it sees. Where it matters as well how far
the tasks are, a contract is shown to be `Contract.Coherent`: a call need not be what a task relies on
that has returned already.

## Key results

- `Contract.Coherent.holds_run`, `Contract.Sound.holds_run`: such a contract holds after every run
- `Contract.Sound.preserved_run`: what allowed calls preserve stays for the rest of a run
- `State.exists_history_run`, `State.history_run`: a log leads from the first stores to the last
-/

namespace Tenancy.Interleaving

open Program (Guarded Surroundings Settled)

/-- What tasks promise each other. -/
structure Contract where
  /-- What holds of the stores and the log. -/
  inv : Store → List Event → Prop
  /-- What others may do to what a task sees. -/
  rely : TaskId → Job → View → View → Prop
  /-- The store calls that a task may make. -/
  guar : TaskId → Job → View → StoreCall → Prop
  /-- What a result says. -/
  post : TaskId → Job → View → Outcome → Prop

namespace Contract

variable {K : Contract} {m : ServiceModule} {S : State}

/-- The calls that a task may make: under every contract, it acquires the lock of its tenant once
    and releases only what it acquired. -/
def Allows (K : Contract) (id : TaskId) (job : Job) (v : View) : ServiceCall → Prop
  | .store c => K.guar id job v c
  | .lockTenant t => job.tenant? = some t ∧ v.inside = false
  | .unlockTenant _ => v.inside = true
  | _ => True

/-- What a task finds around it. Others never change whether it is inside. -/
def surroundings (K : Contract) (id : TaskId) (job : Job) : Surroundings ServiceCall.Reply View where
  answers := Answers id
  rely v v' := v'.inside = v.inside ∧ K.rely id job v v' ∧ K.inv v'.store v'.log
  guar := K.Allows id job

/-- The surroundings as a program over the stores finds them. -/
def stores (K : Contract) (id : TaskId) (job : Job) : Surroundings StoreCall.Reply View :=
  (K.surroundings id job).comap ServiceCall.store fun _ reply => reply

theorem surroundings_steady (hrefl : ∀ id job v, K.rely id job v v)
    (htrans : ∀ id job v v' v'', v'.inside = v.inside → K.rely id job v v' →
      K.rely id job v' v'' → K.rely id job v v'') (id : TaskId) (job : Job) :
    (K.surroundings id job).Steady where
  trans hv hv' := ⟨hv'.1.trans hv.1, htrans id job _ _ _ hv.1 hv.2.1 hv'.2.1, hv'.2.2⟩
  refl hv := ⟨rfl, hrefl id job _, hv.2.2⟩

/-- Every task keeps to the contract, and every call in the log was allowed when it was made. -/
structure Holds (K : Contract) (S : State) : Prop where
  inv : K.inv S.store S.log
  tasks : ∀ id task, S.tasks id = some task → task.dropped = false →
    Guarded (K.surroundings id task.job) (K.post id task.job) task.rest (S.view task)
  log : ∀ later e earlier, S.log = later ++ e :: earlier → K.inv e.before earlier ∧
    ∃ job inside, K.guar e.task job ⟨e.before, earlier, inside⟩ e.call

/-- What has to be shown of a contract. `I` is known of every state that is reached, and `A` says
    which jobs are done in which process. -/
structure Sound (K : Contract) (m : ServiceModule) (I : State → Prop) (A : ProcessId → Job → Prop) :
    Prop where
  refl : ∀ id job v, K.rely id job v v
  trans : ∀ id job v v' v'', v'.inside = v.inside → K.rely id job v v' → K.rely id job v' v'' →
    K.rely id job v v''
  /-- The program of a job keeps to the contract. -/
  starts : ∀ id p job v, A p job → v.inside = false → K.inv v.store v.log →
    Guarded (K.surroundings id job) (K.post id job) (job.program m) v
  /-- Allowed calls preserve what holds at every moment. -/
  keeps : ∀ id job v c, K.inv v.store v.log → K.guar id job v c →
    K.inv (v.store.apply c).2 (⟨id, c, v.store⟩ :: v.log)
  /-- Allowed calls of one task are what the others rely on. -/
  others : ∀ S id task c j other, I S → K.inv S.store S.log → S.tasks id = some task →
    task.dropped = false → K.guar id task.job (S.view task) c → S.tasks j = some other →
    other.dropped = false → id ≠ j →
    K.rely j other.job (S.view other) ((S.view other).perform id c)
  ticks : ∀ s log now, K.inv s log → K.inv { s with clock := now } log
  ticksOthers : ∀ id job s log inside now,
    K.rely id job ⟨s, log, inside⟩ ⟨{ s with clock := now }, log, inside⟩

/-- What has to be shown of a contract in general: after a call of one task, what is left of another
    one's program keeps to the contract. -/
structure Coherent (K : Contract) (m : ServiceModule) (I : State → Prop)
    (A : ProcessId → Job → Prop) : Prop where
  refl : ∀ id job v, K.rely id job v v
  trans : ∀ id job v v' v'', v'.inside = v.inside → K.rely id job v v' → K.rely id job v' v'' →
    K.rely id job v v''
  starts : ∀ id p job v, A p job → v.inside = false → K.inv v.store v.log →
    Guarded (K.surroundings id job) (K.post id job) (job.program m) v
  keeps : ∀ id job v c, K.inv v.store v.log → K.guar id job v c →
    K.inv (v.store.apply c).2 (⟨id, c, v.store⟩ :: v.log)
  others : ∀ S id task c k j other, I S → K.Holds S → S.tasks id = some task →
    task.dropped = false → task.rest = .ask (.store c) k → K.guar id task.job (S.view task) c →
    S.tasks j = some other → other.dropped = false → id ≠ j →
    Guarded (K.surroundings j other.job) (K.post j other.job) other.rest
      ((S.view other).perform id c)
  ticks : ∀ s log now, K.inv s log → K.inv { s with clock := now } log
  ticksOthers : ∀ id job s log inside now,
    K.rely id job ⟨s, log, inside⟩ ⟨{ s with clock := now }, log, inside⟩

/-- Where a call is what another task relies on, the other goes on keeping to the contract. -/
theorem Sound.coherent {I : State → Prop} {A : ProcessId → Job → Prop} (h : K.Sound m I A) :
    K.Coherent m I A where
  refl := h.refl
  trans := h.trans
  starts := h.starts
  keeps := h.keeps
  others S id task c k j other hI hS hid hlive _ hguar hj hotherLive hne := by
    have hrely := h.others S id task c j other hI hS.inv hid hlive hguar hj hotherLive hne
    have hinv := h.keeps id task.job (S.view task) c hS.inv hguar
    exact (hS.tasks j other hj hotherLive).mono (surroundings_steady h.refl h.trans j other.job)
      ⟨rfl, hrely, hinv⟩
  ticks := h.ticks
  ticksOthers := h.ticksOthers

end Contract

/-- Only jobs of a kind are begun. -/
def Move.Admits (A : ProcessId → Job → Prop) : Move → Prop
  | .start _ p job => A p job
  | _ => True

/-- Every task was begun. -/
theorem State.start_mem_of_tasks {m : ServiceModule} {s : Store} {moves : List Move} {id : TaskId}
    {task : Task} (hid : ((idle s).run m moves).tasks id = some task) :
    .start id task.process task.job ∈ moves := by
  induction moves using List.reverseRecOn generalizing id task with
  | nil => cases hid
  | append_singleton moves move ih =>
    have hchange := ((idle s).run m moves).step_change m move
    rw [run_append, run_cons, run_nil] at hid
    generalize ((idle s).run m moves).step m move = S' at hid hchange
    -- the task that a move changes keeps its process and its job
    have hupdate : ∀ {i : TaskId} {task' : Task},
        S'.tasks = Function.update ((idle s).run m moves).tasks i (some task') →
        .start i task'.process task'.job ∈ moves ++ [move] →
        .start id task.process task.job ∈ moves ++ [move] := by
      intro i task' htasks htask'
      rw [htasks] at hid
      by_cases hi : id = i
      · subst hi
        rw [Function.update_self] at hid
        exact Option.some.inj hid ▸ htask'
      · rw [Function.update_of_ne hi] at hid
        exact List.mem_append_left _ (ih hid)
    cases hchange with
    | still hstore hlog htasks => exact List.mem_append_left _ (ih (htasks ▸ hid))
    | ticked now hmove hstore hlog htasks => exact List.mem_append_left _ (ih (htasks ▸ hid))
    | started i p job hmove hnew hstore hlog htasks =>
      exact hupdate htasks (List.mem_append_right _ (List.mem_singleton.mpr hmove.symm))
    | answered i task' c k r v hi hlive hrest hanswer hstore hlog htasks =>
      have hkept := ih hi
      exact hupdate htasks (List.mem_append_left _ hkept)
    | dropped i task' hi hstore hlog htasks =>
      have hkept := ih hi
      exact hupdate htasks (List.mem_append_left _ hkept)
    | droppedApplied i task' c k hi hlive hrest hstore hlog htasks =>
      have hkept := ih hi
      exact hupdate htasks (List.mem_append_left _ hkept)

/-- What is known of the jobs that are begun is known of every task. -/
theorem State.admitted_run {A : ProcessId → Job → Prop} {m : ServiceModule} {s : Store}
    {moves : List Move} (hA : ∀ move ∈ moves, move.Admits A) {id : TaskId} {task : Task}
    (hid : ((idle s).run m moves).tasks id = some task) : A task.process task.job :=
  hA _ (start_mem_of_tasks hid)

namespace Contract.Coherent

variable {K : Contract} {m : ServiceModule} {S S' : State} {I : State → Prop}
  {A : ProcessId → Job → Prop}

theorem steady (h : K.Coherent m I A) (id : TaskId) (job : Job) : (K.surroundings id job).Steady :=
  surroundings_steady h.refl h.trans id job

/-- A call that a task is about to make is allowed. -/
theorem guar_of_rest (h : K.Coherent m I A) (hS : K.Holds S) {id : TaskId} {task : Task}
    {c : ServiceCall} {k : c.Reply → ServiceProgram Outcome} (hid : S.tasks id = some task)
    (hlive : task.dropped = false) (hrest : task.rest = .ask c k) :
    K.Allows id task.job (S.view task) c := by
  have hguarded := hS.tasks id task hid hlive
  rw [hrest] at hguarded
  exact (hguarded (S.view task) ⟨rfl, h.refl id task.job _, hS.inv⟩).1

/-- What is left of a task's program after an answer keeps to the contract. -/
theorem guarded_of_rest (h : K.Coherent m I A) (hS : K.Holds S) {id : TaskId} {task : Task}
    {c : ServiceCall} {k : c.Reply → ServiceProgram Outcome} {r : c.Reply} {v : View}
    (hid : S.tasks id = some task) (hlive : task.dropped = false) (hrest : task.rest = .ask c k)
    (hanswer : Answers id (S.view task) c r v) :
    Guarded (K.surroundings id task.job) (K.post id task.job) (k r) v := by
  have hguarded := hS.tasks id task hid hlive
  rw [hrest] at hguarded
  exact (hguarded (S.view task) ⟨rfl, h.refl id task.job _, hS.inv⟩).2 r v hanswer

/-- An answered call that is not a store call leaves the stores and the log. -/
private theorem store_or_same {id : TaskId} {v v' : View} {c : ServiceCall} {r : c.Reply}
    (hanswer : Answers id v c r v') :
    (v'.store = v.store ∧ v'.log = v.log) ∨
      ∃ sc, c = .store sc ∧ v'.store = (v.store.apply sc).2 ∧
        v'.log = ⟨id, sc, v.store⟩ :: v.log := by
  cases hanswer with
  | applied c => exact .inr ⟨c, rfl, rfl, rfl⟩
  | _ => exact .inl ⟨rfl, rfl⟩

/-- The log of a contract after one more allowed call. -/
private theorem log_cons (hS : K.Holds S) {id : TaskId} {job : Job} {inside : Bool} {c : StoreCall}
    (hguar : K.guar id job ⟨S.store, S.log, inside⟩ c) {later earlier : List Event}
    {e : Event} (hlog : ⟨id, c, S.store⟩ :: S.log = later ++ e :: earlier) :
    K.inv e.before earlier ∧
      ∃ job inside, K.guar e.task job ⟨e.before, earlier, inside⟩ e.call := by
  cases later with
  | nil =>
    obtain ⟨rfl, rfl⟩ := List.cons.inj hlog
    exact ⟨hS.inv, job, inside, hguar⟩
  | cons _ later => exact hS.log later e earlier (List.cons.inj hlog).2

/-- One task changes, and the stores and the log may change with it. -/
private theorem holds_update {id : TaskId} {task : Task}
    (htasks : S'.tasks = Function.update S.tasks id (some task))
    (hself : task.dropped = false →
      Guarded (K.surroundings id task.job) (K.post id task.job) task.rest (S'.view task))
    (hinv : K.inv S'.store S'.log)
    (hothers : ∀ j other, S.tasks j = some other → other.dropped = false → j ≠ id →
      Guarded (K.surroundings j other.job) (K.post j other.job) other.rest (S'.view other))
    (hlog : ∀ later e earlier, S'.log = later ++ e :: earlier → K.inv e.before earlier ∧
      ∃ job inside, K.guar e.task job ⟨e.before, earlier, inside⟩ e.call) :
    K.Holds S' where
  inv := hinv
  tasks j other hj hlive := by
    rw [htasks] at hj
    by_cases hjid : j = id
    · subst hjid
      rw [Function.update_self] at hj
      obtain rfl := Option.some.inj hj
      exact hself hlive
    · rw [Function.update_of_ne hjid] at hj
      exact hothers j other hj hlive hjid
  log := hlog

/-- Stores and log stay, and no task changes but one. -/
private theorem holds_of_same (hS : K.Holds S) {id : TaskId} {task : Task}
    (hstore : S'.store = S.store) (hlog : S'.log = S.log)
    (htasks : S'.tasks = Function.update S.tasks id (some task))
    (hself : task.dropped = false →
      Guarded (K.surroundings id task.job) (K.post id task.job) task.rest (S'.view task)) :
    K.Holds S' := by
  refine holds_update htasks hself (by rw [hstore, hlog]; exact hS.inv) ?_
    (by rw [hlog]; exact hS.log)
  intro j other hj hlive _
  have hview : S'.view other = S.view other := by simp only [State.view, hstore, hlog]
  rw [hview]
  exact hS.tasks j other hj hlive

/-- A store call takes effect, and no task changes but the one that made it. -/
private theorem holds_of_applied (h : K.Coherent m I A) (hS : K.Holds S) (hI : I S) {id : TaskId}
    {task task' : Task} {c : StoreCall} {k : c.Reply → ServiceProgram Outcome}
    (hid : S.tasks id = some task) (hlive : task.dropped = false)
    (hrest : task.rest = .ask (.store c) k)
    (hstore : S'.store = (S.store.apply c).2) (hlog : S'.log = ⟨id, c, S.store⟩ :: S.log)
    (htasks : S'.tasks = Function.update S.tasks id (some task'))
    (hself : task'.dropped = false →
      Guarded (K.surroundings id task'.job) (K.post id task'.job) task'.rest (S'.view task')) :
    K.Holds S' := by
  have hguar : K.guar id task.job (S.view task) c := h.guar_of_rest hS hid hlive hrest
  have hinv : K.inv S'.store S'.log := by
    rw [hstore, hlog]
    exact h.keeps id task.job (S.view task) c hS.inv hguar
  refine holds_update htasks hself hinv ?_ ?_
  · intro j other hj hotherLive hjid
    have hview : S'.view other = (S.view other).perform id c := by
      simp only [State.view, View.perform, hstore, hlog]
    rw [hview]
    exact h.others S id task c k j other hI hS hid hlive hrest hguar hj hotherLive hjid.symm
  · intro later e earlier hsplit
    rw [hlog] at hsplit
    exact log_cons hS hguar hsplit

/-- One move preserves a coherent contract. -/
theorem holds_step (h : K.Coherent m I A) (hS : K.Holds S) (hI : I S) {move : Move}
    (hmove : move.Admits A) : K.Holds (S.step m move) := by
  have hchange := S.step_change m move
  generalize hS' : S.step m move = S' at hchange
  cases hchange with
  | still hstore hlog htasks =>
    refine ⟨by rw [hstore, hlog]; exact hS.inv, ?_, by rw [hlog]; exact hS.log⟩
    intro id task hid hlive
    have hview : S'.view task = S.view task := by simp only [State.view, hstore, hlog]
    rw [htasks] at hid
    rw [hview]
    exact hS.tasks id task hid hlive
  | ticked now hmove hstore hlog htasks =>
    have hinv : K.inv S'.store S'.log := by
      rw [hstore, hlog]
      exact h.ticks _ _ now hS.inv
    refine ⟨hinv, ?_, by rw [hlog]; exact hS.log⟩
    intro id task hid hlive
    have hview : S'.view task = ⟨{ S.store with clock := now }, S.log, task.inside⟩ := by
      simp only [State.view, hstore, hlog]
    rw [htasks] at hid
    refine (hS.tasks id task hid hlive).mono (h.steady id task.job) ⟨rfl, ?_, hinv⟩
    rw [hview]
    exact h.ticksOthers id task.job S.store S.log task.inside now
  | started id p job hstart hnew hstore hlog htasks =>
    -- the new task is outside, and finds what holds at every moment
    have hjob : A p job := by rwa [hstart] at hmove
    refine holds_of_same hS hstore hlog htasks fun _ => ?_
    refine h.starts id p job _ hjob rfl ?_
    rw [State.view, hstore, hlog]
    exact hS.inv
  | answered id task c k r v hid hlive hrest hanswer hstore hlog htasks =>
    have hself := h.guarded_of_rest hS hid hlive hrest hanswer
    have hview : S'.view { task with rest := k r, inside := v.inside } = v := by
      simp only [State.view, hstore, hlog]
    -- of the calls of a service, others notice only those to the stores
    rcases store_or_same hanswer with ⟨hs, hl⟩ | ⟨sc, rfl, hs, hl⟩
    · refine holds_of_same hS (hstore.trans hs) (hlog.trans hl) htasks fun _ => ?_
      rw [hview]
      exact hself
    · refine holds_of_applied h hS hI hid hlive hrest (hstore.trans hs) (hlog.trans hl) htasks
        fun _ => ?_
      rw [hview]
      exact hself
  | dropped id task hid hstore hlog htasks =>
    exact holds_of_same hS hstore hlog htasks fun hfalse => nomatch hfalse
  | droppedApplied id task c k hid hlive hrest hstore hlog htasks =>
    exact holds_of_applied h hS hI hid hlive hrest hstore hlog htasks
      fun hfalse => nomatch hfalse

/-- A coherent contract holds after every interleaving, from every starting state for which its
    invariant holds. -/
theorem holds_run (h : K.Coherent m I A) {s : Store} (hinv : K.inv s []) {moves : List Move}
    (hI : ∀ before, before <+: moves → I ((State.idle s).run m before))
    (hA : ∀ move ∈ moves, move.Admits A) : K.Holds ((State.idle s).run m moves) := by
  -- on the moves from the last one: `I` and `A` are known of every part that a run begins with
  induction moves using List.reverseRecOn with
  | nil =>
    refine ⟨hinv, ?_, ?_⟩
    · intro id task hid
      exact nomatch hid
    · intro later e earlier hlog
      exact absurd hlog.symm (List.append_ne_nil_of_right_ne_nil _ (List.cons_ne_nil e earlier))
  | append_singleton moves move ih =>
    have hbefore := ih (fun before hpart => hI before (hpart.trans (List.prefix_append _ _)))
      fun move' hmem => hA move' (List.mem_append_left _ hmem)
    rw [State.run_append]
    exact h.holds_step hbefore (hI moves (List.prefix_append _ _))
      (hA move (List.mem_append_right _ List.mem_cons_self))

/-- The result of a task that returned is right. -/
theorem post_of_done (h : K.Coherent m I A) (hS : K.Holds S) {id : TaskId} {task : Task}
    {outcome : Outcome} (hid : S.tasks id = some task) (hlive : task.dropped = false)
    (hrest : task.rest = .done outcome) : K.post id task.job (S.view task) outcome := by
  have hguarded := hS.tasks id task hid hlive
  rw [hrest] at hguarded
  exact hguarded (S.view task) ⟨rfl, h.refl id task.job _, hS.inv⟩

/-- What allowed calls preserve, one move preserves. -/
private theorem preserved_step (h : K.Coherent m I A) (hS : K.Holds S) {P : Store → Prop}
    (htick : ∀ s now, P s → P { s with clock := now })
    (hcall : ∀ id job v c, K.inv v.store v.log → K.guar id job v c → P v.store →
      P (v.store.apply c).2) (hP : P S.store) (move : Move) : P (S.step m move).store := by
  have hchange := S.step_change m move
  generalize S.step m move = S' at hchange ⊢
  cases hchange with
  | still hstore hlog htasks => rwa [hstore]
  | ticked now hmove hstore hlog htasks =>
    rw [hstore]
    exact htick _ now hP
  | started id p job hmove hnew hstore hlog htasks => rwa [hstore]
  | answered id task c k r v hid hlive hrest hanswer hstore hlog htasks =>
    have hallowed := h.guar_of_rest hS hid hlive hrest
    rw [hstore]
    cases hanswer with
    | applied c => exact hcall id task.job (S.view task) c hS.inv hallowed hP
    | _ => exact hP
  | dropped id task hid hstore hlog htasks => rwa [hstore]
  | droppedApplied id task c k hid hlive hrest hstore hlog htasks =>
    rw [hstore]
    exact hcall id task.job (S.view task) c hS.inv (h.guar_of_rest hS hid hlive hrest) hP

/-- What allowed calls preserve stays until the end of a run. -/
theorem preserved_run (h : K.Coherent m I A) {s : Store} (hinv : K.inv s []) {before after : List Move}
    (hI : ∀ part, part <+: before ++ after → I ((State.idle s).run m part))
    (hA : ∀ move ∈ before ++ after, move.Admits A) {P : Store → Prop}
    (htick : ∀ s now, P s → P { s with clock := now })
    (hcall : ∀ id job v c, K.inv v.store v.log → K.guar id job v c → P v.store →
      P (v.store.apply c).2) (hP : P ((State.idle s).run m before).store) :
    P ((State.idle s).run m (before ++ after)).store := by
  induction after using List.reverseRecOn with
  | nil => rwa [List.append_nil]
  | append_singleton after move ih =>
    rw [← List.append_assoc] at hI hA ⊢
    have hI' : ∀ part, part <+: before ++ after → I ((State.idle s).run m part) :=
      fun part hpart => hI part (hpart.trans (List.prefix_append _ _))
    have hA' : ∀ move' ∈ before ++ after, move'.Admits A :=
      fun move' hmem => hA move' (List.mem_append_left _ hmem)
    rw [State.run_append]
    exact preserved_step h (h.holds_run hinv hI' hA') htick hcall (ih hI' hA') move

end Contract.Coherent

namespace Contract.Sound

variable {K : Contract} {m : ServiceModule} {S : State} {I : State → Prop}
  {A : ProcessId → Job → Prop}

theorem guar_of_rest (h : K.Sound m I A) (hS : K.Holds S) {id : TaskId} {task : Task}
    {c : ServiceCall} {k : c.Reply → ServiceProgram Outcome} (hid : S.tasks id = some task)
    (hlive : task.dropped = false) (hrest : task.rest = .ask c k) :
    K.Allows id task.job (S.view task) c :=
  h.coherent.guar_of_rest hS hid hlive hrest

/-- A sound contract holds after every interleaving. -/
theorem holds_run (h : K.Sound m I A) {s : Store} (hinv : K.inv s []) {moves : List Move}
    (hI : ∀ before, before <+: moves → I ((State.idle s).run m before))
    (hA : ∀ move ∈ moves, move.Admits A) : K.Holds ((State.idle s).run m moves) :=
  h.coherent.holds_run hinv hI hA

/-- A contract that asks nothing of the jobs holds after every run. -/
theorem holds_every_run (h : K.Sound m (fun _ => True) fun _ _ => True) {s : Store}
    (hinv : K.inv s []) (moves : List Move) : K.Holds ((State.idle s).run m moves) :=
  h.holds_run hinv (fun _ _ => trivial) fun move _ => by cases move <;> trivial

theorem post_of_done (h : K.Sound m I A) (hS : K.Holds S) {id : TaskId} {task : Task}
    {outcome : Outcome} (hid : S.tasks id = some task) (hlive : task.dropped = false)
    (hrest : task.rest = .done outcome) : K.post id task.job (S.view task) outcome :=
  h.coherent.post_of_done hS hid hlive hrest

theorem preserved_run (h : K.Sound m I A) {s : Store} (hinv : K.inv s []) {before after : List Move}
    (hI : ∀ part, part <+: before ++ after → I ((State.idle s).run m part))
    (hA : ∀ move ∈ before ++ after, move.Admits A) {P : Store → Prop}
    (htick : ∀ s now, P s → P { s with clock := now })
    (hcall : ∀ id job v c, K.inv v.store v.log → K.guar id job v c → P v.store →
      P (v.store.apply c).2) (hP : P ((State.idle s).run m before).store) :
    P ((State.idle s).run m (before ++ after)).store :=
  h.coherent.preserved_run hinv hI hA htick hcall hP

end Contract.Sound

/-! ## The log as a history -/

/-- Two states of the stores that differ in the time at most. -/
def SameButClock (s s' : Store) : Prop := s' = { s with clock := s'.clock }

theorem SameButClock.refl (s : Store) : SameButClock s s := rfl

theorem SameButClock.tick {s s' : Store} (h : SameButClock s s') (now : Timestamp) :
    SameButClock s { s' with clock := now } := by
  unfold SameButClock at h
  rw [h]
  rfl

theorem SameButClock.rows_eq {s s' : Store} (h : SameButClock s s') :
    s'.tenants = s.tenants ∧ s'.audits = s.audits ∧ s'.schemas = s.schemas := by
  unfold SameButClock at h
  rw [h]
  exact ⟨rfl, rfl, rfl⟩

theorem SameButClock.registered?_eq {s s' : Store} (h : SameButClock s s') {m : ServiceModule}
    {t : TenantId} : s'.registered? m t = s.registered? m t := by
  unfold SameButClock at h
  rw [h]
  rfl

/-- The log leads from one state of the stores to another: each call met what the one before it
    left. -/
def History (s₀ : Store) : Store → List Event → Prop
  | s, [] => SameButClock s₀ s
  | s, e :: earlier => SameButClock e.after s ∧ History s₀ e.before earlier

theorem History.tick {s₀ s : Store} {log : List Event} (h : History s₀ s log) (now : Timestamp) :
    History s₀ { s with clock := now } log := by
  cases log with
  | nil => exact SameButClock.tick h now
  | cons e earlier => exact ⟨h.1.tick now, h.2⟩

/-- What was a history stays one when a call is added. -/
theorem History.perform {s₀ s : Store} {log : List Event} (h : History s₀ s log) (id : TaskId)
    (c : StoreCall) : History s₀ (s.apply c).2 (⟨id, c, s⟩ :: log) :=
  ⟨SameButClock.refl _, h⟩

/-- The calls that were logged meanwhile lead from the stores before some moves to those after them. -/
theorem State.exists_history_run (m : ServiceModule) (S : State) (moves : List Move) :
    ∃ later, (S.run m moves).log = later ++ S.log ∧
      History S.store (S.run m moves).store later := by
  induction moves using List.reverseRecOn with
  | nil => exact ⟨[], rfl, SameButClock.refl S.store⟩
  | append_singleton moves move ih =>
    obtain ⟨later, hlater, hhistory⟩ := ih
    rw [run_append]
    have hchange := (S.run m moves).step_change m move
    simp only [run_cons, run_nil]
    cases hchange with
    | still hstore hlog htasks =>
      rw [hstore, hlog]
      exact ⟨later, hlater, hhistory⟩
    | ticked now hmove hstore hlog htasks =>
      rw [hstore, hlog]
      exact ⟨later, hlater, hhistory.tick now⟩
    | started id p job hmove hnew hstore hlog htasks =>
      rw [hstore, hlog]
      exact ⟨later, hlater, hhistory⟩
    | answered id task c k r v hid hlive hrest hanswer hstore hlog htasks =>
      rw [hstore, hlog]
      cases hanswer with
      | applied c => exact ⟨_ :: later, congrArg _ hlater, hhistory.perform id c⟩
      | _ => exact ⟨later, hlater, hhistory⟩
    | dropped id task hid hstore hlog htasks =>
      rw [hstore, hlog]
      exact ⟨later, hlater, hhistory⟩
    | droppedApplied id task c k hid hlive hrest hstore hlog htasks =>
      rw [hstore, hlog]
      exact ⟨_ :: later, congrArg _ hlater, hhistory.perform id c⟩

/-- A log leads from the stores that a run started with to those that it ended with. -/
theorem State.history_run (m : ServiceModule) (s : Store) (moves : List Move) :
    History s ((idle s).run m moves).store ((idle s).run m moves).log := by
  obtain ⟨later, hlater, hhistory⟩ := (idle s).exists_history_run m moves
  rw [hlater]
  simpa [idle] using hhistory

end Tenancy.Interleaving
