import Mathlib.Algebra.Ring.Nat
import Tenancy.Proofs.Frame
import Tenancy.Proofs.LoneTask
import Tenancy.Proofs.Observation

/-!
# What a whole run leaves alone

A program makes at most so many calls of a kind: an attempt adds one row to the audit log at most,
and a pass none. What a task has added so far and what is left of its program add up. Together with
what single calls leave alone this says what a run of any number of tasks can have changed.

## Key results

- `Program.MakesAtMost`: how many calls of a kind a program makes
- `State.rowsAddedBy_le`: how many rows a task adds
- `frame_run`: what a run leaves alone
-/

namespace Tenancy

/-! ## How many calls a program makes -/

namespace Program

variable {C D : Type} {Reply : C → Type} {Answer : D → Type} {α β : Type} {q : C → Bool}
  {n j : Nat}

/-- The program makes at most `n` calls of a kind, whatever its calls are answered. -/
def MakesAtMost (q : C → Bool) : Nat → Program Reply α → Prop
  | _, done _ => True
  | n, ask c k => (q c).toNat ≤ n ∧ ∀ r, (k r).MakesAtMost q (n - (q c).toNat)

theorem MakesAtMost.mono {p : Program Reply α} (h : p.MakesAtMost q n) (hn : n ≤ j) :
    p.MakesAtMost q j := by
  induction p generalizing n j with
  | done a => trivial
  | ask c k ih => exact ⟨h.1.trans hn, fun r => ih r (h.2 r) (Nat.sub_le_sub_right hn _)⟩

/-- Calls of one part and of the next add up. -/
theorem MakesAtMost.bind {p : Program Reply α} {f : α → Program Reply β} (h : p.MakesAtMost q n)
    (hf : ∀ a, (f a).MakesAtMost q j) : (p >>= f).MakesAtMost q (n + j) := by
  induction p generalizing n with
  | done a => exact (hf a).mono (Nat.le_add_left j n)
  | ask c k ih =>
    obtain ⟨hc, hnext⟩ := h
    refine ⟨hc.trans (Nat.le_add_right n j), fun r => ?_⟩
    rw [Nat.sub_add_comm hc]
    exact ih r (hnext r)

theorem makesAtMost_of_makes {p : Program Reply α} (h : p.Makes fun c => q c = false) (n : Nat) :
    p.MakesAtMost q n := by
  induction p generalizing n with
  | done a => trivial
  | ask c k ih =>
    have hc : (q c).toNat = 0 := by rw [h.1, Bool.toNat_false]
    exact ⟨by rw [hc]; exact Nat.zero_le n, fun r => ih r (h.2 r) _⟩

theorem MakesAtMost.lift (wider : C → D) (reply : (c : C) → Answer (wider c) → Reply c)
    {q : D → Bool} {p : Program Reply α} (h : p.MakesAtMost (fun c => q (wider c)) n) :
    (p.lift wider reply).MakesAtMost q n := by
  induction p generalizing n with
  | done a => trivial
  | ask c k ih => exact ⟨h.1, fun r => ih _ (h.2 _)⟩

end Program

/-! ## How many rows a job adds to the log -/

/-- Whether a call adds a row to the audit log. -/
def StoreCall.addsRow (c : StoreCall) : Bool := c.kind = .insertAudit

/-- The same for the calls of the service. -/
def ServiceCall.addsRow : ServiceCall → Bool
  | .store c => c.addsRow
  | _ => false

namespace Interleaving

open Program (MakesAtMost)

/-- How many rows a job may add to the audit log: an attempt has one row, and a pass adds none. -/
def Job.mostRows : Job → Nat
  | .provision _ _ _ _ => 1
  | .reconcile _ => 0

private theorem attempt_makesAtMost (m : ServiceModule) (owner : String) (t : TenantId)
    (displayName : Option String) (actor : String) :
    (Provisioning.attempt m owner t displayName actor).MakesAtMost StoreCall.addsRow 1 := by
  rw [Provisioning.attempt_eq]
  refine ⟨Nat.zero_le 1, fun reply => ?_⟩
  rcases reply with e | (_ | record)
  · trivial
  · trivial
  · exact ⟨Nat.le_refl 1, fun inserted => Program.makesAtMost_of_makes
      (Provisioning.create_makes rfl rfl fun _ _ _ => rfl) _⟩

private theorem pass_makesAtMost (m : ServiceModule) (cutoff : Timestamp) :
    (Reconciliation.pass m cutoff).MakesAtMost StoreCall.addsRow 0 :=
  Program.makesAtMost_of_makes (Reconciliation.pass_makes rfl fun e =>
    Reconciliation.entry_makes m e rfl rfl rfl fun _ _ => rfl) 0

private theorem onStores_makesAtMost {α : Type} {p : StoreProgram α} {n : Nat}
    (h : p.MakesAtMost StoreCall.addsRow n) :
    (Service.onStores p).MakesAtMost ServiceCall.addsRow n :=
  MakesAtMost.lift ServiceCall.store (fun _ reply => reply) h

/-- The program of a job adds no more rows. -/
theorem Job.program_makesAtMost (m : ServiceModule) (job : Job) :
    (job.program m).MakesAtMost ServiceCall.addsRow job.mostRows := by
  cases job with
  | provision owner t displayName actor =>
    rw [program_provision]
    refine ⟨Nat.zero_le 1, fun _ => ?_⟩
    exact (onStores_makesAtMost (attempt_makesAtMost m owner t displayName actor)).bind (j := 0)
      fun _ => ⟨Nat.le_refl 0, fun _ => trivial⟩
  | reconcile staleAfter =>
    rw [program_reconcile]
    refine ⟨Nat.le_refl 0, fun now => ?_⟩
    exact (onStores_makesAtMost (pass_makesAtMost m _)).bind (j := 0) fun _ => trivial

/-! ## How many rows a task adds -/

/-- How many rows a call added to the audit log. -/
def Event.rowsAdded (e : Event) : Nat := e.after.audits.length - e.before.audits.length

theorem length_audits_apply (s : Store) (c : StoreCall) :
    (s.apply c).2.audits.length = s.audits.length + c.addsRow.toNat := by
  cases c with
  | insertAudit new => exact List.length_append
  | updateAudit target status error => exact List.length_map _
  | ensureSchema t schema owner =>
    simp only [Store.apply, Store.addSchema]
    split <;> rfl
  | _ => rfl

theorem Event.rowsAdded_eq (e : Event) : e.rowsAdded = e.call.addsRow.toNat := by
  rw [rowsAdded, after, length_audits_apply, Nat.add_sub_cancel_left]

namespace State

/-- How many rows a task has added. -/
def rowsAddedBy (S : State) (id : TaskId) : Nat :=
  ((S.log.filter (·.task = id)).map Event.rowsAdded).sum

variable {m : ServiceModule} {S S' : State} {id i : TaskId}

theorem rowsAddedBy_congr (h : S'.log = S.log) : S'.rowsAddedBy id = S.rowsAddedBy id := by
  rw [rowsAddedBy, h, rowsAddedBy]

theorem rowsAddedBy_of_logged {c : StoreCall} (h : S'.log = ⟨i, c, S.store⟩ :: S.log) :
    S'.rowsAddedBy id = S.rowsAddedBy id + if i = id then c.addsRow.toNat else 0 := by
  rw [rowsAddedBy, h, rowsAddedBy]
  by_cases hi : i = id
  · simp [hi, Event.rowsAdded_eq, Nat.add_comm]
  · simp [hi]

/-- What a task has added so far, and what its program can still add if it was not dropped, is no
    more than its job may add. Who is no task has added nothing. -/
private def Within (added : Nat) : Option Task → Prop
  | none => added = 0
  | some task => ∃ n, added + n ≤ task.job.mostRows ∧
      (task.dropped = false → task.rest.MakesAtMost ServiceCall.addsRow n)

/-- One task changes, and the calls that were logged with it are its own. -/
private theorem within_update {task : Task} (hS : ∀ j, Within (S.rowsAddedBy j) (S.tasks j))
    (htasks : S'.tasks = Function.update S.tasks i (some task))
    (hself : Within (S'.rowsAddedBy i) (some task))
    (hothers : ∀ j, j ≠ i → S'.rowsAddedBy j = S.rowsAddedBy j) (j : TaskId) :
    Within (S'.rowsAddedBy j) (S'.tasks j) := by
  rw [htasks]
  by_cases hj : j = i
  · subst hj
    rwa [Function.update_self]
  · rw [Function.update_of_ne hj, hothers j hj]
    exact hS j

/-- One move keeps every task from adding more rows than its job may add. -/
private theorem within_step (m : ServiceModule) (move : Move)
    (hS : ∀ j, Within (S.rowsAddedBy j) (S.tasks j)) (j : TaskId) :
    Within ((S.step m move).rowsAddedBy j) ((S.step m move).tasks j) := by
  have hchange := S.step_change m move
  generalize S.step m move = S' at hchange
  have hothers : ∀ {i : TaskId} {c : StoreCall}, S'.log = ⟨i, c, S.store⟩ :: S.log →
      ∀ j, j ≠ i → S'.rowsAddedBy j = S.rowsAddedBy j := by
    intro i c hlog j hj
    rw [rowsAddedBy_of_logged hlog, if_neg hj.symm, Nat.add_zero]
  cases hchange with
  | still hstore hlog htasks =>
    rw [rowsAddedBy_congr hlog, htasks]
    exact hS j
  | ticked now hmove hstore hlog htasks =>
    rw [rowsAddedBy_congr hlog, htasks]
    exact hS j
  | started i p job hmove hnew hstore hlog htasks =>
    have hnone := hS i
    rw [hnew] at hnone
    refine within_update hS htasks ⟨job.mostRows, ?_, fun _ => job.program_makesAtMost m⟩
      (fun _ _ => rowsAddedBy_congr hlog) j
    rw [rowsAddedBy_congr hlog, show S.rowsAddedBy i = 0 from hnone, Nat.zero_add]
  | answered i task c k r v hid hlive hrest hanswer hstore hlog htasks =>
    have htask := hS i
    rw [hid] at htask
    obtain ⟨n, hn, hprogram⟩ := htask
    have hmakes := hprogram hlive
    rw [hrest] at hmakes
    obtain ⟨hc, hnext⟩ := hmakes
    cases hanswer with
    | applied c =>
      -- what the call added is no longer ahead
      refine within_update hS htasks ⟨n - c.addsRow.toNat, ?_, fun _ => hnext _⟩ (hothers hlog) j
      rw [rowsAddedBy_of_logged hlog, if_pos rfl, Nat.add_assoc,
        Nat.add_sub_cancel' (show c.addsRow.toNat ≤ n from hc)]
      exact hn
    | _ =>
      -- a call that failed was counted for nothing
      refine within_update hS htasks ⟨_, ?_, fun _ => hnext _⟩
        (fun _ _ => rowsAddedBy_congr hlog) j
      rw [rowsAddedBy_congr hlog]
      exact (Nat.add_le_add_left (Nat.sub_le n _) _).trans hn
  | dropped i task hid hstore hlog htasks =>
    have htask := hS i
    rw [hid] at htask
    obtain ⟨n, hn, -⟩ := htask
    exact within_update hS htasks ⟨n, by rwa [rowsAddedBy_congr hlog], nofun⟩
      (fun _ _ => rowsAddedBy_congr hlog) j
  | droppedApplied i task c k hid hlive hrest hstore hlog htasks =>
    have htask := hS i
    rw [hid] at htask
    obtain ⟨n, hn, hprogram⟩ := htask
    have hmakes := hprogram hlive
    rw [hrest] at hmakes
    -- the call took effect, and it was the last one
    refine within_update hS htasks ⟨0, ?_, nofun⟩ (hothers hlog) j
    rw [rowsAddedBy_of_logged hlog, if_pos rfl]
    exact (Nat.add_le_add_left hmakes.1 _).trans hn

private theorem within_run (m : ServiceModule) (s : Store) (moves : List Move) (j : TaskId) :
    Within (((idle s).run m moves).rowsAddedBy j) (((idle s).run m moves).tasks j) := by
  induction moves using List.reverseRecOn generalizing j with
  | nil => rfl
  | append_singleton moves move ih =>
    rw [run_append]
    exact within_step m move ih j

/-- A task adds no more rows to the audit log than its job may add. -/
theorem rowsAddedBy_le (m : ServiceModule) (s : Store) (moves : List Move) {task : Task}
    (hid : ((idle s).run m moves).tasks id = some task) :
    ((idle s).run m moves).rowsAddedBy id ≤ task.job.mostRows := by
  have hwithin := within_run m s moves id
  rw [hid] at hwithin
  obtain ⟨n, hn, -⟩ := hwithin
  exact (Nat.le_add_right _ n).trans hn

end State

/-! ## Runs -/

namespace History

variable {s₀ s : Store} {log : List Event}

/-- Calls that spare everything else keep to the frame together. -/
theorem frame {m : ServiceModule} {allowed : TenantId → Prop} (h : History s₀ s log)
    (hlog : ∀ e ∈ log, e.before.Spares m allowed e.call) : s₀.Frame m allowed s := by
  induction log generalizing s with
  | nil =>
    obtain ⟨htenants, haudits, -⟩ := SameButClock.rows_eq h
    exact .of_eq htenants haudits
  | cons e earlier ih =>
    -- the frame up to the call, that of the call, and none while the time goes on
    obtain ⟨hsame, hearlier⟩ := h
    obtain ⟨htenants, haudits, -⟩ := hsame.rows_eq
    have hbefore := ih hearlier fun e' he' => hlog e' (List.mem_cons_of_mem e he')
    exact (hbefore.trans (.apply (hlog e List.mem_cons_self))).trans (.of_eq htenants haudits)

/-- The schemas are those that there were, and those that calls created. -/
theorem mem_schemas_iff (h : History s₀ s log) (name : String) : name ∈ s.schemas ↔
    name ∈ s₀.schemas ∨ ∃ e ∈ log, ∃ t owner, e.call = .ensureSchema t name owner := by
  induction log generalizing s with
  | nil =>
    obtain ⟨-, -, hschemas⟩ := SameButClock.rows_eq h
    simp [hschemas]
  | cons e earlier ih =>
    obtain ⟨hsame, hearlier⟩ := h
    obtain ⟨-, -, hschemas⟩ := hsame.rows_eq
    rw [hschemas, Event.after, Store.mem_schemas_apply, ih hearlier, List.exists_mem_cons_iff,
      or_assoc, or_comm (a := ∃ t owner, e.call = _)]

/-- The rows are those that there were, and those that calls added. -/
theorem length_audits (h : History s₀ s log) :
    s.audits.length = s₀.audits.length + (log.map Event.rowsAdded).sum := by
  induction log generalizing s with
  | nil =>
    obtain ⟨-, haudits, -⟩ := SameButClock.rows_eq h
    simp [haudits]
  | cons e earlier ih =>
    obtain ⟨hsame, hearlier⟩ := h
    obtain ⟨-, haudits, -⟩ := hsame.rows_eq
    rw [haudits, Event.after, length_audits_apply, ih hearlier, List.map_cons, List.sum_cons,
      Event.rowsAdded_eq]
    omega

end History

/-- A job that provisions the tenant was begun. -/
def Named (moves : List Move) (t : TenantId) : Prop :=
  ∃ id p job, .start id p job ∈ moves ∧ job.tenant? = some t

/-- In any number of processes that provision and reconcile, whatever the order of their calls,
    whichever fail and wherever they are dropped: between two moments of a run the rows of tenants
    and of the audit log stay what they are, but for what tasks may touch; the schemas are those
    that there were and those that calls created meanwhile; the rows added to the log are those that
    tasks added, an attempt one at most and a pass none. -/
theorem frame_run (m : ServiceModule) (s : Store) (before after : List Move) (hs : s.Keyed) :
    let S := (State.idle s).run m before
    let S' := (State.idle s).run m (before ++ after)
    S.store.Frame m (Touched m (Named (before ++ after)) S'.log) S'.store ∧
    ∃ later, S'.log = later ++ S.log ∧
      (∀ name, name ∈ S'.store.schemas ↔ name ∈ S.store.schemas ∨
        ∃ e ∈ later, ∃ t owner, e.call = .ensureSchema t name owner) ∧
      S'.store.audits.length = S.store.audits.length + (later.map Event.rowsAdded).sum ∧
      ∀ id task, S'.tasks id = some task → S'.rowsAddedBy id ≤ task.job.mostRows := by
  intro S S'
  obtain ⟨later, hlater, hhistory⟩ := S.exists_history_run m after
  rw [← State.run_append] at hlater hhistory
  have hholds : (Contract.sparing m (Named (before ++ after))).Holds S' :=
    (sparing_sound m _).holds_run hs (fun _ _ => trivial) fun move hmove => by
      cases move with
      | start id p job => exact fun t ht => ⟨id, p, job, hmove, ht⟩
      | _ => trivial
  refine ⟨hhistory.frame fun e he => ?_, later, hlater, hhistory.mem_schemas_iff,
    hhistory.length_audits, fun id task hid => State.rowsAddedBy_le m s _ hid⟩
  -- what a task could touch when it made the call counts as touched in the end
  obtain ⟨newer, older, hsplit⟩ := List.append_of_mem (List.mem_append_left S.log he)
  rw [← hlater] at hsplit
  obtain ⟨-, job, inside, hguar⟩ := hholds.log newer e older hsplit
  refine hguar.mono fun t ht => ht.mono fun event hevent => ?_
  show event ∈ S'.log
  rw [show S'.log = newer ++ e :: older from hsplit]
  exact List.mem_append_right _ (List.mem_cons_of_mem e hevent)

/-- A pass and an attempt at work on one tenant; the attempt is dropped at its schema's creation. -/
theorem frame_run_halfway :
    let s := Store.halfway .operations ⟨3⟩ "ops_old"
    let before : List Move :=
      [.start 0 0 (.reconcile ⟨0⟩), .start 1 1 (.provision "app" ⟨3⟩ (some "Globex") "api")]
    let after : List Move := List.replicate 4 (.proceed 0 none) ++ [.proceed 1 none, .grant 1] ++
      List.replicate 3 (.proceed 1 none) ++ [.drop 1 true] ++ List.replicate 2 (.proceed 0 none)
    let S := (State.idle s).run .operations before
    let S' := (State.idle s).run .operations (before ++ after)
    s.Keyed ∧
      S.store.Frame .operations (Touched .operations (Named (before ++ after)) S'.log) S'.store ∧
      ∃ later, S'.log = later ++ S.log := by
  intro s before after S S'
  have hkeyed : s.Keyed := (Store.founded_halfway .operations ⟨3⟩ (by decide)).keyed
  have hrun := frame_run .operations s before after hkeyed
  exact ⟨hkeyed, hrun.1, hrun.2.imp fun _ hlater => hlater.1⟩

end Interleaving

end Tenancy
