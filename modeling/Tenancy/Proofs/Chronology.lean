import Tenancy.Proofs.FoundRows
import Tenancy.Proofs.Interleaving
import Tenancy.Simulation.World

/-!
# Logs in the order of time

While the clock is not set back, rows enter the log in the order of time, and the order of their ids is
that of their ages. The newest attempt for a tenant is then the one whose row was added last, which is
what a simulated log goes by, and a simulation answers every call as the stores do.

## Key results

- `Store.Chronological.apply`, `Interleaving.chronological_run`: logs stay in the order of time
- `Simulation.answer_eq_apply`: what a simulation answers
- `Simulation.World.chronological_perform`, `Simulation.World.chronological_advanceClock`: a simulated
  log stays in the order of time
-/

namespace Tenancy

namespace Store

variable {s : Store} {m : ServiceModule} {e other : Audit.Entry}

/-- A log of attempts whose ids and times go up along it, and none of them past the last id or the time
    that it is. -/
structure Chronological (s : Store) : Prop where
  keyed : s.Keyed
  order : s.audits.Pairwise fun e other => e.id < other.id ∧ e.createdAt ≤ other.createdAt
  action : ∀ e ∈ s.audits, e.action = Audit.provisionAction
  le_clock : ∀ e ∈ s.audits, e.createdAt ≤ s.clock

theorem clock_apply (s : Store) (c : StoreCall) : (s.apply c).2.clock = s.clock := by
  cases c with
  | ensureSchema t schema owner =>
    simp only [apply, addSchema]
    split <;> rfl
  | _ => rfl

namespace Chronological

theorem of_audits_eq_nil (h : s.audits = []) : s.Chronological := by
  refine ⟨keyed_of_audits_eq_nil h, ?_, ?_, ?_⟩ <;> simp [h]

/-- Time passes. -/
theorem tick (h : s.Chronological) {now : Timestamp} (hnow : s.clock ≤ now) :
    { s with clock := now }.Chronological where
  keyed := ⟨h.keyed.nodup, h.keyed.le_last⟩
  order := h.order
  action := h.action
  le_clock e he := (h.le_clock e he).trans hnow

theorem apply (h : s.Chronological) (c : StoreCall) : (s.apply c).2.Chronological where
  keyed := h.keyed.apply c
  order := by
    cases c with
    | insertAudit new =>
      refine List.pairwise_append.mpr ⟨h.order, List.pairwise_singleton _ _, fun e he row hrow => ?_⟩
      rw [List.mem_singleton.mp hrow]
      exact ⟨Int.lt_add_one_of_le (h.keyed.le_last e he), h.le_clock e he⟩
    | updateAudit target status error =>
      have hlater := target.continues_update status error
      refine List.pairwise_map.mpr (h.order.imp fun {e other} horder => ?_)
      show (target.update status error e).id < (target.update status error other).id ∧
        (target.update status error e).createdAt ≤ (target.update status error other).createdAt
      rwa [(hlater e).id_eq, (hlater other).id_eq, (hlater e).createdAt_eq, (hlater other).createdAt_eq]
    | ensureSchema t schema owner =>
      simp only [Store.apply, addSchema]
      split <;> exact h.order
    | _ => exact h.order
  action e he := by
    rcases mem_audits_apply he with ⟨old, hold, hlater⟩ | ⟨new, rfl, rfl⟩
    · exact hlater.action_eq.trans (h.action old hold)
    · rfl
  le_clock e he := by
    rw [clock_apply]
    rcases mem_audits_apply he with ⟨old, hold, hlater⟩ | ⟨new, rfl, rfl⟩
    · exact hlater.createdAt_eq.trans_le (h.le_clock old hold)
    · exact le_rfl

/-- Of two rows of the log, the one with the lower id is the older one. -/
theorem isOlder_eq (h : s.Chronological) (he : e ∈ s.audits) (hother : other ∈ s.audits) :
    e.isOlder other = decide (e.id < other.id) := by
  -- `order` speaks of rows by where they stand; here only the ids are known
  have htimes : ∀ e ∈ s.audits, ∀ other ∈ s.audits, e.id < other.id →
      e.createdAt ≤ other.createdAt := by
    refine fun e he other hother => List.Pairwise.forall_of_forall_of_flip
      (R := fun e other : Audit.Entry => e.id < other.id → e.createdAt ≤ other.createdAt)
      (fun _ _ _ => le_rfl) (h.order.imp fun horder _ => horder.2) ?_ he hother
    exact h.order.imp fun horder hid => absurd horder.1 hid.not_gt
  rw [Bool.eq_iff_iff, Audit.Entry.isOlder_iff, decide_eq_true_eq]
  constructor
  · rintro (hbefore | ⟨-, hid⟩)
    · -- a higher id would mean a later time, and the same id the same row
      by_contra hid
      rcases (Int.not_lt.mp hid).lt_or_eq with hgt | hsame
      · exact (htimes other hother e he hgt).not_gt hbefore
      · rw [h.keyed.eq_of_id_eq hother he hsame] at hbefore
        exact lt_irrefl _ hbefore
    · exact hid
  · exact fun hid => (htimes e he other hother hid).lt_or_eq.imp_right fun hsame => ⟨hsame, hid⟩

theorem attemptsOf_eq (h : s.Chronological) (m : ServiceModule) : s.attemptsOf m = s.auditsOf m :=
  List.filter_eq_self.mpr fun e he => beq_iff_eq.mpr (h.action e (mem_auditsOf.mp he).1)

theorem byTime_attemptsOf (h : s.Chronological) (m : ServiceModule) :
    byTime (s.attemptsOf m) = s.auditsOf m := by
  rw [h.attemptsOf_eq]
  exact byTime_eq_self ((h.order.imp And.right).sublist List.filter_sublist)

end Chronological

end Store

namespace Interleaving

variable {S : State} {m : ServiceModule} {move : Move} {moves : List Move}

/-- The clock is not set back on the way. -/
def Forward (m : ServiceModule) : State → List Move → Prop
  | _, [] => True
  | S, move :: moves =>
    (∀ now, move = .tick now → S.store.clock ≤ now) ∧ Forward m (S.step m move) moves

theorem chronological_step (h : S.store.Chronological)
    (hforward : ∀ now, move = .tick now → S.store.clock ≤ now) :
    (S.step m move).store.Chronological := by
  cases S.step_change m move with
  | ticked now hmove hstore hlog htasks =>
    rw [hstore]
    exact h.tick (hforward now hmove)
  | answered id task c k r v hid hlive hrest hanswer hstore hlog htasks =>
    rw [hstore]
    cases hanswer with
    | applied c => exact h.apply c
    | _ => exact h
  | droppedApplied id task c k hid hlive hrest hstore hlog htasks =>
    rw [hstore]
    exact h.apply c
  | still hstore hlog htasks => exact hstore ▸ h
  | started id p job hmove hnew hstore hlog htasks => exact hstore ▸ h
  | dropped id task hid hstore hlog htasks => exact hstore ▸ h

/-- Tasks leave a log in the order of time, whatever they do. -/
theorem chronological_run (h : S.store.Chronological) (hforward : Forward m S moves) :
    (S.run m moves).store.Chronological := by
  induction moves generalizing S with
  | nil => exact h
  | cons move moves ih => exact ih (chronological_step h hforward.1) hforward.2

end Interleaving

namespace Simulation

variable {s : Store}

/-- The rows that were added last are the newest ones. -/
theorem lastAdded_eq (h : s.Chronological) (m : ServiceModule) :
    lastAdded s m = (s.auditsOf m).filter (Store.isNewestIn (s.auditsOf m)) := by
  refine List.filter_congr fun e he => ?_
  rw [Store.isNewestIn, Bool.eq_iff_iff, List.all_eq_true, List.all_eq_true]
  refine forall₂_congr fun other hother => ?_
  rw [h.isOlder_eq (Store.mem_auditsOf.mp he).1 (Store.mem_auditsOf.mp hother).1]
  simp only [← decide_not, Int.not_lt]

/-- A simulation answers as the stores do, and leaves the same, while the log is in the order of time. -/
theorem answer_eq_apply (h : s.Chronological) (c : StoreCall) : answer s c = s.apply c := by
  cases c with
  | latestAudit t m =>
    have hfound : (lastAdded s m).find? (·.tenant == t) = s.latestAudit t m := by
      rw [lastAdded_eq h, Store.latestAudit, h.attemptsOf_eq, List.find?_filter, List.find?_filter]
      simp only [and_comm]
    rw [answer, hfound, Store.apply]
  | stalledAudits m cutoff =>
    have hfound : (lastAdded s m).filter (fun e => e.status == .schemaCreated &&
        decide (e.createdAt < cutoff)) = s.stalledAudits m cutoff := by
      -- the order of time is that of the log, so nothing is left to sort
      rw [lastAdded_eq h, Store.stalledAudits, h.byTime_attemptsOf, h.attemptsOf_eq,
        List.filter_filter]
      simp only [Bool.and_comm, Bool.and_assoc, Bool.and_left_comm]
    rw [answer, hfound, Store.apply]
  | _ => rfl

namespace World

private theorem store_of_nextFault {w w' : World} {c : ServiceCall} {fault : Option DbError}
    (h : w.nextFault c = (fault, w')) : w'.store = w.store := by
  unfold nextFault at h
  split at h
  · cases h
    rfl
  · dsimp only at h
    split at h <;> cases h <;> rfl

/-- No call takes the log of a simulated world out of the order of time. -/
theorem chronological_perform {w : World} (h : w.store.Chronological) (id : TaskId)
    (c : ServiceCall) : (w.perform id c).2.store.Chronological := by
  unfold perform
  split
  · next c =>
    split
    · next hfault => exact store_of_nextFault hfault ▸ h
    · next hfault =>
      dsimp only
      rw [store_of_nextFault hfault, answer_eq_apply h]
      exact h.apply c
  · split <;> next hfault => exact store_of_nextFault hfault ▸ h
  · split <;> next hfault => exact store_of_nextFault hfault ▸ h
  · exact h
  · split <;> next hfault => exact store_of_nextFault hfault ▸ h
  all_goals exact h

/-- The clock of a simulated world is not set back. -/
theorem chronological_advanceClock {w : World} (h : w.store.Chronological) (d : Duration) :
    (w.advanceClock d).store.Chronological :=
  h.tick (Timestamp.le_add _ d)

end World

end Simulation

end Tenancy
