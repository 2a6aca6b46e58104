import Tenancy.Proofs.CleanPass
import Tenancy.Proofs.IndependentRows
import Tenancy.Proofs.Staleness

/-!
# Passes in which calls fail

A pass whose calls fail can stop halfway at any row: the schema is registered while the row still says
that it is not. The next pass finds such a row again and confirms it, and all other rows are as a pass
without failing calls would have found them, or as it would have left them. So a pass in which no call
fails ends the same, whether or not a faulty one came before it. Only the times at which rows of the
registry were changed may be different; `Store.timeless` leaves them out.

## Key results

- `cleanPass_worked`, `cleanPass_workThrough`: a pass ends the same after work on rows that it finds,
  whichever calls of that work failed
- `timeless_cleanPass`: times do not matter to a pass
- `stalled_cleanPass_iff`, `cleanPass_again`: what a pass leaves are the conflicts it counts
- `faulty_pass_harmless`: all of it
-/

namespace Tenancy

/-! ## Stores without times -/

/-- A row of the registry without the time at which it was changed last. -/
def TenantRecord.timeless (r : TenantRecord) : TenantRecord := { r with modifiedAt := none }

/-- The stores without their time, and without the times at which rows of the registry were changed. -/
def Store.timeless (s : Store) : Store :=
  { s with tenants := s.tenants.map TenantRecord.timeless, clock := .ofNanos 0 }

namespace Store

theorem timeless_timeless (s : Store) : s.timeless.timeless = s.timeless := by
  simp [timeless, TenantRecord.timeless]

theorem tenant?_timeless (s : Store) (t : TenantId) :
    s.timeless.tenant? t = (s.tenant? t).map TenantRecord.timeless := by
  rw [tenant?, timeless, List.find?_map]
  rfl

theorem registered?_timeless (s : Store) (m : ServiceModule) (t : TenantId) :
    s.timeless.registered? m t = s.registered? m t := by
  rw [registered?, tenant?_timeless, registered?]
  cases s.tenant? t <;> rfl

theorem timeless_setModuleSchema (s : Store) (t : TenantId) (m : ServiceModule) (schema : String) :
    (s.timeless.setModuleSchema t m schema).timeless = (s.setModuleSchema t m schema).timeless := by
  have hrow : ∀ r : TenantRecord, (r.timeless.write t m schema s.timeless.clock).timeless =
      (r.write t m schema s.clock).timeless := by
    intro r
    by_cases ht : r.tenant = t
    · simp [TenantRecord.write, TenantRecord.withSchema, TenantRecord.timeless, ht]
    · simp [TenantRecord.write, TenantRecord.timeless, ht]
  have htenants : ((s.tenants.map TenantRecord.timeless).map
      (TenantRecord.write t m schema s.timeless.clock)).map TenantRecord.timeless =
      (s.tenants.map (TenantRecord.write t m schema s.clock)).map TenantRecord.timeless := by
    simp only [List.map_map, Function.comp_def, hrow]
  exact congrArg (fun tenants => { s with tenants, clock := .ofNanos 0 }) htenants

end Store

namespace Reconciliation

variable {m : ServiceModule} {e : Audit.Entry} {s s' : Store} {cutoff : Timestamp}
  {fails : Nat → Option DbError} {faults : Audit.Entry → Nat → Option DbError}
  {rows : List Audit.Entry} {report : Report} {result : Except DbError Outcome × Store}

/-! ## Passes in which no call fails -/

/-- What a pass in which no call fails reports, and the stores after it. -/
def cleanPass (m : ServiceModule) (cutoff : Timestamp) (s : Store) : Report × Store :=
  (entries m (s.stalledAudits m cutoff) {}).runOn s

theorem runOn_entries_cons (m : ServiceModule) (e : Audit.Entry) (rows : List Audit.Entry)
    (report : Report) (s : Store) :
    (entries m (e :: rows) report).runOn s =
      (entries m rows (report.count (.ok (verdict m e s)))).runOn (carryOut m e s (verdict m e s)) := by
  rw [entries, runOn_bind, runOn_entry]

/-- No fault for any row. -/
def faultless : Audit.Entry → Nat → Option DbError := fun _ _ => none

theorem workOn_faultless (m : ServiceModule) (state : Report × Store) (e : Audit.Entry) :
    workOn m faultless state e = (state.1.count (.ok (verdict m e state.2)),
      carryOut m e state.2 (verdict m e state.2)) := by
  have hrun : (entry m e).runWith (faultless e) 0 state.2 = _ := runOn_entry m e state.2
  rw [workOn, hrun]

theorem runOn_entries_eq (m : ServiceModule) (rows : List Audit.Entry) (report : Report) (s : Store) :
    (entries m rows report).runOn s = workThrough m faultless rows (report, s) := by
  induction rows generalizing report s with
  | nil => rfl
  | cons e rows ih =>
    rw [runOn_entries_cons, ih, workThrough_cons, workOn_faultless]

/-! ## Times do not matter -/

theorem verdict_timeless (m : ServiceModule) (e : Audit.Entry) (s : Store) :
    verdict m e s.timeless = verdict m e s := by
  have hrow : (s.timeless.tenant? e.tenant).isSome = (s.tenant? e.tenant).isSome := by
    rw [Store.tenant?_timeless, Option.isSome_map]
  simp only [verdict, Store.registered?_timeless, hrow]
  rfl

theorem timeless_carryOut (m : ServiceModule) (e : Audit.Entry) (s : Store) (outcome : Outcome) :
    (carryOut m e s.timeless outcome).timeless = (carryOut m e s outcome).timeless := by
  have hmarked : ∀ s s' : Store, s.timeless = s'.timeless → ∀ status error,
      (s.updateAudit (.entry e.id) status error).timeless =
        (s'.updateAudit (.entry e.id) status error).timeless := fun s s' h status error =>
    congrArg (·.updateAudit (.entry e.id) status error) h
  cases outcome with
  | repaired => exact hmarked _ _ (s.timeless_setModuleSchema e.tenant m e.schema) _ _
  | confirmed => exact hmarked _ _ s.timeless_timeless _ _
  | failed => exact hmarked _ _ s.timeless_timeless _ _
  | conflict => exact s.timeless_timeless

private theorem timeless_entries (h : s.timeless = s'.timeless) (rows : List Audit.Entry)
    (report : Report) :
    ((entries m rows report).runOn s).1 = ((entries m rows report).runOn s').1 ∧
      ((entries m rows report).runOn s).2.timeless =
        ((entries m rows report).runOn s').2.timeless := by
  induction rows generalizing s s' report with
  | nil => exact ⟨rfl, h⟩
  | cons e rows ih =>
    have hverdict : verdict m e s = verdict m e s' := by
      rw [← verdict_timeless, h, verdict_timeless]
    have hnext : (carryOut m e s (verdict m e s')).timeless =
        (carryOut m e s' (verdict m e s')).timeless := by
      rw [← timeless_carryOut, h, timeless_carryOut]
    rw [runOn_entries_cons, runOn_entries_cons, hverdict]
    exact ih hnext _

/-- Passes over stores that differ in times report the same and leave stores that differ in times. -/
theorem timeless_cleanPass (h : s.timeless = s'.timeless) (m : ServiceModule) (cutoff : Timestamp) :
    (cleanPass m cutoff s).1 = (cleanPass m cutoff s').1 ∧
      (cleanPass m cutoff s).2.timeless = (cleanPass m cutoff s').2.timeless := by
  have hfound : s.stalledAudits m cutoff = s'.stalledAudits m cutoff :=
    congrArg (·.stalledAudits m cutoff) h
  rw [cleanPass, cleanPass, hfound]
  exact timeless_entries h _ {}

/-! ## Rows that a pass finds -/

/-- A row that is found and the others that are found. -/
theorem perm_cons_stalledAudits (hs : s.Keyed) (he : e ∈ s.stalledAudits m cutoff) :
    (s.stalledAudits m cutoff).Perm (e :: (s.stalledAudits m cutoff).filter (·.id != e.id)) := by
  have hids := hs.nodup_stalledAudits (m := m) cutoff
  have hothers : (s.stalledAudits m cutoff).erase e =
      (s.stalledAudits m cutoff).filter (·.id != e.id) := by
    rw [(List.Nodup.of_map _ hids).erase_eq_filter]
    refine List.filter_congr fun row hrow => ?_
    rw [Bool.eq_iff_iff, bne_iff_ne, bne_iff_ne]
    have hinj := List.inj_on_of_nodup_map hids hrow he
    exact not_congr ⟨congrArg Audit.Entry.id, hinj⟩
  rw [← hothers]
  exact List.perm_cons_erase he

/-- A row that is found is found again after work on rows with other ids. -/
theorem mem_stalledAudits_workThrough (faults : Audit.Entry → Nat → Option DbError)
    {state : Report × Store} (hrows : ∀ row ∈ rows, e.id ≠ row.id)
    (he : e ∈ state.2.stalledAudits m cutoff) :
    e ∈ (workThrough m faults rows state).2.stalledAudits m cutoff := by
  refine workThrough_invariant (P := fun s => e ∈ s.stalledAudits m cutoff) ?_ he
  intro row hrow s result hmem hworked
  rcases hworked.stalledAudits_eq cutoff with hsame | hothers
  · rw [hsame]
    exact hmem
  · rw [hothers]
    exact List.mem_filter.mpr ⟨hmem, bne_iff_ne.mpr (hrows row hrow)⟩

/-- Work on rows brings no other row to be found. -/
theorem mem_of_mem_stalledAudits_workThrough {state : Report × Store}
    (he : e ∈ (workThrough m faults rows state).2.stalledAudits m cutoff) :
    e ∈ state.2.stalledAudits m cutoff := by
  refine workThrough_invariant (P := fun s => s.stalledAudits m cutoff ⊆ state.2.stalledAudits m cutoff)
    ?_ (List.Subset.refl _) he
  intro row _ s result hsubset hworked
  rcases hworked.stalledAudits_eq cutoff with hsame | hothers
  · rw [hsame]
    exact hsubset
  · rw [hothers]
    exact fun other hother => hsubset (List.mem_filter.mp hother).1

/-- The stores after work on rows do not depend on what was counted before. -/
theorem store_workThrough (m : ServiceModule) (faults : Audit.Entry → Nat → Option DbError)
    (rows : List Audit.Entry) (report report' : Report) (s : Store) :
    (workThrough m faults rows (report, s)).2 = (workThrough m faults rows (report', s)).2 := by
  induction rows generalizing report report' s with
  | nil => rfl
  | cons row rows ih => exact ih _ _ _

/-! ## A pass after work on a row -/

/-- A pass may begin with any of the rows that it finds. -/
private theorem cleanPass_eq_of_mem (hs : s.Keyed) (he : e ∈ s.stalledAudits m cutoff) :
    (cleanPass m cutoff s).2 =
      (workThrough m faultless ((s.stalledAudits m cutoff).filter (·.id != e.id))
        ({}, carryOut m e s (verdict m e s))).2 := by
  have hperm := (perm_cons_stalledAudits hs he).symm
  have horder := workThrough_perm m faultless (pairwise_stalledAudits hs m cutoff) hperm ({}, s)
  rw [cleanPass, runOn_entries_eq, ← horder, workThrough_cons, workOn_faultless]
  exact store_workThrough m faultless _ _ _ _

/-- After work on a row that a pass finds, it ends as it would have without that work, whichever calls
    of the work failed. -/
theorem cleanPass_worked (h : Worked fails m e s result) (hs : s.Keyed)
    (he : e ∈ s.stalledAudits m cutoff) (hname : Text.nonBlank? e.schema = some e.schema) :
    (cleanPass m cutoff result.2).2 = (cleanPass m cutoff s).2 := by
  have hfirst := cleanPass_eq_of_mem hs he
  cases h with
  | @done outcome hverdict =>
    by_cases houtcome : outcome = .conflict
    · rw [houtcome]
      rfl
    · -- the row is not found again, and the others are
      rw [hfirst, hverdict, ← stalledAudits_carryOut houtcome, ← runOn_entries_eq]
      rfl
  | stopped hfails => rfl
  | halfway hfails hverdict =>
    -- the row is found again and confirmed
    obtain ⟨hconfirmed, hsame⟩ := carryOut_halfway hverdict hname
    have hwritten : (s.setModuleSchema e.tenant m e.schema).Keyed :=
      hs.apply (.setModuleSchema e.tenant m e.schema)
    have hagain : e ∈ (s.setModuleSchema e.tenant m e.schema).stalledAudits m cutoff := he
    rw [hfirst, hverdict, ← hsame, cleanPass_eq_of_mem hwritten hagain, hconfirmed]
    rfl

/-- After work on rows that a pass finds, it ends as it would have without that work, whichever calls
    of the work failed. -/
theorem cleanPass_workThrough (hs : s.Keyed) (hfound : ∀ e ∈ rows, e ∈ s.stalledAudits m cutoff)
    (hrows : rows.Pairwise Apart) (hnames : ∀ e ∈ rows, Text.nonBlank? e.schema = some e.schema)
    (report : Report) :
    (cleanPass m cutoff (workThrough m faults rows (report, s)).2).2 = (cleanPass m cutoff s).2 := by
  induction rows generalizing s report with
  | nil => rfl
  | cons e rows ih =>
    obtain ⟨hothers, hrest⟩ := List.pairwise_cons.mp hrows
    have hworked := worked_entry (faults e) m e 0 s
    -- the other rows are found after the work on the first
    have hlater : ∀ row ∈ rows,
        row ∈ (workThrough m faults [e] (report, s)).2.stalledAudits m cutoff := by
      intro row hrow
      have hid : ∀ first ∈ [e], row.id ≠ first.id := fun first hfirst =>
        List.mem_singleton.mp hfirst ▸ (hothers row hrow).id.symm
      exact mem_stalledAudits_workThrough faults hid (hfound row (List.mem_cons_of_mem _ hrow))
    have hnext := ih (hworked.keyed hs) hlater hrest
      (fun row hrow => hnames row (List.mem_cons_of_mem _ hrow))
      (report.count ((entry m e).runWith (faults e) 0 s).1)
    exact hnext.trans (cleanPass_worked hworked hs (hfound e List.mem_cons_self)
      (hnames e List.mem_cons_self))

/-! ## A pass after a pass -/

/-- A pass may end with any of the rows that it finds, and comes to the same for it. -/
private theorem exists_cleanPass_eq (hs : s.Keyed) (he : e ∈ s.stalledAudits m cutoff) :
    ∃ others, verdict m e others = verdict m e s ∧
      (cleanPass m cutoff s).2 = carryOut m e others (verdict m e s) ∧
      e ∈ others.stalledAudits m cutoff := by
  obtain ⟨rows, hrows⟩ : ∃ rows, (s.stalledAudits m cutoff).filter (·.id != e.id) = rows := ⟨_, rfl⟩
  have hperm := perm_cons_stalledAudits hs he
  have hapart := pairwise_stalledAudits hs m cutoff
  rw [hrows] at hperm
  obtain ⟨hothers, -⟩ := List.pairwise_cons.mp (hperm.pairwise hapart fun h => symm h)
  have hverdict : verdict m e (workThrough m faultless rows ({}, s)).2 = verdict m e s := by
    have houtcome := outcome_workThrough m faultless (fun _ => none) hothers ({}, s)
    rw [← StoreProgram.runOn, ← StoreProgram.runOn, runOn_entry, runOn_entry] at houtcome
    exact Except.ok.inj houtcome
  have hfound : e ∈ (workThrough m faultless rows ({}, s)).2.stalledAudits m cutoff :=
    mem_stalledAudits_workThrough faultless (fun row hrow => (hothers row hrow).id) he
  refine ⟨_, hverdict, ?_, hfound⟩
  have hlast : (rows ++ [e]).Perm (s.stalledAudits m cutoff) :=
    (List.perm_append_singleton e rows).trans hperm.symm
  have horder := workThrough_perm m faultless hapart hlast ({}, s)
  rw [cleanPass, runOn_entries_eq, ← horder, workThrough_concat, workOn_faultless, hverdict]

/-- The rows that a second pass finds are the conflicts of the first, and are conflicts again. -/
theorem stalled_cleanPass_iff (hs : s.Keyed) :
    e ∈ (cleanPass m cutoff s).2.stalledAudits m cutoff ↔
      e ∈ s.stalledAudits m cutoff ∧ verdict m e s = .conflict := by
  constructor
  · intro he
    rw [cleanPass, runOn_entries_eq] at he
    have hbefore := mem_of_mem_stalledAudits_workThrough he
    refine ⟨hbefore, ?_⟩
    by_contra houtcome
    rw [← runOn_entries_eq, ← cleanPass] at he
    obtain ⟨others, -, hended, -⟩ := exists_cleanPass_eq hs hbefore
    rw [hended, stalledAudits_carryOut houtcome] at he
    exact bne_iff_ne.mp (List.mem_filter.mp he).2 rfl
  · rintro ⟨hbefore, hconflict⟩
    obtain ⟨others, -, hended, hfound⟩ := exists_cleanPass_eq hs hbefore
    rw [hended, hconflict]
    exact hfound

theorem verdict_cleanPass (hs : s.Keyed) (he : e ∈ s.stalledAudits m cutoff)
    (hconflict : verdict m e s = .conflict) : verdict m e (cleanPass m cutoff s).2 = .conflict := by
  obtain ⟨others, hverdict, hended, -⟩ := exists_cleanPass_eq hs he
  rw [hended, hconflict]
  exact hverdict.trans hconflict

/-- Rows that are all in conflict are counted, and change nothing. -/
private theorem runOn_entries_conflicts (hrows : ∀ e ∈ rows, verdict m e s = .conflict)
    (report : Report) :
    (entries m rows report).runOn s =
      ({ report with conflicts := report.conflicts + rows.length }, s) := by
  induction rows generalizing report with
  | nil => rfl
  | cons e rows ih =>
    have hrest := ih (fun row hrow => hrows row (List.mem_cons_of_mem _ hrow))
      (report.count (.ok .conflict))
    rw [runOn_entries_cons, hrows e List.mem_cons_self, List.length_cons, Nat.add_comm rows.length,
      ← Nat.add_assoc]
    exact hrest

/-- A pass counts the rows that are in conflict when it begins. -/
private theorem conflicts_workThrough (hrows : rows.Pairwise Apart) (s : Store) :
    (workThrough m faultless rows ({}, s)).1.conflicts =
      (rows.filter fun e => verdict m e s = .conflict).length := by
  have hrun : (fun e => ((entry m e).runWith (faultless e) 0 s).1) =
      fun e => .ok (verdict m e s) := funext fun e => congrArg Prod.fst (runOn_entry m e s)
  rw [report_eq_tally hrows, hrun]
  show (rows.map fun e => Except.ok (verdict m e s)).count (.ok .conflict) = _
  rw [List.count, List.countP_map, List.countP_eq_length_filter]
  congr 2
  funext e
  dsimp only [Function.comp_apply]
  cases verdict m e s <;> rfl

/-- A second pass changes nothing and reports the conflicts of the first, whenever it is made. -/
theorem cleanPass_again (hs : s.Keyed) (m : ServiceModule) (cutoff now : Timestamp) :
    cleanPass m cutoff { (cleanPass m cutoff s).2 with clock := now } =
      ({ conflicts := (cleanPass m cutoff s).1.conflicts },
        { (cleanPass m cutoff s).2 with clock := now }) := by
  obtain ⟨ended, hended⟩ : ∃ ended, cleanPass m cutoff s = ended := ⟨_, rfl⟩
  have hiff : ∀ e, e ∈ ended.2.stalledAudits m cutoff ↔
      e ∈ s.stalledAudits m cutoff ∧ verdict m e s = .conflict := fun e => by
    rw [← hended]
    exact stalled_cleanPass_iff hs
  have hkeyed : ended.2.Keyed := by
    rw [← hended, cleanPass, runOn_entries_eq]
    exact keyed_workThrough m faultless _ hs
  -- the rows that are found are as many as were counted
  have hperm : (ended.2.stalledAudits m cutoff).Perm
      ((s.stalledAudits m cutoff).filter fun e => verdict m e s = .conflict) := by
    have hafter := List.Nodup.of_map _ (hkeyed.nodup_stalledAudits (m := m) cutoff)
    have hbefore := List.Nodup.of_map _ (hs.nodup_stalledAudits (m := m) cutoff)
    refine (List.perm_ext_iff_of_nodup hafter (hbefore.filter _)).mpr fun e => ?_
    rw [hiff, List.mem_filter, decide_eq_true_eq]
  have hcounted : ended.1.conflicts = (ended.2.stalledAudits m cutoff).length := by
    rw [hperm.length_eq, ← hended, cleanPass, runOn_entries_eq,
      conflicts_workThrough (pairwise_stalledAudits hs m cutoff)]
  have hconflicts : ∀ e ∈ ended.2.stalledAudits m cutoff,
      verdict m e { ended.2 with clock := now } = .conflict := by
    intro e he
    obtain ⟨hbefore, hconflict⟩ := (hiff e).mp he
    rw [← hended]
    exact verdict_cleanPass hs hbefore hconflict
  have hagain := runOn_entries_conflicts hconflicts {}
  rw [hended, hcounted]
  exact hagain.trans (by rw [Nat.zero_add])

/-- After a pass in which any calls fail, a pass in which none fails and whose cutoff is not before
    that of the other ends as it would have without it. -/
theorem cleanPass_faulty (fails : Nat → Option DbError) {cutoff₁ cutoff₂ : Timestamp} (hs : s.Keyed)
    (hle : cutoff₁ ≤ cutoff₂)
    (hnames : ∀ e ∈ s.stalledAudits m cutoff₁, Text.nonBlank? e.schema = some e.schema) :
    (cleanPass m cutoff₂ ((pass m cutoff₁).runWith fails 0 s).2).2 = (cleanPass m cutoff₂ s).2 := by
  cases hquery : fails 0 with
  | some err =>
    rw [pass_eq_ask, StoreProgram.runWith, hquery]
    rfl
  | none =>
    -- a later cutoff finds more rows
    have hfound : ∀ e ∈ s.stalledAudits m cutoff₁, e ∈ s.stalledAudits m cutoff₂ := by
      intro e he
      obtain ⟨hlatest, hcreated, hbefore⟩ := hs.mem_stalledAudits_iff.mp he
      exact hs.mem_stalledAudits_iff.mpr ⟨hlatest, hcreated, hbefore.trans_le hle⟩
    obtain ⟨faults, hpass⟩ := exists_workThrough_eq_pass hs hquery m cutoff₁
    rw [hpass]
    exact cleanPass_workThrough hs hfound (pairwise_stalledAudits hs m cutoff₁) hnames {}

/-- A pass in which any calls fail, and then one in which none fails and whose cutoff is not before
    that of the first: apart from times, they end as the second alone would have, if the rows that the
    first finds have names that are not blank and have no white space around them. And a further pass
    changes nothing and reports nothing but the conflicts that the one before it reported. -/
theorem faulty_pass_harmless (m : ServiceModule) (fails : Nat → Option DbError)
    {cutoff₁ cutoff₂ : Timestamp} (now₁ now₂ : Timestamp) (hs : s.Keyed) (hle : cutoff₁ ≤ cutoff₂)
    (hnames : ∀ e ∈ s.stalledAudits m cutoff₁, Text.nonBlank? e.schema = some e.schema) :
    let faulty := ((pass m cutoff₁).runWith fails 0 { s with clock := now₁ }).2
    let twice := (pass m cutoff₂).runOn { faulty with clock := now₂ }
    let once := (pass m cutoff₂).runOn { s with clock := now₂ }
    twice.2.timeless = once.2.timeless ∧
      ∃ report report', once.1 = .ok report ∧ twice.1 = .ok report' ∧
        ∀ now, (pass m cutoff₂).runOn { once.2 with clock := now } =
          (.ok { conflicts := report.conflicts }, { once.2 with clock := now }) := by
  intro faulty twice once
  have hkeyed : ∀ now, { s with clock := now }.Keyed := fun _ => ⟨hs.nodup, hs.le_last⟩
  have htwice : twice = (.ok (cleanPass m cutoff₂ { faulty with clock := now₂ }).1,
      (cleanPass m cutoff₂ { faulty with clock := now₂ }).2) := runOn_pass m cutoff₂ _
  have honce : once = (.ok (cleanPass m cutoff₂ { s with clock := now₂ }).1,
      (cleanPass m cutoff₂ { s with clock := now₂ }).2) := runOn_pass m cutoff₂ _
  have htimes : ∀ (s : Store) (now now' : Timestamp),
      ({ s with clock := now } : Store).timeless = ({ s with clock := now' } : Store).timeless :=
    fun _ _ _ => rfl
  rw [htwice, honce]
  refine ⟨?_, _, _, rfl, rfl, fun now => ?_⟩
  · calc (cleanPass m cutoff₂ { faulty with clock := now₂ }).2.timeless
      _ = (cleanPass m cutoff₂ faulty).2.timeless :=
          (timeless_cleanPass (htimes faulty now₂ faulty.clock) m cutoff₂).2
      _ = (cleanPass m cutoff₂ { s with clock := now₁ }).2.timeless := by
          rw [cleanPass_faulty fails (hkeyed now₁) hle hnames]
      _ = (cleanPass m cutoff₂ { s with clock := now₂ }).2.timeless :=
          (timeless_cleanPass (htimes s now₁ now₂) m cutoff₂).2
  · rw [runOn_pass]
    have hagain := cleanPass_again (hkeyed now₂) m cutoff₂ now
    exact congrArg (fun ended : Report × Store => (Except.ok ended.1, ended.2)) hagain

/-- Five tenants with a stalled row each. The schema of the third does not exist, and the registry
    names the schema of the second and another one for the fourth. -/
def assorted : Store where
  tenants :=
    [.unnamed .operations ⟨1⟩,
      { TenantRecord.unnamed .operations ⟨2⟩ with schemas := { operations := some " ops_acme " } },
      .unnamed .operations ⟨3⟩,
      { TenantRecord.unnamed .operations ⟨4⟩ with schemas := { operations := some "ops_other" } },
      .unnamed .operations ⟨5⟩]
  audits :=
    [stalledRow .operations 1 ⟨1⟩ "ops_globex", stalledRow .operations 2 ⟨2⟩ "ops_acme",
      stalledRow .operations 3 ⟨3⟩ "ops_gone", stalledRow .operations 4 ⟨4⟩ "ops_initech",
      stalledRow .operations 5 ⟨5⟩ "ops_hooli"]
  lastAudit := 5
  schemas := ["ops_globex", "ops_acme", "ops_initech", "ops_hooli", "ops_other"]
  clock := .ofNanos 1

/-- The row of the first tenant cannot be marked. The pass leaves a name that is registered and a row
    that says that it is not, and the next pass ends as if there had been no failure; the one after it
    reports the conflict of the fourth tenant. -/
theorem faulty_pass_harmless_assorted :
    let cutoff : Timestamp := .ofNanos 1
    let fails : Nat → Option DbError := fun i => if i = 4 then some .poolTimedOut else none
    let faulty := ((pass .operations cutoff).runWith fails 0
      { assorted with clock := .ofNanos 2 }).2
    let twice := (pass .operations cutoff).runOn { faulty with clock := .ofNanos 3 }
    let once := (pass .operations cutoff).runOn { assorted with clock := .ofNanos 3 }
    assorted.Keyed ∧ cutoff ≤ cutoff ∧
      (∀ e ∈ assorted.stalledAudits .operations cutoff, Text.nonBlank? e.schema = some e.schema) ∧
      faulty.registered? .operations ⟨1⟩ = some "ops_globex" ∧
      stalledRow .operations 1 ⟨1⟩ "ops_globex" ∈ faulty.audits ∧
      twice.2.timeless = once.2.timeless ∧
      ((pass .operations cutoff).runOn { once.2 with clock := .ofNanos 4 }).1 =
        .ok { conflicts := 1 } := by
  intro cutoff fails faulty twice once
  have hkeyed : assorted.Keyed := ⟨by decide, by decide⟩
  have hle : cutoff ≤ cutoff := by decide
  have hnames : ∀ e ∈ assorted.stalledAudits .operations cutoff,
      Text.nonBlank? e.schema = some e.schema := by decide
  obtain ⟨hsame, report, report', hreport, -, hagain⟩ :=
    faulty_pass_harmless .operations fails (.ofNanos 2) (.ofNanos 3) hkeyed hle hnames
  have hconflicts : report.conflicts = 1 := by
    have hcounted : once.1.toOption.map (·.conflicts) = some 1 := by decide
    rw [hreport] at hcounted
    exact Option.some.inj hcounted
  refine ⟨hkeyed, hle, hnames, by decide, by decide, hsame, ?_⟩
  rw [hagain (.ofNanos 4), hconflicts]

end Reconciliation

end Tenancy
