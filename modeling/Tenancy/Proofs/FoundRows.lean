import Mathlib.Data.List.Sort
import Tenancy.Proofs.StoreEffect
import Tenancy.Proofs.TimeOrder

/-!
# Which rows of the log are found

Of the attempts for a tenant, the newest is the one created last and, of those created at the same time,
the one with the greatest id. A query for stalled rows looks at newest attempts alone. It finds at most
one row for each tenant and gives them in the order in which they were created.

## Key results

- `Keyed.mem_latestAudit_iff`, `Keyed.mem_stalledAudits_iff`: the rows that are found
- `Keyed.nodup_tenants_stalledAudits`, `sorted_stalledAudits`: one for a tenant, in the order of time
- `stalledAudits_sublist`: an earlier cutoff finds no other rows
- `stalledAudits_updateAudit`: what is found after a row was marked
-/

namespace Tenancy

/-! ## The age of rows -/

namespace Audit.Entry

variable {e e' other other' : Audit.Entry}

theorem isOlder_iff :
    e.isOlder other = true ↔
      e.createdAt < other.createdAt ∨ e.createdAt = other.createdAt ∧ e.id < other.id := by
  simp only [isOlder, Bool.or_eq_true, Bool.and_eq_true, decide_eq_true_eq, beq_iff_eq]

theorem isOlder_eq_false_iff :
    e.isOlder other = false ↔
      other.createdAt < e.createdAt ∨ other.createdAt = e.createdAt ∧ other.id ≤ e.id := by
  rw [← Bool.not_eq_true, isOlder_iff]
  rcases lt_trichotomy e.createdAt other.createdAt with hlt | heq | hgt
  · simp [hlt, hlt.not_gt, hlt.ne']
  · simp [heq]
  · simp [hgt, hgt.not_gt, hgt.ne']

/-- Two rows of which neither is older have the same id. -/
theorem id_eq_of_isOlder_eq_false (h : e.isOlder other = false) (h' : other.isOlder e = false) :
    e.id = other.id := by
  rw [isOlder_eq_false_iff] at h h'
  rcases h with hbefore | ⟨hsame, hle⟩ <;> rcases h' with hafter | ⟨hsame', hge⟩
  · exact absurd hbefore hafter.not_gt
  · exact absurd hsame' hbefore.ne'
  · exact absurd hsame hafter.ne'
  · exact Int.le_antisymm hge hle

/-- Later forms of rows are as old as the rows. -/
theorem Continues.isOlder_eq (h : e.Continues e') (h' : other.Continues other') :
    e'.isOlder other' = e.isOlder other := by
  simp only [isOlder, h.createdAt_eq, h.id_eq, h'.createdAt_eq, h'.id_eq]

end Audit.Entry

namespace Store

variable {s : Store} {m : ServiceModule} {t : TenantId} {e : Audit.Entry} {cutoff : Timestamp}
  {rows : List Audit.Entry}

/-! ## Attempts -/

theorem mem_attemptsOf :
    e ∈ s.attemptsOf m ↔
      e ∈ s.audits ∧ e.moduleName = m.name ∧ e.action = Audit.provisionAction := by
  simp [attemptsOf, mem_auditsOf, and_assoc]

theorem mem_auditsOf_of_mem_attemptsOf (h : e ∈ s.attemptsOf m) : e ∈ s.auditsOf m :=
  (List.mem_filter.mp h).1

/-- A row is an attempt if and only if a later form of it is. -/
theorem mem_attemptsOf_iff_of_continues {s' : Store} {e' : Audit.Entry} (h : e.Continues e')
    (he : e ∈ s.audits) (he' : e' ∈ s'.audits) : e' ∈ s'.attemptsOf m ↔ e ∈ s.attemptsOf m := by
  simp only [mem_attemptsOf, h.moduleName_eq, h.action_eq, he, he']

theorem attemptsOf_updateAudit (s : Store) (m : ServiceModule) (target : Audit.Target)
    (status : Audit.Status) (error : Option String) :
    (s.updateAudit target status error).attemptsOf m =
      (s.attemptsOf m).map (target.update status error) := by
  rw [attemptsOf, auditsOf_updateAudit, List.filter_map, attemptsOf]
  congr 2
  funext e
  rw [Function.comp_apply, (target.continues_update status error e).action_eq]

theorem isNewestIn_iff :
    isNewestIn rows e = true ↔ ∀ other ∈ rows, other.tenant = e.tenant → e.isOlder other = false := by
  simp [isNewestIn, imp_iff_not_or]

theorem isNewestIn_update (rows : List Audit.Entry) (target : Audit.Target)
    (status : Audit.Status) (error : Option String) (e : Audit.Entry) :
    isNewestIn (rows.map (target.update status error)) (target.update status error e) =
      isNewestIn rows e := by
  have hlater := target.continues_update status error
  simp only [isNewestIn, List.all_map, Function.comp_def, (hlater _).tenant_eq,
    (hlater e).isOlder_eq (hlater _)]

/-! ## The newest row of a tenant -/

theorem of_mem_latestAudit (h : e ∈ s.latestAudit t m) :
    e ∈ s.attemptsOf m ∧ e.tenant = t ∧ isNewestIn (s.attemptsOf m) e = true := by
  have hmem := List.mem_of_find?_eq_some h
  rw [List.mem_filter, beq_iff_eq] at hmem
  exact ⟨hmem.1, hmem.2, List.find?_some h⟩

/-- The newest row of a tenant is the one that is older than no other row of the tenant. -/
theorem Keyed.mem_latestAudit_iff (h : s.Keyed) :
    e ∈ s.latestAudit t m ↔
      e ∈ s.attemptsOf m ∧ e.tenant = t ∧ isNewestIn (s.attemptsOf m) e = true := by
  refine ⟨of_mem_latestAudit, ?_⟩
  rintro ⟨he, rfl, hnewest⟩
  cases hfound : s.latestAudit e.tenant m with
  | none =>
    have hnone := List.find?_eq_none.mp hfound e (List.mem_filter.mpr ⟨he, beq_self_eq_true _⟩)
    exact absurd hnewest hnone
  | some e' =>
    -- neither of the two is older, so they have the same id
    obtain ⟨he', htenant, hnewest'⟩ := of_mem_latestAudit hfound
    have hid := Audit.Entry.id_eq_of_isOlder_eq_false
      (isNewestIn_iff.mp hnewest' e he htenant.symm) (isNewestIn_iff.mp hnewest e' he' htenant)
    have hsame := h.eq_of_id_eq (mem_attemptsOf.mp he').1 (mem_attemptsOf.mp he).1 hid
    exact congrArg some hsame

/-! ## Rows in the order of time -/

/-- The order in which rows were created, as far as their times tell. -/
private abbrev NotAfter (e other : Audit.Entry) : Prop := e.createdAt ≤ other.createdAt

private instance : Std.Total NotAfter := ⟨fun e other => le_total e.createdAt other.createdAt⟩
private instance : IsTrans Audit.Entry NotAfter := ⟨fun _ _ _ => le_trans⟩

private theorem byTime_eq_insertionSort (rows : List Audit.Entry) :
    byTime rows = rows.insertionSort NotAfter := by
  have hinsert : ∀ (e : Audit.Entry) (rows : List Audit.Entry),
      insertByTime e rows = rows.orderedInsert NotAfter e := by
    intro e rows
    induction rows with
    | nil => rfl
    | cons other rest ih => rw [insertByTime, List.orderedInsert_cons, ih]
  induction rows with
  | nil => rfl
  | cons e rows ih =>
    rw [List.insertionSort_cons, ← ih, ← hinsert]
    rfl

theorem byTime_perm (rows : List Audit.Entry) : (byTime rows).Perm rows := by
  rw [byTime_eq_insertionSort]
  exact List.perm_insertionSort NotAfter rows

theorem sorted_byTime (rows : List Audit.Entry) :
    (byTime rows).Pairwise fun e other => e.createdAt ≤ other.createdAt := by
  rw [byTime_eq_insertionSort]
  exact List.pairwise_insertionSort NotAfter rows

/-- Rows that stand in the order of time stay where they are. -/
theorem byTime_eq_self (h : rows.Pairwise fun e other => e.createdAt ≤ other.createdAt) :
    byTime rows = rows := by
  rw [byTime_eq_insertionSort]
  exact List.Pairwise.insertionSort_eq h

theorem byTime_update (rows : List Audit.Entry) (target : Audit.Target) (status : Audit.Status)
    (error : Option String) :
    byTime (rows.map (target.update status error)) =
      (byTime rows).map (target.update status error) := by
  rw [byTime_eq_insertionSort, byTime_eq_insertionSort]
  refine (List.map_insertionSort NotAfter NotAfter _ rows fun e _ other _ => ?_).symm
  rw [NotAfter, NotAfter, (target.continues_update status error e).createdAt_eq,
    (target.continues_update status error other).createdAt_eq]

/-! ## Stalled rows -/

/-- Stalled rows are attempts, for the module that was asked about. -/
theorem mem_attemptsOf_of_mem_stalledAudits (h : e ∈ s.stalledAudits m cutoff) :
    e ∈ s.attemptsOf m :=
  (byTime_perm _).subset (List.mem_filter.mp h).1

theorem mem_of_mem_stalledAudits (h : e ∈ s.stalledAudits m cutoff) :
    e ∈ s.audits ∧ e.moduleName = m.name :=
  mem_auditsOf.mp (mem_auditsOf_of_mem_attemptsOf (mem_attemptsOf_of_mem_stalledAudits h))

theorem status_of_mem_stalledAudits (h : e ∈ s.stalledAudits m cutoff) :
    e.status = .schemaCreated := by
  simp only [stalledAudits, List.mem_filter, Bool.and_eq_true, beq_iff_eq] at h
  exact h.2.1.2

theorem isNewestIn_of_mem_stalledAudits (h : e ∈ s.stalledAudits m cutoff) :
    isNewestIn (s.attemptsOf m) e = true := by
  simp only [stalledAudits, List.mem_filter, Bool.and_eq_true] at h
  exact h.2.1.1

/-- A pass looks at newest rows that stopped before registration and are older than the cutoff. -/
theorem Keyed.mem_stalledAudits_iff (h : s.Keyed) :
    e ∈ s.stalledAudits m cutoff ↔
      e ∈ s.latestAudit e.tenant m ∧ e.status = .schemaCreated ∧ e.createdAt < cutoff := by
  simp [stalledAudits, h.mem_latestAudit_iff, (byTime_perm _).mem_iff, and_assoc]

/-- The stalled rows are in the order in which they were created. -/
theorem sorted_stalledAudits (s : Store) (m : ServiceModule) (cutoff : Timestamp) :
    (s.stalledAudits m cutoff).Pairwise fun e other => e.createdAt ≤ other.createdAt :=
  (sorted_byTime _).sublist List.filter_sublist

/-- The rows from before an earlier cutoff are among those from before a later one. -/
theorem stalledAudits_sublist {earlier later : Timestamp} (h : earlier ≤ later) (s : Store)
    (m : ServiceModule) : (s.stalledAudits m earlier).Sublist (s.stalledAudits m later) := by
  rw [stalledAudits, stalledAudits]
  refine List.monotone_filter_right _ fun e hfound => ?_
  simp only [Bool.and_eq_true, decide_eq_true_eq] at hfound ⊢
  exact ⟨hfound.1, hfound.2.trans_le h⟩

/-- The stalled rows have different ids. -/
theorem Keyed.nodup_stalledAudits (h : s.Keyed) (cutoff : Timestamp) :
    ((s.stalledAudits m cutoff).map (·.id)).Nodup := by
  have hrows : ((byTime (s.attemptsOf m)).map (·.id)).Nodup :=
    ((byTime_perm _).map _).nodup_iff.mpr
      (h.nodup.sublist ((List.filter_sublist.trans List.filter_sublist).map _))
  exact hrows.sublist (List.filter_sublist.map _)

/-- The stalled rows are those of different tenants. -/
theorem Keyed.nodup_tenants_stalledAudits (h : s.Keyed) (m : ServiceModule) (cutoff : Timestamp) :
    ((s.stalledAudits m cutoff).map (·.tenant)).Nodup := by
  refine List.pairwise_map.mpr ((List.pairwise_map.mp (h.nodup_stalledAudits cutoff)).imp_of_mem ?_)
  intro e e' he he' hid htenant
  -- a tenant has one newest row
  have hlatest := (h.mem_stalledAudits_iff.mp he).1
  rw [htenant] at hlatest
  have hsame := Option.some.inj (hlatest.symm.trans (h.mem_stalledAudits_iff.mp he').1)
  exact hid (congrArg (·.id) hsame)

/-- A row that leaves the state a pass looks for is not found any more. -/
theorem stalledAudits_updateAudit (s : Store) (m : ServiceModule) (cutoff : Timestamp) (id : Int)
    {status : Audit.Status} (error : Option String) (hstatus : status ≠ .schemaCreated) :
    (s.updateAudit (.entry id) status error).stalledAudits m cutoff =
      (s.stalledAudits m cutoff).filter (·.id != id) := by
  have hother : ∀ e : Audit.Entry, e.id ≠ id → (Audit.Target.entry id).update status error e = e :=
    fun e he => if_neg (by simpa [Audit.Target.covers] using he)
  have hfound : ∀ e, (isNewestIn (s.attemptsOf m) e &&
      ((Audit.Target.entry id).update status error e).status == .schemaCreated &&
      decide (((Audit.Target.entry id).update status error e).createdAt < cutoff)) =
      (e.id != id && (isNewestIn (s.attemptsOf m) e && e.status == .schemaCreated &&
        decide (e.createdAt < cutoff))) := by
    intro e
    by_cases hid : e.id = id
    · have hmarked : (Audit.Target.entry id).update status error e = e.mark status error :=
        if_pos (by simpa [Audit.Target.covers] using hid)
      simp [hmarked, Audit.Entry.mark, beq_false_of_ne hstatus, hid]
    · simp [hother e hid, hid]
  -- marking changes no row's age, so the same rows are newest, in the same order
  rw [stalledAudits, attemptsOf_updateAudit, byTime_update, List.filter_map, stalledAudits,
    List.filter_filter]
  simp only [Function.comp_def, isNewestIn_update, hfound]
  refine (List.map_congr_left fun e he => ?_).trans (List.map_id _)
  have hid := (List.mem_filter.mp he).2
  simp only [Bool.and_eq_true, bne_iff_ne] at hid
  exact hother e hid.1

end Store

end Tenancy
