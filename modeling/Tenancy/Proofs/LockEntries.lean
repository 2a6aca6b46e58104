import Tenancy.Proofs.Lock

/-!
# Entries of a lock table

The first caller for a tenant makes the tenant's entry. A caller that has given its mutex up takes the
entry out if the table's reference to its mutex is the only one. Between the two steps of a caller
that leaves, others may come and go, so the entry that it looks after may be a newer one than that of
its own mutex.

No entry is taken out too early. Every table that steps lead to is `Table.SingleMutex`: who refers to a
mutex refers to the one under its tenant, and an entry goes only when nobody does.

An entry may be left behind, though. A caller that is dropped while it waits does not look after the
entry, and if all others are gone by then, nobody will before the next caller for the tenant.
`Run` keeps the callers that went, latest first, and tells by them which entries are left.

## Key results

- `Step.entry?_of_some`: what a step may do to an entry
- `Table.Reachable.one_live_mutex`: one mutex for a tenant, and its entry stays while it is referred to
- `Table.Reachable.entry_left_iff`: the entry of a tenant without callers is left if and only if the
  last of them to go was dropped while it waited
-/

namespace Tenancy.Lock

open Relation (ReflTransGen)

variable {T T' : Table} {id : CallerId} {c d : Caller} {t u : TenantId} {mutex : MutexId}

namespace Table

/-! ## Mutexes of different tenants -/

/-- Mutexes are numbered as they are made. -/
structure Numbered (T : Table) : Prop where
  nodup : (T.entries.map (·.2)).Nodup
  lt_next : ∀ e ∈ T.entries, e.2 < T.nextMutex

private theorem mem_of_entry?_eq_some (h : T.entry? t = some mutex) : (t, mutex) ∈ T.entries := by
  obtain ⟨before, after, hentries, -⟩ := List.lookup_eq_some_iff.mp h
  rw [hentries]
  exact List.mem_append_right _ List.mem_cons_self

namespace Numbered

theorem empty : Numbered {} := ⟨List.nodup_nil, nofun⟩

theorem of_sublist (h : T.Numbered) (hsub : T'.entries.Sublist T.entries)
    (hnext : T'.nextMutex = T.nextMutex) : T'.Numbered where
  nodup := h.nodup.sublist (hsub.map _)
  lt_next e he := by
    rw [hnext]
    exact h.lt_next e (hsub.mem he)

/-- No two tenants share a mutex. -/
theorem eq_of_entry_eq_some (h : T.Numbered) (ht : T.entry? t = some mutex)
    (hu : T.entry? u = some mutex) : t = u :=
  congrArg Prod.fst (List.inj_on_of_nodup_map h.nodup (mem_of_entry?_eq_some ht)
    (mem_of_entry?_eq_some hu) rfl)

theorem arrive (h : T.Numbered) (id : CallerId) (t : TenantId) : (T.arrive id t).Numbered := by
  unfold Table.arrive
  split
  · exact ⟨h.nodup, h.lt_next⟩
  · constructor
    · -- the mutex that is made has a number above all others
      refine List.nodup_cons.mpr ⟨fun hmem => ?_, h.nodup⟩
      obtain ⟨e, he, heq⟩ := List.mem_map.mp hmem
      exact absurd heq (Nat.ne_of_lt (h.lt_next e he))
    · intro e he
      rcases List.mem_cons.mp he with rfl | hold
      · exact Nat.lt_succ_self _
      · exact Nat.lt_succ_of_lt (h.lt_next e hold)

theorem leave (h : T.Numbered) (c : Caller) : (T.leave c).Numbered := by
  unfold Table.leave
  dsimp only
  split
  · split
    · exact ⟨h.nodup, h.lt_next⟩
    · exact h.of_sublist List.filter_sublist rfl
  · exact ⟨h.nodup, h.lt_next⟩

end Numbered

/-! ## References -/

/-- How many references there are to a mutex: the table's own, and those of the callers. -/
def references (T : Table) (mutex : MutexId) : Nat :=
  T.entries.countP (·.2 == mutex) + T.callers.countP fun c => c.mutex == mutex && c.phase.refers

/-- The table's reference is the only one where no caller has one. -/
theorem Numbered.references_eq_one_iff (h : T.Numbered) (hentry : T.entry? t = some mutex) :
    T.references mutex = 1 ↔ T.isReferred mutex = false := by
  have hown : T.entries.countP (·.2 == mutex) = 1 := by
    have hmem : mutex ∈ T.entries.map (·.2) :=
      List.mem_map.mpr ⟨_, mem_of_entry?_eq_some hentry, rfl⟩
    rw [← List.count_eq_one_of_mem h.nodup hmem, List.count, List.countP_map]
    rfl
  rw [references, hown, isReferred, List.any_eq_false]
  constructor
  · intro hcount
    exact List.countP_eq_zero.mp (by omega)
  · intro hnone
    rw [List.countP_eq_zero.mpr hnone]

/-- A caller that gave its mutex up does not count for it. -/
theorem isReferred_removeCaller (hnd : (T.callers.map (·.id)).Nodup) (hc : T.caller? c.id = some c)
    (hphase : c.phase = .leaving) (mutex : MutexId) :
    (T.removeCaller c.id).isReferred mutex = T.isReferred mutex := by
  rw [isReferred, isReferred, removeCaller, List.any_filter, Bool.eq_iff_iff, List.any_eq_true,
    List.any_eq_true]
  refine exists_congr fun d => and_congr_right fun hd => ?_
  by_cases hid : d.id = c.id
  · have hdc : d = c := List.inj_on_of_nodup_map hnd hd (mem_of_caller? hc) hid
    simp [hdc, hphase, Phase.refers]
  · simp [hid]

end Table

/-! ## What a step does to an entry -/

theorem Step.numbered (hstep : Step T T') (h : T.Numbered) : T'.Numbered := by
  cases hstep with
  | arrive t hnew => exact h.arrive _ t
  | grant | resume | release | abandon => exact ⟨h.nodup, h.lt_next⟩
  | leave => exact h.leave _

/-- A step keeps an entry, or takes it out because nothing but the table refers to its mutex. -/
theorem Step.entry?_of_some (hstep : Step T T') (hs : T.Sound) (hn : T.Numbered)
    (hentry : T.entry? t = some mutex) :
    T'.entry? t = some mutex ∨ T'.entry? t = none ∧ T.references mutex = 1 := by
  cases hstep with
  | arrive u hnew => exact .inl (Table.entry?_arrive_of_some _ u t hentry)
  | grant | resume | release | abandon => exact .inl hentry
  | leave hc hphase =>
    rw [Table.entry?_leave_eq]
    split
    · rw [hentry, Option.filter_some, Table.isReferred_removeCaller hs.nodup hc hphase]
      split
      · exact .inl rfl
      · next hunreferred =>
        exact .inr ⟨rfl, (hn.references_eq_one_iff hentry).mpr (by simpa using hunreferred)⟩
    · exact .inl hentry

/-! ## Runs -/

namespace Table

/-- Steps lead to the table from the one without entries and callers. -/
def Reachable (T : Table) : Prop := ReflTransGen Step {} T

theorem Reachable.sound (h : T.Reachable) : T.Sound := by
  induction h with
  | refl => exact .empty
  | tail _ hstep ih => exact hstep.sound ih

theorem Reachable.numbered (h : T.Reachable) : T.Numbered := by
  induction h with
  | refl => exact .empty
  | tail _ hstep ih => exact hstep.numbered ih

end Table

/-- A table that steps lead to, and the callers that went on the way, each as it went, latest
    first. -/
inductive Run : List Caller → Table → Prop where
  | start : Run [] {}
  /-- A step by which nobody goes. -/
  | stay {gone T T'} (hrun : Run gone T) (hstep : Step T T')
      (hstay : ∀ c ∈ T.callers, T'.caller? c.id ≠ none) : Run gone T'
  /-- A step by which a caller goes. -/
  | go {gone T T' c} (hrun : Run gone T) (hstep : Step T T') (hc : c ∈ T.callers)
      (hgone : T'.caller? c.id = none) : Run (c :: gone) T'

theorem Run.reachable {gone : List Caller} (hrun : Run gone T) : T.Reachable := by
  induction hrun with
  | start => exact .refl
  | stay _ hstep _ ih => exact ih.tail hstep
  | go _ hstep _ _ ih => exact ih.tail hstep

theorem Table.Reachable.exists_run (h : T.Reachable) : ∃ gone, Run gone T := by
  induction h with
  | refl => exact ⟨[], .start⟩
  | @tail T T' _ hstep ih =>
    obtain ⟨gone, hrun⟩ := ih
    by_cases hstay : ∀ c ∈ T.callers, T'.caller? c.id ≠ none
    · exact ⟨gone, .stay hrun hstep hstay⟩
    · obtain ⟨c, hc, hgone⟩ : ∃ c ∈ T.callers, T'.caller? c.id = none := by simpa using hstay
      exact ⟨c :: gone, .go hrun hstep hc hgone⟩

/-- Two callers for one tenant; the first gave the mutex up, and it was given to the second. -/
def passedOn : Table where
  entries := [(.nil, 0)]
  nextMutex := 1
  callers := [⟨0, .nil, 0, .leaving⟩, ⟨1, .nil, 0, .granted⟩]

theorem run_passedOn : Run [] passedOn := by
  have harrived : Run [] (Table.arrive {} 0 .nil) := .stay .start (.arrive .nil rfl) nofun
  have hgranted : Run [] ((Table.arrive {} 0 .nil).setPhase 0 .granted) :=
    .stay harrived (.grant (c := ⟨0, .nil, 0, .waiting⟩) rfl rfl rfl) (by decide)
  have hholds : Run [] ⟨[(.nil, 0)], 1, [⟨0, .nil, 0, .holding⟩]⟩ :=
    .stay hgranted (.resume (c := ⟨0, .nil, 0, .granted⟩) rfl rfl) (by decide)
  have hwaits : Run [] ⟨[(.nil, 0)], 1, [⟨0, .nil, 0, .holding⟩, ⟨1, .nil, 0, .waiting⟩]⟩ :=
    .stay hholds (@Step.arrive _ 1 .nil rfl) (by decide)
  have hreleased : Run [] ⟨[(.nil, 0)], 1, [⟨0, .nil, 0, .leaving⟩, ⟨1, .nil, 0, .waiting⟩]⟩ :=
    .stay hwaits (.release (c := ⟨0, .nil, 0, .holding⟩) rfl rfl) (by decide)
  exact .stay hreleased (.grant (c := ⟨1, .nil, 0, .waiting⟩) rfl rfl rfl) (by decide)

/-! ## One mutex for a tenant -/

namespace Table

/-- A tenant has one mutex, for as long as anybody refers to it. -/
structure SingleMutex (T : Table) : Prop where
  /-- Whoever waits for a tenant's lock or holds it refers to the mutex under the tenant. -/
  current : ∀ c ∈ T.callers, c.phase.refers = true → T.entry? c.tenant = some c.mutex
  /-- A step changes an entry only by taking it out, and only where the table's reference to its
      mutex is the only one. -/
  kept : ∀ T', Step T T' → ∀ t mutex, T.entry? t = some mutex → T'.entry? t ≠ some mutex →
    T'.entry? t = none ∧ T.references mutex = 1 ∧
      ∀ c ∈ T.callers, c.phase.refers = true → c.mutex ≠ mutex
  /-- At most one caller has a tenant's lock. -/
  exclusive : ∀ c ∈ T.callers, ∀ d ∈ T.callers, c.phase.owns = true → d.phase.owns = true →
    c.tenant = d.tenant → c = d

/-- Every table that steps lead to has one mutex for a tenant, whoever comes and goes meanwhile. -/
theorem Reachable.one_live_mutex (h : T.Reachable) : T.SingleMutex where
  current := h.sound.entry
  kept T' hstep t mutex hentry hchanged := by
    obtain hsame | ⟨hnone, hreferences⟩ := hstep.entry?_of_some h.sound h.numbered hentry
    · exact absurd hsame hchanged
    · refine ⟨hnone, hreferences, fun c hc hrefers hmutex => ?_⟩
      have hunreferred := (h.numbered.references_eq_one_iff hentry).mp hreferences
      have hnot := List.any_eq_false.mp hunreferred c hc
      simp [hrefers, hmutex] at hnot
  exclusive c hc d hd hcowns hdowns ht :=
    List.inj_on_of_nodup_map h.sound.nodup hc hd (h.sound.eq_of_owns hc hd hcowns hdowns ht)

end Table

/-- The first of those callers has still its entry to look after; the second went and took the entry
    out, and a third one made a new entry. -/
def renewed : Table where
  entries := [(.nil, 1)]
  nextMutex := 2
  callers := [⟨0, .nil, 0, .leaving⟩, ⟨2, .nil, 1, .waiting⟩]

theorem run_renewed : Run [⟨1, .nil, 0, .leaving⟩] renewed := by
  have hholds : Run [] ⟨[(.nil, 0)], 1, [⟨0, .nil, 0, .leaving⟩, ⟨1, .nil, 0, .holding⟩]⟩ :=
    .stay run_passedOn (.resume (c := ⟨1, .nil, 0, .granted⟩) rfl rfl) (by decide)
  have hreleased : Run [] ⟨[(.nil, 0)], 1, [⟨0, .nil, 0, .leaving⟩, ⟨1, .nil, 0, .leaving⟩]⟩ :=
    .stay hholds (.release (c := ⟨1, .nil, 0, .holding⟩) rfl rfl) (by decide)
  have hleft : Run [⟨1, .nil, 0, .leaving⟩] ⟨[], 1, [⟨0, .nil, 0, .leaving⟩]⟩ :=
    .go hreleased (.leave (c := ⟨1, .nil, 0, .leaving⟩) rfl rfl) (by decide) rfl
  exact .stay hleft (@Step.arrive _ 2 .nil rfl) (by decide)

theorem one_live_mutex_renewed :
    renewed.Reachable ∧ renewed.SingleMutex ∧ renewed.references 1 = 2 ∧
      Table.entry? (renewed.leave ⟨0, .nil, 0, .leaving⟩) .nil = some 1 :=
  ⟨run_renewed.reachable, run_renewed.reachable.one_live_mutex, by decide, by decide⟩

/-! ## Entries that are left -/

namespace Table

/-- No caller holds a tenant's lock, waits for it or looks after its entry. -/
def Idle (T : Table) (t : TenantId) : Prop := ∀ c ∈ T.callers, c.tenant ≠ t

theorem Idle.of_setPhase {phase : Phase} (h : (T.setPhase id phase).Idle t) : T.Idle t := by
  intro d hd
  have hd' := h _ (List.mem_map.mpr ⟨d, hd, rfl⟩)
  split at hd' <;> exact hd'

/-- A tenant that has no callers without `c` had none but `c`. -/
theorem Idle.eq_of_removeCaller (h : (T.removeCaller c.id).Idle t)
    (hnd : (T.callers.map (·.id)).Nodup) (hc : c ∈ T.callers) (hd : d ∈ T.callers)
    (ht : d.tenant = t) : d = c := by
  by_cases hid : d.id = c.id
  · exact List.inj_on_of_nodup_map hnd hd hc hid
  · exact absurd ht (h d (List.mem_filter.mpr ⟨hd, by simpa using hid⟩))

/-- Nobody refers to the mutex of a tenant without callers. -/
theorem Idle.isReferred_eq_false (h : T.Idle t) (hs : T.Sound) (hn : T.Numbered)
    (hentry : T.entry? t = some mutex) : T.isReferred mutex = false := by
  refine List.any_eq_false.mpr fun d hd hrefers => ?_
  simp only [Bool.and_eq_true, beq_iff_eq] at hrefers
  obtain ⟨rfl, hrefers⟩ := hrefers
  exact h d hd (hn.eq_of_entry_eq_some (hs.entry d hd hrefers) hentry)

/-- The last caller of a tenant to look after the entry takes it out. -/
theorem Idle.entry?_leave (h : (T.leave c).Idle c.tenant) (hs : T.Sound) (hn : T.Numbered) :
    Table.entry? (T.leave c) c.tenant = none := by
  rw [entry?_leave_eq, if_pos rfl]
  cases hentry : T.entry? c.tenant with
  | none => rfl
  | some mutex =>
    have hidle : (T.removeCaller c.id).Idle c.tenant := by
      rw [Idle, callers_leave] at h
      exact h
    have hunreferred := hidle.isReferred_eq_false (hs.removeCaller c.id) ⟨hn.nodup, hn.lt_next⟩ hentry
    rw [Option.filter_some, hunreferred]
    rfl

end Table

/-- Where `d` alone was taken out, `d` is who is not there any more. -/
private theorem Table.eq_of_gone (hd : T.caller? d.id = some d) (hc : T.caller? c.id = some c)
    (hgone : (if c.id = d.id then none else T.caller? c.id) = none) : d = c := by
  split at hgone
  · next hid => exact Option.some.inj (hd.symm.trans (hid ▸ hc))
  · rw [hc] at hgone
    cases hgone

/-- Where a step takes a caller away, the caller looked after the entry or was dropped while it
    waited. -/
theorem Step.eq_of_gone (hstep : Step T T') (hs : T.Sound) (hc : c ∈ T.callers)
    (hgone : T'.caller? c.id = none) :
    c.phase = .leaving ∧ T' = T.leave c ∨ c.phase.refers = true ∧ T' = T.removeCaller c.id := by
  have hfound := Table.caller?_of_mem hs.nodup hc
  -- who is there before a change of phase is there after it
  have hsetPhase : ∀ id phase, (T.setPhase id phase).caller? c.id ≠ none := by
    intro id phase
    rw [Table.caller?_setPhase, hfound, Option.map_some]
    exact Option.some_ne_none _
  cases hstep with
  | @arrive id t hnew =>
    obtain ⟨mutex, hcaller⟩ := Table.caller?_arrive T id t hnew
    rw [hcaller, hfound] at hgone
    split at hgone <;> cases hgone
  | grant | resume | release => exact absurd hgone (hsetPhase _ _)
  | @leave d hd hphase =>
    rw [Table.caller?_leave] at hgone
    obtain rfl := Table.eq_of_gone hd hfound hgone
    exact .inl ⟨hphase, rfl⟩
  | @abandon d hd hphase =>
    rw [Table.caller?_removeCaller] at hgone
    obtain rfl := Table.eq_of_gone hd hfound hgone
    refine .inr ⟨?_, rfl⟩
    rcases hphase with hphase | hphase <;> rw [hphase] <;> rfl

/-- Where a step leaves a tenant without callers and takes nobody away, the tenant had none before,
    and its entry is the same. -/
theorem Step.entry?_of_stay (hstep : Step T T') (hstay : ∀ c ∈ T.callers, T'.caller? c.id ≠ none)
    (hidle : T'.Idle t) : T.Idle t ∧ T'.entry? t = T.entry? t := by
  cases hstep with
  | @arrive id u hnew =>
    obtain ⟨mutex, -, hcallers⟩ := T.callers_arrive id u
    rw [Table.Idle, hcallers] at hidle
    have hu : u ≠ t := hidle ⟨id, u, mutex, .waiting⟩ (List.mem_append_right _ List.mem_cons_self)
    refine ⟨fun d hd => hidle d (List.mem_append_left _ hd), ?_⟩
    exact Table.entry?_arrive_of_ne id hu.symm
  | grant | resume | release => exact ⟨hidle.of_setPhase, rfl⟩
  | @leave c hc hphase =>
    have hgone : (T.leave c).caller? c.id = none := by rw [Table.caller?_leave, if_pos rfl]
    exact absurd hgone (hstay c (Table.mem_of_caller? hc))
  | @abandon c hc hphase =>
    have hgone : (T.removeCaller c.id).caller? c.id = none := by
      rw [Table.caller?_removeCaller, if_pos rfl]
    exact absurd hgone (hstay c (Table.mem_of_caller? hc))

/-- Where a step takes the last caller of a tenant away, the entry is left if the caller still referred
    to its mutex. -/
theorem Step.exists_entry_iff_of_gone (hstep : Step T T') (hs : T.Sound) (hn : T.Numbered)
    (hc : c ∈ T.callers) (hgone : T'.caller? c.id = none) (hidle : T'.Idle c.tenant) :
    (∃ mutex, T'.entry? c.tenant = some mutex) ↔ c.phase.refers = true := by
  obtain ⟨hphase, rfl⟩ | ⟨hrefers, rfl⟩ := hstep.eq_of_gone hs hc hgone
  · simp [hidle.entry?_leave hs hn, hphase, Phase.refers]
  · exact iff_of_true ⟨c.mutex, hs.entry c hc hrefers⟩ hrefers

/-- Where a step takes a caller of one tenant away, another tenant without callers had none before,
    and its entry is the same. -/
theorem Step.entry?_of_gone (hstep : Step T T') (hs : T.Sound) (hc : c ∈ T.callers)
    (hgone : T'.caller? c.id = none) (ht : c.tenant ≠ t) (hidle : T'.Idle t) :
    T.Idle t ∧ T'.entry? t = T.entry? t := by
  have hcallers : T'.callers = (T.removeCaller c.id).callers ∧ T'.entry? t = T.entry? t := by
    obtain ⟨-, rfl⟩ | ⟨-, rfl⟩ := hstep.eq_of_gone hs hc hgone
    · exact ⟨Table.callers_leave T c, by rw [Table.entry?_leave_eq, if_neg ht.symm]⟩
    · exact ⟨rfl, rfl⟩
  have hremoved : (T.removeCaller c.id).Idle t := by
    rw [Table.Idle, ← hcallers.1]
    exact hidle
  refine ⟨fun d hd hdt => ht ?_, hcallers.2⟩
  rw [← hremoved.eq_of_removeCaller hs.nodup hc hd hdt, hdt]

/-- Whether a tenant without callers has an entry is told by the last of its callers to go. -/
theorem Run.exists_entry_iff {gone : List Caller} (hrun : Run gone T) (hidle : T.Idle t) :
    (∃ mutex, T.entry? t = some mutex) ↔
      ∃ c, gone.find? (·.tenant == t) = some c ∧ c.phase.refers = true := by
  induction hrun with
  | start => simp [Table.entry?]
  | stay _ hstep hstay ih =>
    obtain ⟨hbefore, hentry⟩ := hstep.entry?_of_stay hstay hidle
    rw [hentry]
    exact ih hbefore
  | @go gone T T' c hrun hstep hc hgone ih =>
    have hs := hrun.reachable.sound
    by_cases ht : c.tenant = t
    · subst ht
      rw [hstep.exists_entry_iff_of_gone hs hrun.reachable.numbered hc hgone hidle]
      simp
    · obtain ⟨hbefore, hentry⟩ := hstep.entry?_of_gone hs hc hgone ht hidle
      rw [hentry, ih hbefore, List.find?_cons_of_neg (by simpa using ht)]

/-- The entry of a tenant that nobody holds the lock of, waits for or looks after is left if and only
    if the last of the tenant's callers to go still referred to its mutex: it was dropped while it
    waited. -/
theorem Table.Reachable.entry_left_iff (h : T.Reachable) (hidle : T.Idle t) :
    (∃ gone, Run gone T) ∧ ∀ gone, Run gone T →
      ((∃ mutex, T.entry? t = some mutex) ↔
        ∃ c, gone.find? (·.tenant == t) = some c ∧ c.phase.refers = true) :=
  ⟨h.exists_run, fun _ hrun => hrun.exists_entry_iff hidle⟩

/-- The first of the two callers looked after the entry while the second referred to its mutex, and
    the second was dropped before it noticed that it has the mutex. -/
def leftBehind : Table where
  entries := [(.nil, 0)]
  nextMutex := 1
  callers := []

theorem run_leftBehind :
    Run [⟨1, .nil, 0, .granted⟩, ⟨0, .nil, 0, .leaving⟩] leftBehind := by
  have hleft : Run [⟨0, .nil, 0, .leaving⟩] ⟨[(.nil, 0)], 1, [⟨1, .nil, 0, .granted⟩]⟩ :=
    .go run_passedOn (.leave (c := ⟨0, .nil, 0, .leaving⟩) rfl rfl) (by decide) rfl
  exact .go hleft (.abandon (c := ⟨1, .nil, 0, .granted⟩) rfl (.inr rfl)) (by decide) rfl

theorem entry_left_iff_leftBehind :
    leftBehind.Reachable ∧ leftBehind.Idle .nil ∧
      ((∃ gone, Run gone leftBehind) ∧ ∀ gone, Run gone leftBehind →
        ((∃ mutex, leftBehind.entry? .nil = some mutex) ↔
          ∃ c, gone.find? (·.tenant == .nil) = some c ∧ c.phase.refers = true)) :=
  ⟨run_leftBehind.reachable, nofun, run_leftBehind.reachable.entry_left_iff nofun⟩

/-- A tenant without callers may have an entry. -/
theorem not_forall_idle_entry_eq_none :
    ¬ ∀ T : Table, T.Reachable → ∀ t, T.Idle t → T.entry? t = none := by
  intro hnone
  have hentry := hnone leftBehind run_leftBehind.reachable .nil nofun
  cases hentry

-- the same by the operations of the table, which pass the mutex on to the second caller themselves
example :
    ((((((Table.arrive {} 0 .nil).grantNext 0).resume 0).arrive 1 .nil).drop 0).drop 1).entries =
      [(.nil, 0)] := by
  decide

end Tenancy.Lock
