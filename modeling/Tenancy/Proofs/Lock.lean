import Mathlib.Data.List.Nodup
import Mathlib.Logic.Relation
import Tenancy.Lock

/-!
# Tenant locks, step by step

The operations of a lock table are made of smaller steps, and between any two of those steps other
callers may take theirs. `Lock.Step` lists the smaller steps. A mutex that nobody has may go to any
caller that waits for it, so the order of arrival plays no part in what is proved here.

`Table.Sound` is what every step preserves: a caller that refers to a mutex refers to the one that
the table holds under its tenant, and a mutex has one owner. A tenant's lock is therefore held by at
most one caller.

## Key results

- `Step.sound`: every step preserves `Table.Sound`
- `Table.Sound.eq_of_owns`: a tenant's lock has one owner
- `Table.Sound.steps_drop`: a caller that goes, and whoever gets its mutex, take such steps
-/

namespace Tenancy.Lock

/-! ## Looking up a caller -/

namespace Table

variable {T : Table} {id j : CallerId} {c d : Caller} {t : TenantId} {phase : Phase}

theorem mem_of_caller? (h : T.caller? id = some c) : c ∈ T.callers := List.mem_of_find?_eq_some h

theorem id_of_caller? (h : T.caller? id = some c) : c.id = id := by
  simpa using List.find?_some h

theorem caller?_eq_none_iff : T.caller? id = none ↔ ∀ c ∈ T.callers, c.id ≠ id := by
  simp [caller?]

/-- Where ids are a key, a caller is found under its id. -/
theorem caller?_of_mem (hnd : (T.callers.map (·.id)).Nodup) (h : c ∈ T.callers) :
    T.caller? c.id = some c := by
  cases hfind : T.caller? c.id with
  | none => exact absurd rfl (caller?_eq_none_iff.mp hfind c h)
  | some d =>
    have hid := id_of_caller? hfind
    rw [List.inj_on_of_nodup_map hnd (mem_of_caller? hfind) h hid]

theorem caller?_setPhase (T : Table) (id j : CallerId) (phase : Phase) :
    (T.setPhase id phase).caller? j =
      (T.caller? j).map fun c => if j = id then { c with phase } else c := by
  unfold caller? setPhase
  rw [List.find?_map]
  have hids : ((fun c : Caller => c.id == j) ∘ fun c =>
      if c.id == id then { c with phase } else c) = fun c => c.id == j := by
    funext c
    by_cases hc : c.id = id <;> simp [hc]
  rw [hids]
  cases hfind : T.callers.find? fun c => c.id == j with
  | none => rfl
  | some c =>
    have hc : c.id = j := by simpa using List.find?_some hfind
    simp [hc]

theorem caller?_removeCaller (T : Table) (id j : CallerId) :
    (T.removeCaller id).caller? j = if j = id then none else T.caller? j := by
  unfold caller? removeCaller
  rw [List.find?_filter]
  by_cases hj : j = id
  · simp [hj]
  · rw [if_neg hj]
    congr 1
    funext c
    by_cases hc : c.id = j <;> simp [hc, hj]

/-- Leaving takes the caller out; the entries do not matter to who else is there. -/
theorem callers_leave (T : Table) (c : Caller) : (T.leave c).callers = (T.removeCaller c.id).callers := by
  unfold leave
  dsimp only
  split
  · split <;> rfl
  · rfl

theorem caller?_leave (T : Table) (c : Caller) (j : CallerId) :
    (T.leave c).caller? j = if j = c.id then none else T.caller? j := by
  rw [← caller?_removeCaller]
  unfold caller?
  rw [callers_leave]

/-- Arriving adds a caller that waits. -/
theorem callers_arrive (T : Table) (id : CallerId) (t : TenantId) :
    ∃ mutex, Table.entry? (T.arrive id t) t = some mutex ∧
      (T.arrive id t).callers = T.callers ++ [⟨id, t, mutex, .waiting⟩] := by
  unfold arrive
  split
  · next mutex hentry => exact ⟨mutex, hentry, rfl⟩
  · exact ⟨T.nextMutex, by simp [Table.entry?], rfl⟩

theorem caller?_arrive (T : Table) (id : CallerId) (t : TenantId) (hnew : T.caller? id = none) :
    ∃ mutex, ∀ j, (T.arrive id t).caller? j =
      if j = id then some ⟨id, t, mutex, .waiting⟩ else T.caller? j := by
  obtain ⟨mutex, -, hcallers⟩ := T.callers_arrive id t
  refine ⟨mutex, fun j => ?_⟩
  unfold caller? at hnew ⊢
  rw [hcallers, List.find?_append]
  by_cases hj : j = id
  · simp [hj, hnew]
  · simp [hj, Ne.symm hj]

private theorem lookup_cons_of_ne {u : TenantId} (h : u ≠ t) (mutex : MutexId)
    (entries : List (TenantId × MutexId)) :
    ((t, mutex) :: entries).lookup u = entries.lookup u := by
  have hkey : (u == t) = false := beq_false_of_ne h
  simp only [List.lookup_cons, hkey]

/-- Arriving does not matter to the entries of other tenants. -/
theorem entry?_arrive_of_ne {u : TenantId} (id : CallerId) (h : u ≠ t) :
    Table.entry? (T.arrive id t) u = T.entry? u := by
  unfold arrive
  split
  · rfl
  · exact lookup_cons_of_ne h _ _

/-- Arriving keeps the entries that are there. -/
theorem entry?_arrive_of_some {mutex : MutexId} (id : CallerId) (t u : TenantId)
    (h : T.entry? u = some mutex) : Table.entry? (T.arrive id t) u = some mutex := by
  by_cases hu : u = t
  · rw [← hu]
    unfold arrive
    rw [h]
    exact h
  · rw [entry?_arrive_of_ne id hu, h]

/-- Taking one tenant's entry out keeps those of the others. -/
private theorem lookup_filter_ne (t u : TenantId) (entries : List (TenantId × MutexId)) :
    (entries.filter (·.1 != t)).lookup u = if u = t then none else entries.lookup u := by
  induction entries with
  | nil => simp
  | cons e rest ih =>
    obtain ⟨v, mutex⟩ := e
    by_cases hv : v = t
    · have hdropped : ((v, mutex) :: rest).filter (·.1 != t) = rest.filter (·.1 != t) := by
        simp [hv]
      rw [hdropped, ih]
      split
      · rfl
      · next hu => rw [hv, lookup_cons_of_ne hu]
    · have hkept : ((v, mutex) :: rest).filter (·.1 != t) = (v, mutex) :: rest.filter (·.1 != t) := by
        simp [hv]
      rw [hkept, List.lookup_cons, List.lookup_cons, ih]
      cases hkey : u == v with
      | true => exact (if_neg (beq_iff_eq.mp hkey ▸ hv)).symm
      | false => rfl

/-- Leaving takes the tenant's entry out where nobody who is still there refers to its mutex. -/
theorem entry?_leave_eq (T : Table) (c : Caller) (u : TenantId) :
    Table.entry? (T.leave c) u =
      if u = c.tenant then T.entry? u |>.filter (T.removeCaller c.id).isReferred
      else T.entry? u := by
  by_cases hu : u = c.tenant
  · rw [if_pos hu, hu]
    unfold leave
    dsimp only
    split
    · next mutex hfound =>
      have hentry : T.entry? c.tenant = some mutex := hfound
      rw [hentry, Option.filter_some]
      split
      · exact hentry
      · exact (lookup_filter_ne _ _ _).trans (if_pos rfl)
    · next hnone =>
      have hentry : T.entry? c.tenant = none := hnone
      rw [hentry]
      exact hentry
  · rw [if_neg hu]
    unfold leave
    dsimp only
    split
    · split
      · rfl
      · exact (lookup_filter_ne _ _ _).trans (if_neg hu)
    · rfl

/-- Leaving keeps the entry of a tenant while somebody who is still there refers to it. -/
theorem entry?_leave {mutex : MutexId} (c : Caller) (h : T.entry? d.tenant = some mutex)
    (hd : d ∈ (T.removeCaller c.id).callers) (hrefers : d.phase.refers = true)
    (hmutex : d.mutex = mutex) : Table.entry? (T.leave c) d.tenant = some mutex := by
  rw [entry?_leave_eq]
  split
  · have hreferred : (T.removeCaller c.id).isReferred mutex = true :=
      List.any_eq_true.mpr ⟨d, hd, by simp [hmutex, hrefers]⟩
    rw [h, Option.filter_some, if_pos hreferred]
  · exact h

end Table

/-! ## Steps -/

/-- One step of some caller. -/
inductive Step : Table → Table → Prop where
  /-- A caller finds its tenant's entry or makes one. -/
  | arrive {T id} (t : TenantId) (hnew : T.caller? id = none) : Step T (T.arrive id t)
  /-- A mutex that nobody has is given to a caller that waits for it. -/
  | grant {T c} (hc : T.caller? c.id = some c) (hphase : c.phase = .waiting)
      (hfree : T.isOwned c.mutex = false) : Step T (T.setPhase c.id .granted)
  /-- A caller notices that it has its mutex. -/
  | resume {T c} (hc : T.caller? c.id = some c) (hphase : c.phase = .granted) :
      Step T (T.resume c.id)
  /-- A caller gives its mutex up. -/
  | release {T c} (hc : T.caller? c.id = some c) (hphase : c.phase = .holding) :
      Step T (T.setPhase c.id .leaving)
  /-- A caller that gave its mutex up looks after the table's entry. -/
  | leave {T c} (hc : T.caller? c.id = some c) (hphase : c.phase = .leaving) : Step T (T.leave c)
  /-- A caller is dropped before it holds its mutex. -/
  | abandon {T c} (hc : T.caller? c.id = some c) (hphase : c.phase = .waiting ∨ c.phase = .granted) :
      Step T (T.removeCaller c.id)

/-- What holds of a table after any steps. -/
structure Table.Sound (T : Table) : Prop where
  nodup : (T.callers.map (·.id)).Nodup
  /-- Whoever refers to a mutex refers to the one under its tenant. -/
  entry : ∀ c ∈ T.callers, c.phase.refers = true → T.entry? c.tenant = some c.mutex
  /-- A mutex has one owner. -/
  owner : ∀ c ∈ T.callers, ∀ d ∈ T.callers, c.phase.owns = true → d.phase.owns = true →
    c.mutex = d.mutex → c.id = d.id

namespace Table.Sound

variable {T T' : Table} {c d : Caller}

theorem empty : Sound {} := by constructor <;> simp

/-- A tenant's lock has one owner. -/
theorem eq_of_owns (h : T.Sound) (hc : c ∈ T.callers) (hd : d ∈ T.callers)
    (hcowns : c.phase.owns = true) (hdowns : d.phase.owns = true) (ht : c.tenant = d.tenant) :
    c.id = d.id := by
  have hrefers : ∀ phase : Phase, phase.owns = true → phase.refers = true := by
    intro phase hphase
    cases phase <;> first | rfl | exact absurd hphase (by decide)
  have hcentry := h.entry c hc (hrefers _ hcowns)
  have hdentry := h.entry d hd (hrefers _ hdowns)
  rw [ht, hdentry] at hcentry
  exact h.owner c hc d hd hcowns hdowns (Option.some.inj hcentry).symm

/-- A caller may change its phase where it does not begin to refer to a mutex, and begins to own it
    only when nobody else does. -/
theorem setPhase (h : T.Sound) (hc : T.caller? c.id = some c) (phase : Phase)
    (hrefers : phase.refers = true → c.phase.refers = true)
    (howns : phase.owns = true → ∀ d ∈ T.callers, d.phase.owns = true → d.mutex = c.mutex →
      d.id = c.id) :
    (T.setPhase c.id phase).Sound := by
  -- every caller was there before, the same but perhaps for its phase
  have hmem : ∀ d' ∈ (T.setPhase c.id phase).callers, ∃ d ∈ T.callers,
      d'.id = d.id ∧ d'.tenant = d.tenant ∧ d'.mutex = d.mutex ∧
        (d'.phase = d.phase ∨ d = c ∧ d'.phase = phase) := by
    intro d' hd'
    obtain ⟨d, hd, rfl⟩ := List.mem_map.mp hd'
    refine ⟨d, hd, ?_⟩
    by_cases hid : d.id = c.id
    · have hdc : d = c := List.inj_on_of_nodup_map h.nodup hd (mem_of_caller? hc) hid
      simp [hdc]
    · simp [hid]
  constructor
  · have hids : ((fun d : Caller => d.id) ∘ fun d =>
        if d.id == c.id then { d with phase } else d) = fun d => d.id := by
      funext d
      simp only [Function.comp_apply]
      split <;> rfl
    rw [Table.setPhase, List.map_map, hids]
    exact h.nodup
  · intro d' hd' hphase
    obtain ⟨d, hd, -, ht, hmutex, hcase⟩ := hmem d' hd'
    rw [ht, hmutex]
    cases hcase with
    | inl hsame => exact h.entry d hd (hsame ▸ hphase)
    | inr hnew =>
      obtain ⟨rfl, hnew⟩ := hnew
      exact h.entry d hd (hrefers (hnew ▸ hphase))
  · intro d₁' hd₁' d₂' hd₂' hown₁ hown₂ hmutex
    obtain ⟨d₁, hd₁, hid₁, -, hm₁, hcase₁⟩ := hmem d₁' hd₁'
    obtain ⟨d₂, hd₂, hid₂, -, hm₂, hcase₂⟩ := hmem d₂' hd₂'
    rw [hm₁, hm₂] at hmutex
    rw [hid₁, hid₂]
    rcases hcase₁ with hsame₁ | ⟨rfl, hnew₁⟩
    · rcases hcase₂ with hsame₂ | ⟨rfl, hnew₂⟩
      · exact h.owner d₁ hd₁ d₂ hd₂ (hsame₁ ▸ hown₁) (hsame₂ ▸ hown₂) hmutex
      · exact howns (hnew₂ ▸ hown₂) d₁ hd₁ (hsame₁ ▸ hown₁) hmutex
    · rcases hcase₂ with hsame₂ | ⟨rfl, -⟩
      · exact (howns (hnew₁ ▸ hown₁) d₂ hd₂ (hsame₂ ▸ hown₂) hmutex.symm).symm
      · rfl

/-- Callers may go, as long as the entries that the others refer to stay. -/
theorem of_sublist (h : T.Sound) (hsub : T'.callers.Sublist T.callers)
    (hentry : ∀ d ∈ T'.callers, d.phase.refers = true → T'.entry? d.tenant = some d.mutex) :
    T'.Sound where
  nodup := h.nodup.sublist (hsub.map _)
  entry := hentry
  owner c hc d hd := h.owner c (hsub.mem hc) d (hsub.mem hd)

theorem removeCaller (h : T.Sound) (id : CallerId) : (T.removeCaller id).Sound :=
  h.of_sublist List.filter_sublist fun d hd => h.entry d (List.mem_of_mem_filter hd)

theorem leave (h : T.Sound) (c : Caller) : (T.leave c).Sound := by
  refine h.of_sublist (callers_leave T c ▸ List.filter_sublist) ?_
  intro d hd hphase
  rw [callers_leave] at hd
  exact entry?_leave c (h.entry d (List.mem_of_mem_filter hd) hphase) hd hphase rfl

theorem arrive (h : T.Sound) {id : CallerId} (t : TenantId) (hnew : T.caller? id = none) :
    (T.arrive id t).Sound := by
  obtain ⟨mutex, hentry, hcallers⟩ := T.callers_arrive id t
  constructor
  · rw [hcallers, List.map_append]
    refine List.nodup_append.mpr ⟨h.nodup, List.nodup_singleton _, ?_⟩
    intro a ha b hb
    obtain ⟨d, hd, rfl⟩ := List.mem_map.mp ha
    rw [List.mem_singleton.mp hb]
    exact caller?_eq_none_iff.mp hnew d hd
  · intro d hd hphase
    rw [hcallers, List.mem_append, List.mem_singleton] at hd
    cases hd with
    | inl hold => exact entry?_arrive_of_some id t _ (h.entry d hold hphase)
    | inr hadded => simpa [hadded] using hentry
  · intro c hc d hd hcowns hdowns
    rw [hcallers, List.mem_append, List.mem_singleton] at hc hd
    -- the caller that arrives only waits, so both owners were there before
    rcases hc with hc | rfl
    · rcases hd with hd | rfl
      · exact h.owner c hc d hd hcowns hdowns
      · exact absurd hdowns Bool.false_ne_true
    · exact absurd hcowns Bool.false_ne_true

end Table.Sound

/-- Every step preserves what holds of a table. -/
theorem Step.sound {T T' : Table} (hstep : Step T T') (h : T.Sound) : T'.Sound := by
  cases hstep with
  | arrive t hnew => exact h.arrive t hnew
  | grant hc hphase hfree =>
    -- nobody owns the mutex, so there is no second owner to compare with
    refine h.setPhase hc _ (fun _ => by rw [hphase]; rfl) ?_
    intro _ d hd howns hmutex
    have hnone := List.any_eq_false.mp hfree d hd
    simp [hmutex, howns] at hnone
  | resume hc hphase =>
    -- the caller owned the mutex before, when it was granted
    refine h.setPhase hc _ (fun _ => by rw [hphase]; rfl) ?_
    intro _ d hd howns hmutex
    exact h.owner d hd _ (Table.mem_of_caller? hc) howns (by rw [hphase]; rfl) hmutex
  | release hc hphase =>
    exact h.setPhase hc _ (fun hfalse => absurd hfalse (by decide))
      (fun hfalse => absurd hfalse (by decide))
  | leave hc hphase => exact h.leave _
  | abandon hc hphase => exact h.removeCaller _

/-! ## Operations as steps -/

namespace Table

variable {T : Table} {c : Caller} {mutex : MutexId}

open Relation (ReflTransGen)

/-- Passing a mutex on is a step of whoever waits for it, if anybody does. -/
theorem Sound.steps_grantNext (h : T.Sound) (mutex : MutexId) :
    ReflTransGen Step T (T.grantNext mutex) := by
  unfold grantNext
  split
  · exact .refl
  · next hfree =>
    split
    · next c hfind =>
      have hwaits := List.find?_some hfind
      simp only [Bool.and_eq_true, beq_iff_eq] at hwaits
      obtain ⟨rfl, hphase⟩ := hwaits
      have hc := caller?_of_mem h.nodup (List.mem_of_find?_eq_some hfind)
      exact .single (.grant hc hphase (by simpa using hfree))
    · exact .refl

/-- Passing a mutex on leaves a caller that does not wait for it. -/
private theorem caller?_grantNext (h : T.Sound) (hc : T.caller? c.id = some c)
    (hphase : c.phase ≠ .waiting) : (T.grantNext mutex).caller? c.id = some c := by
  unfold grantNext
  split
  · exact hc
  · split
    · next d hfind =>
      have hwaits := List.find?_some hfind
      simp only [Bool.and_eq_true, beq_iff_eq] at hwaits
      have hne : c.id ≠ d.id := by
        intro hid
        have hd := caller?_of_mem h.nodup (List.mem_of_find?_eq_some hfind)
        rw [← hid, hc] at hd
        exact hphase (Option.some.inj hd ▸ hwaits.2)
      rw [caller?_setPhase, hc, Option.map_some, if_neg hne]
    · exact hc

/-- A caller that goes, in whatever phase it is, takes steps, and so does whoever gets its mutex. -/
theorem Sound.steps_drop (h : T.Sound) (id : CallerId) : ReflTransGen Step T (T.drop id) := by
  unfold drop
  split
  · exact .refl
  · next c hc =>
    obtain rfl := id_of_caller? hc
    split
    · next hphase =>
      have hstep : Step T (T.removeCaller c.id) := .abandon hc (.inl hphase)
      exact .head hstep ((hstep.sound h).steps_grantNext c.mutex)
    · next hphase =>
      have hstep : Step T (T.removeCaller c.id) := .abandon hc (.inr hphase)
      exact .head hstep ((hstep.sound h).steps_grantNext c.mutex)
    · next hphase =>
      -- it gives the mutex up, somebody gets it, and then it looks after the entry
      have hstep : Step T (T.setPhase c.id .leaving) := .release hc hphase
      have hleaving : (T.setPhase c.id .leaving).caller? c.id = some { c with phase := .leaving } := by
        rw [caller?_setPhase, hc, Option.map_some, if_pos rfl]
      have hpassed := (hstep.sound h).steps_grantNext c.mutex
      have hstill : (T.giveUp c).caller? c.id = some { c with phase := .leaving } :=
        caller?_grantNext (c := { c with phase := .leaving }) (hstep.sound h) hleaving nofun
      have hleave : Step (T.giveUp c) ((T.giveUp c).leave c) :=
        .leave (c := { c with phase := .leaving }) hstill rfl
      exact (ReflTransGen.head hstep hpassed).tail hleave
    · next hphase => exact .single (.leave hc hphase)

end Table

end Tenancy.Lock
