import Mathlib.Data.List.Perm.Basic
import Tenancy.Proofs.Resolution
import Tenancy.Proofs.Sessions
import Tenancy.Proofs.StoreEffect

/-!
# Who has which connection

A caller that asks for a session has no connection until the source gives it one, and then has that
one until its session ends, or it fails or is dropped. How far a caller has come tells what it has,
which calls it has made and what was sent on its connection; this is kept by its own moves, and others
do not touch it. A caller that got no session has left nothing: the others could have made the same
moves without it.

## Key results

- `State.orderly_of_change`: what a caller has follows how far it has come
- `State.length_out`: who has the connections that are checked out
- `State.run_without`: a run without one of the callers
- `connections_accounted_for`: sessions neither leak nor mix
-/

namespace Tenancy

namespace Sessions

/-! ## How far a caller has come -/

open Session (afterVerdict afterConnection afterBinding)

/-- What is left of the program of a caller that is there, what it has, and which calls it has made. -/
inductive Progress (m : ServiceModule) (id : CallerId) (t : TenantId) :
    ServiceProgram (Except SessionError Session) → List Checkout → List Event → Prop where
  | looking :
    Progress m id t
      (.ask (.store (.findTenant t)) fun reply => afterVerdict t (Resolver.verdict t m reply)) [] []
  /-- The registry gives the tenant no schema, or no answer. -/
  | unresolved (s : Store) (e : TenantError) :
    Progress m id t (.done (.error (.resolve e))) [] [⟨id, .store (.findTenant t), s⟩]
  | waiting (s : Store) (schema : String) (hname : s.registered? m t = some schema) :
    Progress m id t (.ask .acquireConnection (afterConnection t schema)) []
      [⟨id, .store (.findTenant t), s⟩]
  | binding (s s' : Store) (schema : String) (connection : ConnectionId)
      (hname : s.registered? m t = some schema) :
    Progress m id t
      (.ask (.execute connection (Sql.searchPathStatement schema)) (afterBinding t schema connection))
      [⟨connection, id, []⟩] [⟨id, .acquireConnection, s'⟩, ⟨id, .store (.findTenant t), s⟩]
  /-- No connection was given, or it could not be bound to the schema. -/
  | failed (e : SessionError) (he : ∀ cause, e ≠ .resolve cause) (events : List Event) :
    Progress m id t (.done (.error e)) [] events
  | bound (s s' s'' : Store) (schema : String) (connection : ConnectionId) (later : List Statement)
      (hname : s.registered? m t = some schema)
      (hlater : ∀ statement ∈ later, statement.issuer = .user) :
    Progress m id t (.done (.ok ⟨t, schema, connection⟩))
      [⟨connection, id, ⟨.acquisition, Sql.searchPathStatement schema⟩ :: later⟩]
      [⟨id, .execute connection (Sql.searchPathStatement schema), s''⟩,
        ⟨id, .acquireConnection, s'⟩, ⟨id, .store (.findTenant t), s⟩]

/-- Where a caller stands, what it has and which calls it has made. -/
inductive Standing (m : ServiceModule) (id : CallerId) :
    Option Caller → List Checkout → List Event → Prop where
  | absent : Standing m id none [] []
  | there (t : TenantId) (rest : ServiceProgram (Except SessionError Session)) (out : List Checkout)
      (events : List Event) (h : Progress m id t rest out events) :
    Standing m id (some ⟨t, rest, false⟩) out events
  /-- Nothing is left with a caller that was dropped, or whose session has ended. -/
  | gone (t : TenantId) (rest : ServiceProgram (Except SessionError Session)) (events : List Event)
      (hrest : ∀ e, rest ≠ .done (.error e)) : Standing m id (some ⟨t, rest, true⟩) [] events

theorem Standing.progress {m : ServiceModule} {id : CallerId} {t : TenantId}
    {rest : ServiceProgram (Except SessionError Session)} {out : List Checkout} {events : List Event}
    (h : Standing m id (some ⟨t, rest, false⟩) out events) : Progress m id t rest out events := by
  cases h with
  | there _ _ _ _ h => exact h

namespace State

/-- What a caller has and has done follows how far it has come. -/
def Orderly (m : ServiceModule) (S : State) (id : CallerId) : Prop :=
  Standing m id (S.callers id) (S.checkoutsOf id) (S.eventsOf id)

variable {m : ServiceModule} {S S' : State} {id : CallerId} {t : TenantId}

/-- A caller goes on to where it waits again. -/
private theorem orderly_resume {out : List Checkout} {events : List Event}
    {rest : ServiceProgram (Except SessionError Session)} (hout : S.checkoutsOf id = out)
    (hevents : S.eventsOf id = events)
    (h : Progress m id t (settle rest).2 (out.filter (·.connection ∉ (settle rest).1)) events) :
    (S.resume id t rest).Orderly m id := by
  unfold Orderly resume
  simp only [callers_setCaller_self, checkoutsOf_setCaller, eventsOf_setCaller,
    checkoutsOf_giveBack_self, eventsOf_giveBack, hout, hevents]
  exact .there t _ _ _ h

/-- After a lookup, a caller waits for a connection or has failed. -/
private theorem progress_afterVerdict {s : Store} {reply : Except DbError (Option TenantRecord)}
    (hreply : ∀ record, reply = .ok record → record = s.tenant? t) :
    Progress m id t (settle (afterVerdict t (Resolver.verdict t m reply))).2 []
      [⟨id, .store (.findTenant t), s⟩] := by
  cases hverdict : Resolver.verdict t m reply with
  | error e => exact .unresolved s e
  | ok schema =>
    refine .waiting s schema ?_
    cases reply with
    | error e => cases hverdict
    | ok record =>
      obtain rfl := hreply record rfl
      obtain ⟨r, hrow, -, -, hname⟩ := Resolver.verdict_eq_ok_iff.mp hverdict
      rw [Store.registered?_of_tenant? hrow, hname]

/-- Every move of a caller keeps that. -/
theorem orderly_of_change {move : Move} (h : Change m S move S') (hid : move.caller? = some id)
    (hS : S.Orderly m id) : S'.Orderly m id := by
  unfold Orderly at hS
  generalize hout : S.checkoutsOf id = out at hS
  generalize hevents : S.eventsOf id = events at hS
  cases h with
  | changed s => cases hid
  | started _ t hnew =>
    cases hid
    rw [hnew] at hS
    cases hS
    unfold Orderly
    simp only [callers_setCaller_self, checkoutsOf_setCaller, eventsOf_setCaller, checkoutsOf_enrol,
      eventsOf_enrol, hout, hevents]
    rw [Session.acquire_eq]
    exact .there t _ _ _ .looking
  | answered _ t c k hcaller =>
    cases hid
    cases (hcaller ▸ hS).progress with
    | looking =>
      have hlooked : (S.record id (.store (.findTenant t))).eventsOf id =
          [⟨id, .store (.findTenant t), S.registry⟩] := by
        simp [hevents]
      exact orderly_resume hout hlooked
        (progress_afterVerdict fun record hrecord => (Except.ok.inj hrecord).symm)
  | unanswered _ t c e k hcaller =>
    cases hid
    cases (hcaller ▸ hS).progress with
    | looking =>
      have hlooked : (S.record id (.store (.findTenant t))).eventsOf id =
          [⟨id, .store (.findTenant t), S.registry⟩] := by
        simp [hevents]
      exact orderly_resume hout hlooked (progress_afterVerdict fun record hrecord => by cases hrecord)
  | refused _ t e k hcaller =>
    cases hid
    cases (hcaller ▸ hS).progress with
    | waiting s schema hname => exact orderly_resume hout rfl (.failed (.acquire t e) nofun _)
  | executed _ t connection sql failure k hcaller =>
    cases hid
    cases (hcaller ▸ hS).progress with
    | binding s s' schema _ hname =>
      -- the statement is the first one on the caller's only connection
      have hsent : ((S.record id (.execute connection (Sql.searchPathStatement schema))).note id
          connection ⟨.acquisition, Sql.searchPathStatement schema⟩).checkoutsOf id =
            [⟨connection, id, [⟨.acquisition, Sql.searchPathStatement schema⟩]⟩] := by
        simp [hout]
      refine orderly_resume hsent rfl ?_
      cases failure with
      | some e =>
        -- the connection goes back before the caller hears of the failure
        simp only [replyOf, afterBinding, settle, List.mem_cons, List.not_mem_nil, or_false,
          not_true_eq_false, decide_false, Bool.false_eq_true, not_false_eq_true,
          List.filter_cons_of_neg, List.filter_nil]
        exact .failed (.searchPath t schema e) nofun _
      | none =>
        have hevents' : ((S.record id (.execute connection (Sql.searchPathStatement schema))).note id
            connection ⟨.acquisition, Sql.searchPathStatement schema⟩).eventsOf id =
              [⟨id, .execute connection (Sql.searchPathStatement schema), S.registry⟩,
                ⟨id, .acquireConnection, s'⟩, ⟨id, .store (.findTenant t), s⟩] := by
          simp [hevents]
        rw [hevents']
        exact .bound s s' S.registry schema connection [] hname nofun
  | connected _ t connection k hcaller hfree =>
    cases hid
    cases (hcaller ▸ hS).progress with
    | waiting s schema hname =>
      have hhanded : ((S.record id .acquireConnection).handOut id connection).checkoutsOf id =
          [⟨connection, id, []⟩] := by
        simp [hout]
      have hasked : ((S.record id .acquireConnection).handOut id connection).eventsOf id =
          [⟨id, .acquireConnection, S.registry⟩, ⟨id, .store (.findTenant t), s⟩] := by
        simp [hevents]
      exact orderly_resume hhanded hasked (.binding s S.registry schema connection hname)
  | used _ t session sql hcaller =>
    cases hid
    cases (hcaller ▸ hS).progress with
    | bound s s' s'' schema connection later hname hlater =>
      have hsent : (S.note id connection ⟨.user, sql⟩).checkoutsOf id =
          [⟨connection, id, ⟨.acquisition, Sql.searchPathStatement schema⟩ ::
            (later ++ [⟨.user, sql⟩])⟩] := by
        simp [hout]
      unfold Orderly
      rw [hsent, eventsOf_note, hevents, show (S.note id _ _).callers id = S.callers id from rfl,
        hcaller]
      refine .there t _ _ _ (.bound s s' s'' schema connection _ hname fun statement hmem => ?_)
      rcases List.mem_append.mp hmem with hold | hnew
      · exact hlater statement hold
      · rw [List.mem_singleton.mp hnew]
  | released _ t session hcaller =>
    cases hid
    cases (hcaller ▸ hS).progress with
    | bound s s' s'' schema connection later hname hlater =>
      have hback : (S.giveBack id [connection]).checkoutsOf id = [] := by simp [hout]
      unfold Orderly finish
      rw [callers_setCaller_self, checkoutsOf_setCaller, hback]
      exact .gone t _ _ nofun
  | dropped _ t rest hcaller hrest =>
    cases hid
    unfold Orderly finish
    rw [callers_setCaller_self, checkoutsOf_setCaller, checkoutsOf_giveAllBack_self]
    exact .gone t rest _ hrest

/-! ## All callers -/

/-- What holds of every state that callers get into. -/
structure Inv (m : ServiceModule) (S : State) : Prop where
  orderly : ∀ id, S.Orderly m id
  nodup_ids : S.ids.Nodup
  mem_ids : ∀ id, id ∈ S.ids ↔ (S.callers id).isSome = true
  nodup_out : (S.out.map (·.connection)).Nodup

theorem inv_idle (m : ServiceModule) (s : Store) : (idle s).Inv m where
  orderly _ := .absent
  nodup_ids := List.nodup_nil
  mem_ids _ := by simp [idle]
  nodup_out := List.nodup_nil

private theorem nodup_note {connection : ConnectionId} {statement : Statement}
    (h : (S.out.map (·.connection)).Nodup) :
    ((S.note id connection statement).out.map (·.connection)).Nodup := by
  have hsame : (S.note id connection statement).out.map (·.connection) =
      S.out.map (·.connection) := by
    rw [note, List.map_map]
    refine List.map_congr_left fun k _ => ?_
    simp only [Function.comp_apply]
    split <;> rfl
  rwa [hsame]

private theorem nodup_giveBack {connections : List ConnectionId}
    (h : (S.out.map (·.connection)).Nodup) :
    ((S.giveBack id connections).out.map (·.connection)).Nodup :=
  h.sublist (List.filter_sublist.map _)

/-- No connection is checked out twice. -/
private theorem nodup_of_change {move : Move} (h : Change m S move S')
    (hS : (S.out.map (·.connection)).Nodup) : (S'.out.map (·.connection)).Nodup := by
  cases h with
  | started | changed => exact hS
  | answered | unanswered | refused | released => exact nodup_giveBack hS
  | executed => exact nodup_giveBack (nodup_note hS)
  | connected id t connection k hid hfree => exact nodup_giveBack (List.nodup_cons.mpr ⟨hfree, hS⟩)
  | used => exact nodup_note hS
  | dropped => exact hS.sublist (List.filter_sublist.map _)

private theorem mem_ids_setCaller {caller : Caller} (hS : ∀ id, id ∈ S.ids ↔ (S.callers id).isSome = true)
    (hid : (S.callers id).isSome = true) (other : CallerId) :
    other ∈ S.ids ↔ ((S.setCaller id caller).callers other).isSome = true := by
  by_cases hother : other = id
  · subst hother
    simp [hS, hid]
  · simp [hS, hother]

/-- A name stands for one caller, which is there to stay. -/
private theorem ids_of_change {move : Move} (h : Change m S move S') (hS : S.ids.Nodup)
    (hmem : ∀ id, id ∈ S.ids ↔ (S.callers id).isSome = true) :
    S'.ids.Nodup ∧ ∀ id, id ∈ S'.ids ↔ (S'.callers id).isSome = true := by
  cases h with
  | started id t hnew =>
    refine ⟨List.nodup_cons.mpr ⟨fun hold => ?_, hS⟩, fun other => ?_⟩
    · rw [hmem, hnew] at hold
      cases hold
    · by_cases hother : other = id
      · subst hother
        simp [enrol, setCaller]
      · simpa [enrol, setCaller, hother, Function.update_of_ne hother] using hmem other
  | answered id _ _ _ hid | unanswered id _ _ _ _ hid | refused id _ _ _ hid
  | executed id _ _ _ _ _ hid | connected id _ _ _ hid | released id _ _ hid
  | dropped id _ _ hid =>
    exact ⟨hS, mem_ids_setCaller hmem (by rw [hid, Option.isSome_some])⟩
  | used | changed => exact ⟨hS, hmem⟩

theorem Inv.of_change {move : Move} (h : Change m S move S') (hS : S.Inv m) : S'.Inv m where
  orderly id := by
    by_cases hid : move.caller? = some id
    · exact orderly_of_change h hid (hS.orderly id)
    · obtain ⟨hcaller, hout, hevents⟩ := h.frame hid
      rw [Orderly, hcaller, hout, hevents]
      exact hS.orderly id
  nodup_ids := (ids_of_change h hS.nodup_ids hS.mem_ids).1
  mem_ids := (ids_of_change h hS.nodup_ids hS.mem_ids).2
  nodup_out := nodup_of_change h hS.nodup_out

theorem Inv.run {moves : List Move} (h : S.run m moves = some S') (hS : S.Inv m) : S'.Inv m := by
  induction moves generalizing S with
  | nil =>
    cases h
    exact hS
  | cons move moves ih =>
    rw [run_cons] at h
    obtain ⟨S₁, hstep, hrest⟩ := Option.bind_eq_some_iff.mp h
    exact ih hrest (hS.of_change (change_of_step hstep))

/-! ## Who has the connections -/

/-- A caller has a session. -/
def isLive (S : State) (id : CallerId) : Bool := (S.callers id).any (·.isLive)

/-- A caller has a connection whose statement has not ended. -/
def isBinding (S : State) (id : CallerId) : Bool := (S.callers id).any (·.isBinding)

/-- A caller has one connection or none. -/
private theorem length_checkoutsOf (h : S.Orderly m id) :
    (S.checkoutsOf id).length = if S.isLive id || S.isBinding id then 1 else 0 := by
  unfold Orderly at h
  unfold isLive isBinding
  generalize S.callers id = caller at h ⊢
  generalize S.checkoutsOf id = out at h ⊢
  generalize S.eventsOf id = events at h
  cases h with
  | absent => rfl
  | there t rest _ _ h => cases h <;> rfl
  | gone t rest _ hrest => cases rest <;> rfl

/-- It does not have it in two ways. -/
private theorem isLive_of_isBinding (h : S.isBinding id = true) : S.isLive id = false := by
  unfold isBinding at h
  unfold isLive
  cases hcaller : S.callers id with
  | none => rfl
  | some caller =>
    rw [hcaller] at h
    obtain ⟨t, rest, ended⟩ := caller
    cases ended <;> cases rest <;> first | rfl | cases h

/-- The connections that are checked out are those of the sessions, and those of callers that wait for
    the end of a statement. -/
theorem length_out (h : S.Inv m) :
    S.out.length = S.ids.countP S.isLive + S.ids.countP S.isBinding := by
  have hcount : ∀ id, (S.out.map (·.holder)).count id =
      if S.isLive id || S.isBinding id then 1 else 0 := by
    intro id
    rw [← length_checkoutsOf (h.orderly id), checkoutsOf, ← List.countP_eq_length_filter, List.count,
      List.countP_map]
    rfl
  -- every caller that has a connection is the holder of one
  have hperm : (S.out.map (·.holder)).Perm (S.ids.filter fun id => S.isLive id || S.isBinding id) := by
    refine List.perm_iff_count.mpr fun id => ?_
    rw [hcount]
    split
    · next hhas =>
      have hmem : id ∈ S.ids := by
        rw [h.mem_ids]
        cases hcaller : S.callers id with
        | none => simp [isLive, isBinding, hcaller] at hhas
        | some caller => rfl
      exact (List.count_eq_one_of_mem (h.nodup_ids.filter _) (List.mem_filter.mpr ⟨hmem, hhas⟩)).symm
    · next hnone =>
      refine (List.count_eq_zero.mpr ?_).symm
      intro hmem
      exact hnone (List.mem_filter.mp hmem).2
  calc S.out.length = (S.ids.filter fun id => S.isLive id || S.isBinding id).length := by
        rw [← hperm.length_eq, List.length_map]
    _ = S.ids.countP S.isLive + S.ids.countP S.isBinding := by
        rw [List.length_eq_countP_add_countP S.isLive, List.countP_filter, List.countP_filter]
        congr 1 <;> refine List.countP_congr fun id _ => ?_
        · simpa using Or.inl
        · have hnot : S.isBinding id = true → S.isLive id = false := isLive_of_isBinding
          cases hbinding : S.isBinding id <;> simp_all

/-! ## A run without one of the callers -/

/-- The state without a caller. -/
def without (S : State) (id : CallerId) : State where
  registry := S.registry
  out := S.out.filter (·.holder ≠ id)
  ids := S.ids.filter (· ≠ id)
  callers := Function.update S.callers id none
  log := S.log.filter (·.caller ≠ id)

section Without

variable {other : CallerId} {caller : Caller}

theorem without_idle (s : Store) (id : CallerId) : (idle s).without id = idle s := by
  simp [without, idle]

theorem callers_without (h : other ≠ id) : (S.without id).callers other = S.callers other :=
  Function.update_of_ne h ..

theorem without_setCaller_self : (S.setCaller id caller).without id = S.without id := by
  simp [without, setCaller]

theorem without_setCaller_of_ne (h : other ≠ id) :
    (S.setCaller other caller).without id = (S.without id).setCaller other caller := by
  simp [without, setCaller, Function.update_comm h]

theorem without_enrol_self : (S.enrol id).without id = S.without id := by
  simp [without, enrol]

theorem without_enrol_of_ne (h : other ≠ id) : (S.enrol other).without id = (S.without id).enrol other := by
  simp [without, enrol, h]

theorem without_setRegistry (s : Store) : (S.setRegistry s).without id = (S.without id).setRegistry s := rfl

theorem without_record_self (call : ServiceCall) : (S.record id call).without id = S.without id := by
  simp [without, record]

theorem without_record_of_ne (h : other ≠ id) (call : ServiceCall) :
    (S.record other call).without id = (S.without id).record other call := by
  simp [without, record, h]

theorem without_handOut_self (connection : ConnectionId) :
    (S.handOut id connection).without id = S.without id := by
  simp [without, handOut]

theorem without_handOut_of_ne (h : other ≠ id) (connection : ConnectionId) :
    (S.handOut other connection).without id = (S.without id).handOut other connection := by
  simp [without, handOut, h]

theorem without_giveBack_self (connections : List ConnectionId) :
    (S.giveBack id connections).without id = S.without id := by
  simp only [without, giveBack, List.filter_filter]
  congr 1
  refine List.filter_congr fun k _ => ?_
  by_cases hk : k.holder = id <;> simp [hk]

theorem without_giveBack_of_ne (connections : List ConnectionId) :
    (S.giveBack other connections).without id = (S.without id).giveBack other connections := by
  simp only [without, giveBack, List.filter_filter, Bool.and_comm]

theorem without_giveAllBack_self : (S.giveAllBack id).without id = S.without id := by
  simp [without, giveAllBack]

theorem without_giveAllBack_of_ne :
    (S.giveAllBack other).without id = (S.without id).giveAllBack other := by
  simp only [without, giveAllBack, List.filter_filter, Bool.and_comm]

theorem without_note_self (connection : ConnectionId) (statement : Statement) :
    (S.note id connection statement).without id = S.without id := by
  have hout := filter_note_of_ne S id (p := (· ≠ id)) (by simp) connection statement
  simp only [without]
  rw [hout]
  rfl

theorem without_note_of_ne (connection : ConnectionId) (statement : Statement) :
    (S.note other connection statement).without id =
      (S.without id).note other connection statement := by
  have hout := filter_note S other (· ≠ id) connection statement
  simp only [without]
  rw [hout]
  rfl

theorem without_resume_self (rest : ServiceProgram (Except SessionError Session)) :
    (S.resume id t rest).without id = S.without id := by
  rw [resume, without_setCaller_self, without_giveBack_self]

theorem without_resume_of_ne (h : other ≠ id) (rest : ServiceProgram (Except SessionError Session)) :
    (S.resume other t rest).without id = (S.without id).resume other t rest := by
  rw [resume, without_setCaller_of_ne h, without_giveBack_of_ne, resume]

end Without

/-- A caller's own moves are not seen without it. -/
theorem without_of_change_self {move : Move} (h : Change m S move S') (hid : move.caller? = some id)
    (hS : S.Orderly m id) : S'.without id = S.without id := by
  cases h with
  | changed s => cases hid
  | started _ t hnew =>
    cases hid
    rw [without_setCaller_self, without_enrol_self]
  | answered _ t c k hcaller =>
    cases hid
    unfold Orderly at hS
    rw [hcaller] at hS
    cases hS with
    | there _ _ _ _ h =>
      -- a lookup leaves the registry as it is
      generalize S.checkoutsOf id = out at h
      generalize S.eventsOf id = events at h
      cases h with
      | looking =>
        rw [without_resume_self, without_setRegistry, without_record_self]
        rfl
  | unanswered _ t c e k hcaller | refused _ t e k hcaller =>
    cases hid
    rw [without_resume_self, without_record_self]
  | executed _ t connection sql failure k hcaller =>
    cases hid
    rw [without_resume_self, without_note_self, without_record_self]
  | connected _ t connection k hcaller hfree =>
    cases hid
    rw [without_resume_self, without_handOut_self, without_record_self]
  | used _ t session sql hcaller =>
    cases hid
    exact without_note_self session.connection _
  | released _ t session hcaller =>
    cases hid
    rw [finish, without_setCaller_self, without_giveBack_self]
  | dropped _ t rest hcaller hrest =>
    cases hid
    rw [finish, without_setCaller_self, without_giveAllBack_self]

/-- Another caller's moves can be made without it, too. -/
theorem Change.without {move : Move} (h : Change m S move S') (hother : move.caller? ≠ some id) :
    Change m (S.without id) move (S'.without id) := by
  have hne : ∀ other, move.caller? = some other → other ≠ id := fun other hmove hsame =>
    hother (hmove.trans (congrArg some hsame))
  have hthere : ∀ {other : CallerId} {caller : Option Caller}, move.caller? = some other →
      S.callers other = caller → (S.without id).callers other = caller := fun hmove hcaller =>
    (callers_without (hne _ hmove)).trans hcaller
  cases h with
  | changed s => exact .changed s
  | started other t hnew =>
    rw [without_setCaller_of_ne (hne other rfl), without_enrol_of_ne (hne other rfl)]
    exact .started other t (hthere rfl hnew)
  | answered other t c k hcaller =>
    rw [without_resume_of_ne (hne other rfl), without_setRegistry, without_record_of_ne (hne other rfl)]
    exact .answered other t c k (hthere rfl hcaller)
  | unanswered other t c e k hcaller =>
    rw [without_resume_of_ne (hne other rfl), without_record_of_ne (hne other rfl)]
    exact .unanswered other t c e k (hthere rfl hcaller)
  | refused other t e k hcaller =>
    rw [without_resume_of_ne (hne other rfl), without_record_of_ne (hne other rfl)]
    exact .refused other t e k (hthere rfl hcaller)
  | executed other t connection sql failure k hcaller =>
    rw [without_resume_of_ne (hne other rfl), without_note_of_ne, without_record_of_ne (hne other rfl)]
    exact .executed other t connection sql failure k (hthere rfl hcaller)
  | connected other t connection k hcaller hfree =>
    rw [without_resume_of_ne (hne other rfl), without_handOut_of_ne (hne other rfl),
      without_record_of_ne (hne other rfl)]
    refine .connected other t connection k (hthere rfl hcaller) fun hmem => hfree ?_
    exact (List.filter_sublist.map _).subset hmem
  | used other t session sql hcaller =>
    rw [without_note_of_ne]
    exact .used other t session sql (hthere rfl hcaller)
  | released other t session hcaller =>
    rw [finish, without_setCaller_of_ne (hne other rfl), without_giveBack_of_ne]
    exact .released other t session (hthere rfl hcaller)
  | dropped other t rest hcaller hrest =>
    rw [finish, without_setCaller_of_ne (hne other rfl), without_giveAllBack_of_ne]
    exact .dropped other t rest (hthere rfl hcaller) hrest

/-- Without a caller the others can make all their moves, and get to the state without it. -/
theorem run_without {moves : List Move} (hS : S.Inv m) (h : S.run m moves = some S') (id : CallerId) :
    (S.without id).run m (moves.filter fun move => move.caller? ≠ some id) = some (S'.without id) := by
  induction moves generalizing S with
  | nil =>
    cases h
    rfl
  | cons move moves ih =>
    rw [run_cons] at h
    obtain ⟨S₁, hstep, hrest⟩ := Option.bind_eq_some_iff.mp h
    have hchange := change_of_step hstep
    have hwithout := ih (hS.of_change hchange) hrest
    by_cases hmove : move.caller? = some id
    · rw [without_of_change_self hchange hmove (hS.orderly id)] at hwithout
      rwa [List.filter_cons_of_neg (by simpa using hmove)]
    · rw [List.filter_cons_of_pos (by simpa using hmove), run_cons, step_of_change (hchange.without hmove)]
      exact hwithout

/-- A caller that got no session has no connection. -/
theorem out_without_of_fruitless {caller : Caller} (hS : S.Orderly m id)
    (hcaller : S.callers id = some caller) (hfruitless : caller.Fruitless) :
    (S.without id).out = S.out := by
  have hnone : S.checkoutsOf id = [] := by
    unfold Orderly at hS
    rw [hcaller] at hS
    generalize S.eventsOf id = events at hS
    generalize S.checkoutsOf id = out at hS ⊢
    cases hS with
    | gone => rfl
    | there t rest _ _ h =>
      -- it has not failed where it holds a connection
      rcases hfruitless with ⟨e, rfl⟩ | ⟨hover, -⟩
      · cases h <;> rfl
      · cases hover
  refine List.filter_eq_self.mpr fun k hk => ?_
  by_contra hholder
  have hmem : k ∈ S.checkoutsOf id := List.mem_filter.mpr ⟨hk, by simpa using hholder⟩
  rw [hnone] at hmem
  cases hmem

end State

/-- Whatever callers do, and whichever of their calls fail: the connections that are checked out are
    those of the live sessions and those of acquisitions whose statement has not ended, each of them
    once; an acquisition that failed or was dropped leaves them as if it had never been made; one whose
    resolution failed has made no other call than its lookup; and on the connection of a live session
    the first statement is the one that binds it to the schema that the registry named at the lookup,
    and those after it are the user's. -/
theorem connections_accounted_for (m : ServiceModule) (s : Store) (moves : List Move) (S : State)
    (hrun : (State.idle s).run m moves = some S) :
    S.out.length = S.ids.countP S.isLive + S.ids.countP S.isBinding ∧
      (S.out.map (·.connection)).Nodup ∧
      (∀ id caller, S.callers id = some caller → caller.Fruitless →
        ∃ S', (State.idle s).run m (moves.filter fun move => move.caller? ≠ some id) = some S' ∧
          S'.out = S.out) ∧
      (∀ id caller e, S.callers id = some caller → caller.rest = .done (.error (.resolve e)) →
        ∃ found, S.eventsOf id = [⟨id, .store (.findTenant caller.tenant), found⟩]) ∧
      ∀ id caller session, S.callers id = some caller → caller.session? = some session →
        ∃ found later s' s'', found.registered? m caller.tenant = some session.schema ∧
          session.tenant = caller.tenant ∧
          S.eventsOf id = [⟨id, .execute session.connection (Sql.searchPathStatement session.schema), s''⟩,
            ⟨id, .acquireConnection, s'⟩, ⟨id, .store (.findTenant caller.tenant), found⟩] ∧
          (∀ statement ∈ later, statement.issuer = .user) ∧
          ⟨session.connection, id,
            ⟨.acquisition, Sql.searchPathStatement session.schema⟩ :: later⟩ ∈ S.out := by
  have hinv : S.Inv m := (State.inv_idle m s).run hrun
  refine ⟨State.length_out hinv, hinv.nodup_out, fun id caller hcaller hfruitless => ?_,
    fun id caller e hcaller hrest => ?_, fun id caller session hcaller hsession => ?_⟩
  · have hwithout := State.run_without (State.inv_idle m s) hrun id
    rw [State.without_idle] at hwithout
    exact ⟨S.without id, hwithout,
      State.out_without_of_fruitless (hinv.orderly id) hcaller hfruitless⟩
  · have hstanding := hinv.orderly id
    obtain ⟨t, rest, ended⟩ := caller
    obtain rfl : rest = _ := hrest
    rw [State.Orderly, hcaller] at hstanding
    generalize S.checkoutsOf id = out at hstanding
    generalize S.eventsOf id = events at hstanding ⊢
    cases hstanding with
    | gone _ _ _ hrest => exact absurd rfl (hrest _)
    | there _ _ _ _ h =>
      cases h with
      | unresolved found => exact ⟨found, rfl⟩
      | failed _ he => exact absurd rfl (he e)
  · have hstanding := hinv.orderly id
    obtain ⟨t, rest, ended⟩ := caller
    obtain ⟨rfl, rfl⟩ : ended = false ∧ rest = _ := Caller.session?_eq_some_iff.mp hsession
    rw [State.Orderly, hcaller] at hstanding
    generalize hout : S.checkoutsOf id = out at hstanding
    generalize S.eventsOf id = events at hstanding ⊢
    cases hstanding with
    | there _ _ _ _ h =>
      cases h with
      | bound found s' s'' schema connection later hname hlater =>
        refine ⟨found, later, s', s'', hname, rfl, rfl, hlater, ?_⟩
        exact (List.mem_filter.mp (hout ▸ List.mem_singleton_self _ : _ ∈ S.checkoutsOf id)).1

/-- A registry with two tenants, one with white space around its name. -/
def twoTenants : Store where
  tenants :=
    [{ TenantRecord.unnamed .operations ⟨3⟩ with schemas := { operations := some "ops_globex" } },
      { TenantRecord.unnamed .operations ⟨4⟩ with schemas := { operations := some " ops_acme" } }]

/-- Two tenants get a session each, the second one on a connection whose statement for another caller
    failed. Besides, a lookup finds nothing, one caller is dropped and one waits. -/
def busy : List Move :=
  [.start 0 ⟨3⟩, .start 1 ⟨4⟩, .start 2 ⟨5⟩, .start 3 ⟨3⟩, .start 4 ⟨4⟩, .start 5 ⟨3⟩,
    .proceed 0 none, .connect 0 7, .proceed 2 none, .proceed 3 none, .connect 3 8,
    .proceed 0 none, .use 0 "SELECT 1", .proceed 3 (some .poolTimedOut), .proceed 1 none,
    .connect 1 8, .proceed 4 none, .connect 4 9, .proceed 5 none, .drop 4, .connect 5 9,
    .proceed 1 none, .use 1 "SELECT 2"]

/-- The caller that was dropped and the two that failed have left nothing, and each session is bound to
    its tenant's schema. -/
theorem connections_accounted_for_busy :
    ∃ S, (State.idle twoTenants).run .operations busy = some S ∧
      S.out.length = S.ids.countP S.isLive + S.ids.countP S.isBinding ∧
      S.ids.countP S.isLive = 2 ∧ S.ids.countP S.isBinding = 1 ∧
      (∃ S', (State.idle twoTenants).run .operations
        (busy.filter fun move => move.caller? ≠ some 4) = some S' ∧ S'.out = S.out) ∧
      (∃ found, S.eventsOf 2 = [⟨2, .store (.findTenant ⟨5⟩), found⟩]) ∧
      ∃ later, (∀ statement ∈ later, statement.issuer = .user) ∧
        ⟨8, 1, ⟨.acquisition, Sql.searchPathStatement "ops_acme"⟩ :: later⟩ ∈ S.out := by
  let S := ((State.idle twoTenants).run .operations busy).get rfl
  have hrun : (State.idle twoTenants).run .operations busy = some S := (Option.some_get _).symm
  obtain ⟨hlength, -, hfruitless, hresolve, hlive⟩ := connections_accounted_for _ _ _ _ hrun
  obtain ⟨found, later, s', s'', -, -, -, hlater, hmem⟩ :=
    hlive 1 _ ⟨⟨4⟩, "ops_acme", 8⟩ rfl rfl
  exact ⟨S, hrun, hlength, rfl, rfl, hfruitless 4 _ rfl (.inr ⟨rfl, _, _, rfl⟩),
    hresolve 2 _ _ rfl rfl, later, hlater, hmem⟩

end Sessions

end Tenancy
