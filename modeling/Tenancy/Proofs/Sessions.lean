import Mathlib.Logic.Function.Basic
import Tenancy.Session
import Tenancy.Store.Memory

/-!
# Sessions side by side

Any number of callers ask for sessions of a module, use them and give them up. Their connections come
from one source, which hands out no connection that somebody has. `State.step` lets one caller take
one step: the reply to a lookup, the hand-out of a connection, the end of a statement. A caller may be
dropped wherever it waits, and a session whenever nobody uses it; what they hold goes back to the
source at that moment, as it does where a program returns a connection without waiting.

What a caller does is the program `Session.acquire`. The registry may change at any time.

## Key results

- `State.change_of_step`, `State.step_of_change`: what one move can do
- `State.Change.frame`: a move leaves other callers alone
-/

namespace Tenancy

namespace Sessions

/-- Names a caller that asks for a session. -/
abbrev CallerId := Nat

/-- Who sent a statement. -/
inductive Issuer where
  /-- The acquisition of a session. -/
  | acquisition
  /-- The user of a session. -/
  | user
  deriving DecidableEq

/-- A statement that was sent, whether it failed or not. -/
structure Statement where
  issuer : Issuer
  sql : String
  deriving DecidableEq

/-- A connection that is checked out. -/
structure Checkout where
  connection : ConnectionId
  holder : CallerId
  /-- The statements since the checkout, first one first. -/
  statements : List Statement
  deriving DecidableEq

/-- A call that a caller made, and the registry at its end. -/
structure Event where
  caller : CallerId
  call : ServiceCall
  registry : Store

/-- A caller, and what is left of its program. -/
structure Caller where
  tenant : TenantId
  rest : ServiceProgram (Except SessionError Session)
  /-- It was dropped where it waited, or its session has ended. -/
  ended : Bool := false

namespace Caller

/-- The session of a caller that has one. -/
def session? (c : Caller) : Option Session :=
  match c.ended, c.rest with
  | false, .done (.ok session) => some session
  | _, _ => none

theorem session?_eq_some_iff {c : Caller} {session : Session} :
    c.session? = some session ↔ c.ended = false ∧ c.rest = .done (.ok session) := by
  unfold session?
  split <;> simp_all

/-- A caller has a session. -/
def isLive (c : Caller) : Bool := c.session?.isSome

/-- A caller has a connection, and waits for the end of a statement on it. -/
def isBinding (c : Caller) : Bool :=
  match c.ended, c.rest with
  | false, .ask (.execute _ _) _ => true
  | _, _ => false

/-- A caller got no session: its acquisition failed, or was dropped before its end. -/
def Fruitless (c : Caller) : Prop :=
  (∃ e, c.rest = .done (.error e)) ∨ c.ended = true ∧ ∃ call k, c.rest = .ask call k

end Caller

/-- The registry, the connections that are checked out, and the callers. -/
structure State where
  registry : Store
  out : List Checkout := []
  /-- The callers there are, the last one first. -/
  ids : List CallerId := []
  callers : CallerId → Option Caller := fun _ => none
  /-- The calls whose ends callers saw, the last one first. -/
  log : List Event := []

/-- What happens next. -/
inductive Move where
  /-- A session is asked for; the caller's name must be new. -/
  | start (id : CallerId) (tenant : TenantId)
  /-- The call that a caller waits for ends, with a failure where one is given. -/
  | proceed (id : CallerId) (failure : Option DbError)
  /-- A caller gets a connection that nobody has. -/
  | connect (id : CallerId) (connection : ConnectionId)
  /-- A statement is sent through a session. -/
  | use (id : CallerId) (sql : String)
  /-- A session is released. -/
  | release (id : CallerId)
  /-- A caller is dropped where it waits, or its session is dropped. -/
  | drop (id : CallerId)
  /-- The registry changes. -/
  | change (registry : Store)

/-- The caller whose move it is. -/
def Move.caller? : Move → Option CallerId
  | start id _ | proceed id _ | connect id _ | use id _ | release id | drop id => some id
  | change _ => none

/-- The connections that a program returns before it waits, and what is left of it then. -/
def settle {α : Type} : ServiceProgram α → List ConnectionId × ServiceProgram α
  | .ask (.returnConnection c) k => ((settle (k ())).1.cons c, (settle (k ())).2)
  | p => ([], p)

namespace State

/-- Nobody has asked for a session. -/
def idle (s : Store) : State where
  registry := s

def setCaller (S : State) (id : CallerId) (caller : Caller) : State :=
  { S with callers := Function.update S.callers id (some caller) }

/-- There is one caller more. -/
def enrol (S : State) (id : CallerId) : State := { S with ids := id :: S.ids }

def setRegistry (S : State) (s : Store) : State := { S with registry := s }

/-- A call of a caller has ended. -/
def record (S : State) (id : CallerId) (call : ServiceCall) : State :=
  { S with log := ⟨id, call, S.registry⟩ :: S.log }

/-- The source hands a connection out. -/
def handOut (S : State) (id : CallerId) (connection : ConnectionId) : State :=
  { S with out := ⟨connection, id, []⟩ :: S.out }

/-- Connections of a caller go back to the source. -/
def giveBack (S : State) (id : CallerId) (connections : List ConnectionId) : State :=
  { S with out := S.out.filter fun k => k.holder ≠ id ∨ k.connection ∉ connections }

/-- All that a caller holds goes back to the source. -/
def giveAllBack (S : State) (id : CallerId) : State :=
  { S with out := S.out.filter (·.holder ≠ id) }

/-- A statement was sent on a caller's connection. -/
def note (S : State) (id : CallerId) (connection : ConnectionId) (statement : Statement) : State :=
  { S with out := S.out.map fun k =>
      if k.holder = id ∧ k.connection = connection then
        { k with statements := k.statements ++ [statement] }
      else k }

/-- A caller goes on with what is left of its program, up to where it waits again. -/
def resume (S : State) (id : CallerId) (t : TenantId)
    (rest : ServiceProgram (Except SessionError Session)) : State :=
  (S.giveBack id (settle rest).1).setCaller id { tenant := t, rest := (settle rest).2 }

/-- A caller has nothing left to do, or is not to do what is left. -/
def finish (S : State) (id : CallerId) (caller : Caller) : State :=
  S.setCaller id { caller with ended := true }

/-- How a statement ends. -/
def replyOf : Option DbError → Except DbError Unit
  | some e => .error e
  | none => .ok ()

/-- The call that a caller waits for ends. -/
def proceed (S : State) (id : CallerId) (caller : Caller) (failure : Option DbError) : Option State :=
  match caller.rest, failure with
  | .ask (.store c) k, some e =>
    some ((S.record id (.store c)).resume id caller.tenant (k (.error e)))
  | .ask (.store c) k, none =>
    some (((S.record id (.store c)).setRegistry (S.registry.apply c).2).resume id caller.tenant
      (k (.ok (S.registry.apply c).1)))
  | .ask .acquireConnection k, some e =>
    some ((S.record id .acquireConnection).resume id caller.tenant (k (.error e)))
  | .ask (.execute connection sql) k, failure =>
    some (((S.record id (.execute connection sql)).note id connection ⟨.acquisition, sql⟩).resume id
      caller.tenant (k (replyOf failure)))
  | _, _ => none

/-- A caller gets a connection. -/
def connect (S : State) (id : CallerId) (caller : Caller) (connection : ConnectionId) :
    Option State :=
  match caller.rest with
  | .ask .acquireConnection k =>
    if connection ∈ S.out.map (·.connection) then none
    else some (((S.record id .acquireConnection).handOut id connection).resume id caller.tenant
      (k (.ok connection)))
  | _ => none

/-- A caller is dropped, or its session. -/
def drop (S : State) (id : CallerId) (caller : Caller) : Option State :=
  match caller.rest with
  | .done (.error _) => none
  | _ => some ((S.giveAllBack id).finish id caller)

/-- A caller that is still there. -/
def caller? (S : State) (id : CallerId) : Option Caller := (S.callers id).filter (!·.ended)

/-- One move, if it can be made. -/
def step (m : ServiceModule) (S : State) : Move → Option State
  | .start id t =>
    if (S.callers id).isNone then
      some ((S.enrol id).setCaller id { tenant := t, rest := Session.acquire t m })
    else none
  | .proceed id failure => (S.caller? id).bind fun caller => S.proceed id caller failure
  | .connect id connection => (S.caller? id).bind fun caller => S.connect id caller connection
  | .use id sql =>
    (S.caller? id).bind fun caller => caller.session?.map fun session =>
      S.note id session.connection ⟨.user, sql⟩
  | .release id =>
    (S.caller? id).bind fun caller => caller.session?.map fun session =>
      (S.giveBack id (settle session.release).1).finish id caller
  | .drop id => (S.caller? id).bind fun caller => S.drop id caller
  | .change s => some (S.setRegistry s)

/-- One interleaving, if each of its moves can be made. -/
def run (m : ServiceModule) (S : State) (moves : List Move) : Option State :=
  moves.foldlM (step m) S

theorem run_cons (m : ServiceModule) (S : State) (move : Move) (moves : List Move) :
    S.run m (move :: moves) = (S.step m move).bind fun S' => S'.run m moves := rfl

/-! ## One caller -/

/-- The connections that a caller has. -/
def checkoutsOf (S : State) (id : CallerId) : List Checkout := S.out.filter (·.holder = id)

/-- The calls of a caller that have ended, the last one first. -/
def eventsOf (S : State) (id : CallerId) : List Event := S.log.filter (·.caller = id)

section Parts

variable {S : State} {id other : CallerId} {caller : Caller}

@[simp] theorem callers_setCaller_self : (S.setCaller id caller).callers id = some caller :=
  Function.update_self ..

@[simp] theorem callers_setCaller_of_ne (h : other ≠ id) :
    (S.setCaller id caller).callers other = S.callers other :=
  Function.update_of_ne h ..

@[simp] theorem checkoutsOf_setCaller : (S.setCaller id caller).checkoutsOf other = S.checkoutsOf other :=
  rfl

@[simp] theorem checkoutsOf_enrol : (S.enrol id).checkoutsOf other = S.checkoutsOf other := rfl

@[simp] theorem checkoutsOf_setRegistry {s : Store} :
    (S.setRegistry s).checkoutsOf other = S.checkoutsOf other := rfl

@[simp] theorem checkoutsOf_record {call : ServiceCall} :
    (S.record id call).checkoutsOf other = S.checkoutsOf other := rfl

@[simp] theorem checkoutsOf_handOut_self {connection : ConnectionId} :
    (S.handOut id connection).checkoutsOf id = ⟨connection, id, []⟩ :: S.checkoutsOf id := by
  simp [handOut, checkoutsOf]

@[simp] theorem checkoutsOf_handOut_of_ne {connection : ConnectionId} (h : other ≠ id) :
    (S.handOut id connection).checkoutsOf other = S.checkoutsOf other := by
  simp [handOut, checkoutsOf, h.symm]

@[simp] theorem checkoutsOf_giveBack_self {connections : List ConnectionId} :
    (S.giveBack id connections).checkoutsOf id =
      (S.checkoutsOf id).filter (·.connection ∉ connections) := by
  simp only [giveBack, checkoutsOf, List.filter_filter]
  refine List.filter_congr fun k _ => ?_
  by_cases hk : k.holder = id <;> simp [hk]

@[simp] theorem checkoutsOf_giveBack_of_ne {connections : List ConnectionId} (h : other ≠ id) :
    (S.giveBack id connections).checkoutsOf other = S.checkoutsOf other := by
  simp only [giveBack, checkoutsOf, List.filter_filter]
  refine List.filter_congr fun k _ => ?_
  by_cases hk : k.holder = other <;> simp [hk, h]

@[simp] theorem checkoutsOf_giveAllBack_self : (S.giveAllBack id).checkoutsOf id = [] := by
  simp [giveAllBack, checkoutsOf]

@[simp] theorem checkoutsOf_giveAllBack_of_ne (h : other ≠ id) :
    (S.giveAllBack id).checkoutsOf other = S.checkoutsOf other := by
  simp only [giveAllBack, checkoutsOf, List.filter_filter]
  refine List.filter_congr fun k _ => ?_
  by_cases hk : k.holder = other <;> simp [hk, h]

/-- A statement does not change who holds a connection. -/
theorem filter_note (S : State) (id : CallerId) (p : CallerId → Bool) (connection : ConnectionId) (statement : Statement) :
    ((S.note id connection statement).out.filter fun k => p k.holder) =
      (S.out.filter fun k => p k.holder).map fun k =>
        if k.holder = id ∧ k.connection = connection then
          { k with statements := k.statements ++ [statement] }
        else k := by
  rw [note, List.filter_map]
  congr 1
  refine List.filter_congr fun k _ => ?_
  simp only [Function.comp_apply]
  split <;> rfl

/-- It concerns the connections of its caller only. -/
theorem filter_note_of_ne (S : State) (id : CallerId) {p : CallerId → Bool} (hp : p id = false)
    (connection : ConnectionId) (statement : Statement) : ((S.note id connection statement).out.filter fun k => p k.holder) =
      S.out.filter fun k => p k.holder := by
  rw [filter_note]
  refine (List.map_congr_left fun k hk => if_neg ?_).trans (List.map_id _)
  rintro ⟨hholder, -⟩
  have hpk := (List.mem_filter.mp hk).2
  rw [hholder, hp] at hpk
  cases hpk

@[simp] theorem checkoutsOf_note_self {connection : ConnectionId} {statement : Statement} :
    (S.note id connection statement).checkoutsOf id = (S.checkoutsOf id).map fun k =>
      if k.connection = connection then { k with statements := k.statements ++ [statement] }
      else k := by
  refine (filter_note S id (· = id) connection statement).trans (List.map_congr_left fun k hk => ?_)
  simp [of_decide_eq_true (List.mem_filter.mp hk).2]

@[simp] theorem checkoutsOf_note_of_ne {connection : ConnectionId} {statement : Statement}
    (h : other ≠ id) : (S.note id connection statement).checkoutsOf other = S.checkoutsOf other :=
  filter_note_of_ne S id (p := (· = other)) (by simpa using h.symm) connection statement

@[simp] theorem eventsOf_setCaller : (S.setCaller id caller).eventsOf other = S.eventsOf other := rfl

@[simp] theorem eventsOf_enrol : (S.enrol id).eventsOf other = S.eventsOf other := rfl

@[simp] theorem eventsOf_setRegistry {s : Store} :
    (S.setRegistry s).eventsOf other = S.eventsOf other := rfl

@[simp] theorem eventsOf_record_self {call : ServiceCall} :
    (S.record id call).eventsOf id = ⟨id, call, S.registry⟩ :: S.eventsOf id := by
  simp [record, eventsOf]

@[simp] theorem eventsOf_record_of_ne {call : ServiceCall} (h : other ≠ id) :
    (S.record id call).eventsOf other = S.eventsOf other := by
  simp [record, eventsOf, h.symm]

@[simp] theorem eventsOf_handOut {connection : ConnectionId} :
    (S.handOut id connection).eventsOf other = S.eventsOf other := rfl

@[simp] theorem eventsOf_giveBack {connections : List ConnectionId} :
    (S.giveBack id connections).eventsOf other = S.eventsOf other := rfl

@[simp] theorem eventsOf_giveAllBack : (S.giveAllBack id).eventsOf other = S.eventsOf other := rfl

@[simp] theorem eventsOf_note {connection : ConnectionId} {statement : Statement} :
    (S.note id connection statement).eventsOf other = S.eventsOf other := rfl

end Parts

/-! ## What one move can do -/

/-- What a move can do. -/
inductive Change (m : ServiceModule) (S : State) : Move → State → Prop where
  | started (id : CallerId) (t : TenantId) (hnew : S.callers id = none) :
    Change m S (.start id t)
      ((S.enrol id).setCaller id { tenant := t, rest := Session.acquire t m })
  /-- A call to the stores succeeded. -/
  | answered (id : CallerId) (t : TenantId) (c : StoreCall)
      (k : c.Reply → ServiceProgram (Except SessionError Session))
      (hid : S.callers id = some ⟨t, .ask (.store c) k, false⟩) :
    Change m S (.proceed id none)
      (((S.record id (.store c)).setRegistry (S.registry.apply c).2).resume id t
        (k (.ok (S.registry.apply c).1)))
  /-- A call to the stores failed. -/
  | unanswered (id : CallerId) (t : TenantId) (c : StoreCall) (e : DbError)
      (k : c.Reply → ServiceProgram (Except SessionError Session))
      (hid : S.callers id = some ⟨t, .ask (.store c) k, false⟩) :
    Change m S (.proceed id (some e)) ((S.record id (.store c)).resume id t (k (.error e)))
  /-- The source gave no connection. -/
  | refused (id : CallerId) (t : TenantId) (e : DbError)
      (k : Except DbError ConnectionId → ServiceProgram (Except SessionError Session))
      (hid : S.callers id = some ⟨t, .ask .acquireConnection k, false⟩) :
    Change m S (.proceed id (some e)) ((S.record id .acquireConnection).resume id t (k (.error e)))
  /-- A statement succeeded or failed. -/
  | executed (id : CallerId) (t : TenantId) (connection : ConnectionId) (sql : String)
      (failure : Option DbError)
      (k : Except DbError Unit → ServiceProgram (Except SessionError Session))
      (hid : S.callers id = some ⟨t, .ask (.execute connection sql) k, false⟩) :
    Change m S (.proceed id failure)
      (((S.record id (.execute connection sql)).note id connection ⟨.acquisition, sql⟩).resume id t
        (k (replyOf failure)))
  | connected (id : CallerId) (t : TenantId) (connection : ConnectionId)
      (k : Except DbError ConnectionId → ServiceProgram (Except SessionError Session))
      (hid : S.callers id = some ⟨t, .ask .acquireConnection k, false⟩)
      (hfree : connection ∉ S.out.map (·.connection)) :
    Change m S (.connect id connection)
      (((S.record id .acquireConnection).handOut id connection).resume id t (k (.ok connection)))
  | used (id : CallerId) (t : TenantId) (session : Session) (sql : String)
      (hid : S.callers id = some ⟨t, .done (.ok session), false⟩) :
    Change m S (.use id sql) (S.note id session.connection ⟨.user, sql⟩)
  | released (id : CallerId) (t : TenantId) (session : Session)
      (hid : S.callers id = some ⟨t, .done (.ok session), false⟩) :
    Change m S (.release id)
      ((S.giveBack id [session.connection]).finish id ⟨t, .done (.ok session), false⟩)
  | dropped (id : CallerId) (t : TenantId) (rest : ServiceProgram (Except SessionError Session))
      (hid : S.callers id = some ⟨t, rest, false⟩) (hrest : ∀ e, rest ≠ .done (.error e)) :
    Change m S (.drop id) ((S.giveAllBack id).finish id ⟨t, rest, false⟩)
  | changed (s : Store) : Change m S (.change s) (S.setRegistry s)

private theorem caller?_eq_some_iff {S : State} {id : CallerId} {caller : Caller} :
    S.caller? id = some caller ↔ S.callers id = some caller ∧ caller.ended = false := by
  simp [caller?, Option.filter_eq_some_iff]

private theorem session_of_caller? {S : State} {id : CallerId} {caller : Caller} {session : Session}
    (hcaller : S.caller? id = some caller) (hsession : caller.session? = some session) :
    caller = ⟨caller.tenant, .done (.ok session), false⟩ ∧ S.callers id = some caller := by
  obtain ⟨hid, -⟩ := caller?_eq_some_iff.mp hcaller
  obtain ⟨hthere, hrest⟩ := Caller.session?_eq_some_iff.mp hsession
  exact ⟨by rw [← hthere, ← hrest], hid⟩

private theorem change_of_proceed {m : ServiceModule} {S S' : State} {id : CallerId} {t : TenantId}
    {rest : ServiceProgram (Except SessionError Session)} {failure : Option DbError}
    (hid : S.callers id = some ⟨t, rest, false⟩) (h : S.proceed id ⟨t, rest, false⟩ failure = some S') :
    Change m S (.proceed id failure) S' := by
  cases rest with
  | done result => cases failure <;> cases h
  | ask c k =>
    cases c with
    | store c =>
      cases failure with
      | none =>
        cases h
        exact .answered id t c k hid
      | some e =>
        cases h
        exact .unanswered id t c e k hid
    | acquireConnection =>
      cases failure with
      | none => cases h
      | some e =>
        cases h
        exact .refused id t e k hid
    | execute connection sql =>
      cases failure <;> cases h <;> exact .executed id t connection sql _ k hid
    | _ => cases failure <;> cases h

/-- A move that can be made does one of these things. -/
theorem change_of_step {m : ServiceModule} {S S' : State} {move : Move}
    (h : S.step m move = some S') : Change m S move S' := by
  cases move with
  | start id t =>
    simp only [step] at h
    split at h
    · next hnew =>
      cases h
      exact .started id t (Option.isNone_iff_eq_none.mp hnew)
    · cases h
  | proceed id failure =>
    obtain ⟨⟨t, rest, ended⟩, hcaller, h⟩ := Option.bind_eq_some_iff.mp h
    obtain ⟨hid, rfl⟩ := caller?_eq_some_iff.mp hcaller
    exact change_of_proceed hid h
  | connect id connection =>
    obtain ⟨⟨t, rest, ended⟩, hcaller, h⟩ := Option.bind_eq_some_iff.mp h
    obtain ⟨hid, rfl⟩ := caller?_eq_some_iff.mp hcaller
    unfold connect at h
    split at h
    · next k hrest =>
      obtain rfl : rest = _ := hrest
      split at h
      · cases h
      · next hfree =>
        cases h
        exact .connected id t connection k hid hfree
    · cases h
  | use id sql =>
    obtain ⟨caller, hcaller, h⟩ := Option.bind_eq_some_iff.mp h
    obtain ⟨session, hsession, rfl⟩ := Option.map_eq_some_iff.mp h
    obtain ⟨hrest, hid⟩ := session_of_caller? hcaller hsession
    exact .used id caller.tenant session sql (hrest ▸ hid)
  | release id =>
    obtain ⟨caller, hcaller, h⟩ := Option.bind_eq_some_iff.mp h
    obtain ⟨session, hsession, rfl⟩ := Option.map_eq_some_iff.mp h
    obtain ⟨hrest, hid⟩ := session_of_caller? hcaller hsession
    rw [hrest] at hid ⊢
    exact .released id caller.tenant session hid
  | drop id =>
    obtain ⟨⟨t, rest, ended⟩, hcaller, h⟩ := Option.bind_eq_some_iff.mp h
    obtain ⟨hid, rfl⟩ := caller?_eq_some_iff.mp hcaller
    unfold drop at h
    split at h
    · cases h
    · next hrest =>
      cases h
      exact .dropped id t rest hid hrest
  | change s =>
    cases h
    exact .changed s

/-- What a move can do, it does. -/
theorem step_of_change {m : ServiceModule} {S S' : State} {move : Move} (h : Change m S move S') :
    S.step m move = some S' := by
  cases h with
  | started id t hnew => simp [step, hnew]
  | connected id t connection k hid hfree =>
    simp only [step, caller?, hid]
    exact if_neg hfree
  | dropped id t rest hid hrest =>
    simp only [step, caller?, hid]
    cases rest with
    | ask c k => rfl
    | done result =>
      cases result with
      | ok session => rfl
      | error e => exact absurd rfl (hrest e)
  | answered _ _ _ _ hid | unanswered _ _ _ _ _ hid | refused _ _ _ _ hid | executed _ _ _ _ _ _ hid
  | used _ _ _ _ hid | released _ _ _ hid =>
    simp only [step, caller?, hid]
    rfl
  | changed s => rfl

/-- A move leaves the other callers, and what they have, as it is. -/
theorem Change.frame {m : ServiceModule} {S S' : State} {move : Move} {other : CallerId}
    (h : Change m S move S') (hother : move.caller? ≠ some other) :
    S'.callers other = S.callers other ∧ S'.checkoutsOf other = S.checkoutsOf other ∧
      S'.eventsOf other = S.eventsOf other := by
  have hne : ∀ id, move.caller? = some id → other ≠ id := fun id hid hsame =>
    hother (hid.trans (congrArg some hsame.symm))
  cases h with
  | changed s => exact ⟨rfl, rfl, rfl⟩
  | started id | answered id | unanswered id | refused id | executed id | connected id | used id
  | released id | dropped id =>
    have hid := hne id rfl
    simp [resume, finish, hid]
    rfl

end State

end Sessions

end Tenancy
