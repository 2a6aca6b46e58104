import Tenancy.Proofs.PoolEffect
import Tenancy.Proofs.RelyGuarantee
import Tenancy.Proofs.Resolution

/-!
# What a program has in hand

A program that calls the pools has one connection at most, and nobody else touches that one. So the
program can be followed on its own: `Hold` is the connection that it has, `Hold.Next` says what
becomes of it by a call, and `Hold.Allowed` which calls a program may make with it.

On the operations cluster a program sends statements only where names are looked up in the default
places. It may leave them changed, as the acquisition of a session does, but not in a transaction:
what rolls the transaction back later is to find the default places too.

## Key results

- `Hold.tame_next`: only what changed the search path in no transaction is left with it changed
- `Hold.guarded_acquire`: whoever got a session has a connection that is bound to its schema
- `Hold.guarded_stores`, `Hold.guarded_runScript`, `Hold.guarded_probe`: other programs leave nothing
-/

namespace Tenancy.Postgres

/-- A connection that a program has. -/
structure Hold where
  connection : ConnectionId
  state : Connection
  /-- A transaction was begun on it. -/
  begun : Bool := false

namespace Hold

/-! ## Calls -/

/-- What a program has before and after a call. -/
inductive Next : Option Hold → (c : PoolCall) → c.Answer → Option Hold → Prop where
  | refused (v : Option Hold) (c : Cluster) (e : DbError) : Next v (.checkout c) (.error e) v
  | taken (c : Cluster) (id : ConnectionId) (conn : Connection) (hcluster : conn.cluster = c)
      (hrested : conn.IsRested) : Next none (.checkout c) (.ok id) (some ⟨id, conn, false⟩)
  | sent (h : Hold) (s : Statement) (r : Except DbError Reply) (conn : Connection)
      (hcluster : conn.cluster = h.state.cluster)
      (hpath : conn.searchPath = Server.searchPathUpon s r h.state.searchPath)
      (howes : conn.owesRollback = false) :
    Next (some h) (.send h.connection s) r (some { h with state := conn })
  | begun (h : Hold) (r : Except DbError Unit) (conn : Connection)
      (hcluster : conn.cluster = h.state.cluster) (hpath : conn.searchPath = h.state.searchPath)
      (howes : conn.owesRollback = false) :
    Next (some h) (.begin h.connection) r (some ⟨h.connection, conn, true⟩)
  | owed (h : Hold) :
    Next (some h) (.oweRollback h.connection) ()
      (some { h with state := { h.state with owesRollback := true } })
  | returned (h : Hold) : Next (some h) (.giveBack h.connection) () none

/-- The calls that a program may make with what it has. -/
def Allowed (v : Option Hold) : PoolCall → Prop
  | .checkout _ => v = none
  | .send id s =>
    ∃ h, v = some h ∧ h.connection = id ∧ h.state.AtDefault ∧ (h.begun = true → s.KeepsPath)
  | .begin id | .oweRollback id => ∃ h, v = some h ∧ h.connection = id ∧ h.state.AtDefault
  | .giveBack id => ∃ h, v = some h ∧ h.connection = id

/-- A connection on which a transaction was begun, or which owes a rollback, looks names up in the
    default places. -/
def Tame (h : Hold) : Prop := h.begun = true ∨ h.state.owesRollback = true → h.state.AtDefault

/-- Calls that are allowed keep that. -/
theorem tame_next {v v' : Option Hold} {c : PoolCall} {r : c.Answer} (hv : ∀ h ∈ v, h.Tame)
    (hallowed : Allowed v c) (hnext : Next v c r v') : ∀ h ∈ v', h.Tame := by
  cases hnext with
  | refused => exact hv
  | taken c id conn hcluster hrested =>
    rintro h ⟨⟩ -
    exact hrested.atDefault
  | sent h s r conn hcluster hpath howes =>
    obtain ⟨_, ⟨⟩, -, hdefault, hkeeps⟩ := hallowed
    rintro h' ⟨⟩ (hbegun | howes')
    · intro hoperations
      rw [hpath, Server.searchPathUpon_of_keepsPath (hkeeps hbegun)]
      exact hdefault (hcluster.symm.trans hoperations)
    · rw [howes] at howes'
      cases howes'
  | begun h r conn hcluster hpath howes =>
    obtain ⟨_, ⟨⟩, -, hdefault⟩ := hallowed
    rintro h' ⟨⟩ - hoperations
    exact hpath.trans (hdefault (hcluster.symm.trans hoperations))
  | owed h =>
    obtain ⟨_, ⟨⟩, -, hdefault⟩ := hallowed
    rintro h' ⟨⟩ -
    exact hdefault
  | returned => exact nofun

/-! ## Programs -/

/-- What a program of the pools finds around it: nobody else touches what it has. -/
def surroundings : Program.Surroundings PoolCall.Answer (Option Hold) where
  answers := Next
  rely := Eq
  guar := Allowed

open Program (Guarded)

variable {α : Type} {post : Option Hold → α → Prop} {v : Option Hold} {h : Hold}

theorem steady_surroundings : surroundings.Steady := ⟨Eq.trans, fun _ => rfl⟩

theorem guarded_done {a : α} : Guarded surroundings post (.done a) v ↔ post v a := by
  constructor
  · exact fun h => h v rfl
  · rintro h _ rfl
    exact h

theorem guarded_ask {c : PoolCall} {k : c.Answer → PoolProgram α} :
    Guarded surroundings post (.ask c k) v ↔
      Allowed v c ∧ ∀ r v', Next v c r v' → Guarded surroundings post (k r) v' := by
  constructor
  · exact fun h => h v rfl
  · rintro h _ rfl
    exact h

/-- Sends a statement. -/
private theorem guarded_send {s : Statement} {k : Except DbError Reply → PoolProgram α}
    (hdefault : h.state.AtDefault) (hkeeps : h.begun = true → s.KeepsPath)
    (hnext : ∀ r conn, conn.cluster = h.state.cluster →
      conn.searchPath = Server.searchPathUpon s r h.state.searchPath → 
        Guarded surroundings post (k r) (some { h with state := conn })) :
    Guarded surroundings post (.ask (.send h.connection s) k) (some h) := by
  refine guarded_ask.mpr ⟨⟨h, rfl, rfl, hdefault, hkeeps⟩, fun r v' hsent => ?_⟩
  cases hsent with
  | sent _ _ _ conn hcluster hpath howes => exact hnext r conn hcluster hpath

/-- Gives the connection back, at the end. -/
private theorem guarded_giveBack {k : Unit → PoolProgram α} {a : α} (hdone : k () = .done a)
    (hpost : post none a) :
    Guarded surroundings post (.ask (.giveBack h.connection) k) (some h) := by
  refine guarded_ask.mpr ⟨⟨h, rfl, rfl⟩, fun r v' hreturned => ?_⟩
  cases hreturned with
  | returned =>
    rw [hdone]
    exact guarded_done.mpr hpost

/-- Nothing is left in hand. -/
def Empty (v : Option Hold) (_ : α) : Prop := v = none

/-- The connection of a name is still in hand. -/
def Keeps (id : ConnectionId) (v : Option Hold) (_ : α) : Prop :=
  ∃ h, v = some h ∧ h.connection = id

/-- A connection for one piece of work is given back. -/
theorem guarded_onConnection {c : Cluster} {work : ConnectionId → PoolProgram (Except DbError α)}
    (hwork : ∀ id conn, conn.AtDefault →
      Guarded surroundings (Keeps id) (work id) (some ⟨id, conn, false⟩)) :
    Guarded surroundings Empty (PoolProgram.onConnection c work) none := by
  refine guarded_ask.mpr ⟨rfl, fun r v' htaken => ?_⟩
  cases htaken with
  | refused => exact guarded_done.mpr rfl
  | taken c id conn hcluster hrested =>
    show Guarded surroundings Empty
      (work id >>= fun result => .ask (.giveBack id) fun _ => .done result) _
    refine Guarded.bind steady_surroundings ((hwork id conn hrested.atDefault).imp ?_)
    rintro v result ⟨h, rfl, rfl⟩
    exact guarded_giveBack rfl rfl

theorem guarded_query {c : Cluster} {s : Statement} {read : Reply → Except DbError α} :
    Guarded surroundings Empty (PoolProgram.query c s read) none :=
  guarded_onConnection fun _ _ hdefault =>
    guarded_send (h := ⟨_, _, false⟩) hdefault nofun fun _ _ _ _ => guarded_done.mpr ⟨_, rfl, rfl⟩

theorem guarded_runScript (script : String) :
    Guarded surroundings Empty (Client.runScript script) none :=
  guarded_onConnection fun _ _ hdefault =>
    guarded_send (h := ⟨_, _, false⟩) hdefault nofun fun _ _ _ _ => guarded_done.mpr ⟨_, rfl, rfl⟩

theorem guarded_probe : Guarded surroundings Empty Client.probe none := by
  refine Guarded.bind steady_surroundings (guarded_query.imp ?_)
  rintro _ (e | ⟨⟨⟩⟩) rfl
  · exact guarded_done.mpr rfl
  · refine Guarded.bind steady_surroundings (guarded_query.imp ?_)
    rintro _ (e | ⟨⟨⟩⟩) rfl <;> exact guarded_done.mpr rfl

/-- Sends a statement that finds the default places and leaves them. -/
private theorem guarded_statement {s : Statement} {k : Except DbError Reply → PoolProgram α}
    (hdefault : h.state.AtDefault) (hkeeps : s.KeepsPath)
    (hnext : ∀ r h', h'.connection = h.connection → h'.state.AtDefault →
      Guarded surroundings post (k r) (some h')) :
    Guarded surroundings post (.ask (.send h.connection s) k) (some h) := by
  refine guarded_send hdefault (fun _ => hkeeps) fun r conn hcluster hpath => ?_
  rw [Server.searchPathUpon_of_keepsPath hkeeps] at hpath
  exact hnext r _ rfl fun hoperations => hpath.trans (hdefault (hcluster.symm.trans hoperations))

/-- A transaction that failed owes a rollback. -/
private theorem guarded_failed {a : α} (hdefault : h.state.AtDefault) :
    Guarded surroundings (Keeps h.connection)
      (.ask (.oweRollback h.connection) fun _ => .done a) (some h) := by
  refine guarded_ask.mpr ⟨⟨h, rfl, rfl, hdefault⟩, fun r v' howed => ?_⟩
  cases howed with
  | owed => exact guarded_done.mpr ⟨_, rfl, rfl⟩

/-- The transaction in which a tenant's schema is created. -/
theorem guarded_ensureSchema (m : ServiceModule) (t : TenantId) (schema owner : String) :
    Guarded surroundings Empty (Client.ensureSchema m t schema owner) none := by
  refine guarded_onConnection fun id conn hdefault => ?_
  refine guarded_ask.mpr ⟨⟨_, rfl, rfl, hdefault⟩, fun r v' hbegun => ?_⟩
  cases hbegun with
  | begun _ _ conn' hcluster hpath howes =>
    have hdefault' : conn'.AtDefault := fun hoperations =>
      hpath.trans (hdefault (hcluster.symm.trans hoperations))
    cases r with
    | error e => exact guarded_done.mpr ⟨_, rfl, rfl⟩
    | ok =>
      refine guarded_statement (h := ⟨id, conn', true⟩) hdefault' (Statement.keepsPath_lockTenant t) ?_
      rintro (e | reply) h rfl hlocked
      · exact guarded_failed hlocked
      · refine guarded_statement hlocked (Statement.keepsPath_createSchema m t schema owner) ?_
        rintro (e | reply) h' hsame hcreated
        · exact hsame ▸ guarded_failed hcreated
        · refine hsame ▸ guarded_statement hcreated Statement.keepsPath_commit ?_
          rintro (e | reply) h'' hsame' hended
          · exact hsame' ▸ guarded_failed hended
          · exact guarded_done.mpr ⟨_, rfl, hsame'⟩

/-- A call to the stores. -/
theorem guarded_onStores (client : Client) (c : StoreCall) :
    Guarded surroundings Empty (client.onStores c) none := by
  cases c with
  | ensureSchema t schema owner => exact guarded_ensureSchema client.module t schema owner
  | _ => exact guarded_query

/-- A program over the stores. -/
theorem guarded_stores (client : Client) (p : StoreProgram α) :
    Guarded surroundings Empty (client.service (Service.onStores p)) none := by
  induction p with
  | done a => exact guarded_done.mpr rfl
  | ask c k ih =>
    refine Guarded.bind steady_surroundings ((guarded_onStores client c).imp ?_)
    rintro _ r rfl
    exact ih r

/-! ## Sessions -/

/-- The connection in hand is bound to a session's schema. -/
def InSession (v : Option Hold) (session : Session) : Prop :=
  ∃ h, v = some h ∧ h.connection = session.connection ∧ h.state.cluster = .operations ∧
    h.state.searchPath = tenantPath session.schema

/-- Whoever got a session has its connection, and whoever got none has nothing. -/
def Acquired (v : Option Hold) : Except SessionError Session → Prop
  | .ok session => InSession v session
  | .error _ => v = none

theorem guarded_acquire (client : Client) (t : TenantId) (m : ServiceModule) :
    Guarded surroundings Acquired (client.service (Session.acquire t m)) none := by
  rw [Session.acquire_eq]
  refine Guarded.bind steady_surroundings ((guarded_onStores client (.findTenant t)).imp ?_)
  rintro _ reply rfl
  show Guarded surroundings Acquired
    (client.service (Session.afterVerdict t (Resolver.verdict t m reply))) none
  cases Resolver.verdict t m reply with
  | error e => exact guarded_done.mpr rfl
  | ok schema =>
    refine guarded_ask.mpr ⟨rfl, fun r v' htaken => ?_⟩
    cases htaken with
    | refused => exact guarded_done.mpr rfl
    | taken c id conn hcluster hrested =>
      refine guarded_send (h := ⟨id, conn, false⟩) hrested.atDefault nofun ?_
      intro r conn' hcluster' hpath
      cases r with
      | error e => exact guarded_giveBack (h := ⟨id, conn', false⟩) rfl rfl
      | ok reply =>
        have hbound := hpath.trans (Server.searchPathAfter_setSearchPath schema conn.searchPath)
        exact guarded_done.mpr ⟨_, rfl, rfl, hcluster'.trans hcluster, hbound⟩

end Hold

end Tenancy.Postgres
