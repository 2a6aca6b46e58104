import Mathlib.Logic.Function.Basic
import Tenancy.Postgres.Pools

/-!
# What calls to the pools change

A statement runs on one connection and leaves the others alone; what it says decides where names are
looked up afterwards, unless it fails. A connection that comes back rests in the operations pool only
after its search path was restored. Proofs about users of the pools rest on these facts and do not
look into `Pools.perform`.

## Key results

- `Server.searchPathAfter_setSearchPath`, `Statement.KeepsPath`: what statements do to the search path
- `Pools.Ran`: statements on a connection
- `Pools.Clean`: which connections are at rest
- `Pools.changes_checkout`, `Pools.changes_send`, `Pools.changes_begin`, `Pools.changes_oweRollback`,
  `Pools.changes_giveBack`: what each call does
- `Pools.openBoth_spec`: pools that were just opened
-/

namespace Tenancy.Postgres

/-! ## Statements and the search path -/

/-- Names are looked up in the same places after a statement. -/
def Statement.KeepsPath (s : Statement) : Prop := ∀ path, Server.searchPathAfter s path = path

/-- Where names are looked up in a session of a schema's tenant. -/
def tenantPath (schema : String) : String := Sql.quoteIdent schema ++ ", public"

namespace Server

theorem searchPathAfter_resetSearchPath (path : String) :
    searchPathAfter OperationsStatement.resetSearchPath path = defaultSearchPath := by
  have htext : OperationsStatement.resetSearchPath.text = Sql.resetSearchPath := rfl
  simp only [searchPathAfter, htext, if_true]

theorem searchPathAfter_setSearchPath (schema path : String) :
    searchPathAfter (OperationsStatement.setSearchPath schema) path = tenantPath schema := by
  have htext : (OperationsStatement.setSearchPath schema).text.toList =
      searchPathCommand.toList ++ (tenantPath schema).toList := by
    rw [← String.toList_append, tenantPath, ← String.append_assoc]
    rfl
  have hprefix : searchPathCommand.toList.isPrefixOf
      (OperationsStatement.setSearchPath schema).text.toList = true := by
    rw [htext, List.isPrefixOf_iff_prefix]
    exact List.prefix_append _ _
  have hreset : (OperationsStatement.setSearchPath schema).text ≠ Sql.resetSearchPath := by
    intro hsame
    rw [hsame] at hprefix
    have hother : searchPathCommand.toList.isPrefixOf Sql.resetSearchPath.toList = false := by decide
    rw [hother] at hprefix
    cases hprefix
  rw [searchPathAfter, if_neg hreset, if_pos hprefix, htext, ← String.length_toList,
    List.drop_left, String.ofList_toList]

/-- Where names are looked up once a statement was answered; a statement that failed has changed
    nothing. -/
def searchPathUpon {α : Type} (s : Statement) (answer : Except DbError α) (path : String) : String :=
  match answer with
  | .ok _ => searchPathAfter s path
  | .error _ => path

theorem searchPathUpon_of_keepsPath {α : Type} {s : Statement} (h : s.KeepsPath)
    (answer : Except DbError α) (path : String) : searchPathUpon s answer path = path := by
  cases answer with
  | ok a => exact h path
  | error e => rfl

theorem searchPath_respond (server : Server) (c : Cluster) (path : String) (s : Statement) :
    (server.respond c path s).2.1 = searchPathUpon s (server.respond c path s).1 path := by
  simp only [respond]
  split <;> rfl

theorem record_respond (server : Server) (c : Cluster) (path : String) (s : Statement) :
    (server.respond c path s).2.2.record = ⟨c, s, path⟩ :: server.record := by
  simp only [respond]
  split <;> rfl

end Server

namespace Statement

theorem keepsPath_of_not_prefix {s : Statement} (hreset : s.text ≠ Sql.resetSearchPath)
    (hset : Server.searchPathCommand.toList.isPrefixOf s.text.toList = false) : s.KeepsPath := by
  intro path
  rw [Server.searchPathAfter, if_neg hreset, hset]
  exact if_neg Bool.false_ne_true

theorem keepsPath_probe : probe.KeepsPath := keepsPath_of_not_prefix (by decide) (by decide)

theorem keepsPath_begin : begin.KeepsPath := keepsPath_of_not_prefix (by decide) (by decide)

theorem keepsPath_commit : commit.KeepsPath := keepsPath_of_not_prefix (by decide) (by decide)

theorem keepsPath_rollback : rollback.KeepsPath := keepsPath_of_not_prefix (by decide) (by decide)

theorem keepsPath_lockTenant (t : TenantId) : (OperationsStatement.lockTenant t).KeepsPath := by
  apply keepsPath_of_not_prefix
  · simp only [OperationsStatement.lockTenant, prepared]
    decide
  · simp only [OperationsStatement.lockTenant, prepared]
    decide

theorem keepsPath_createSchema (m : ServiceModule) (t : TenantId) (schema owner : String) :
    (OperationsStatement.createSchema m t schema owner).KeepsPath := by
  have htext : (OperationsStatement.createSchema m t schema owner).text.toList =
      "CALL ".toList ++ (m.procedure ++ "($1, $2, $3)").toList := by
    simp [OperationsStatement.createSchema, prepared]
  apply keepsPath_of_not_prefix
  · intro hsame
    rw [hsame] at htext
    simp [Sql.resetSearchPath] at htext
  · rw [htext]
    simp [Server.searchPathCommand, List.isPrefixOf]

end Statement
/-! ## Statements on a connection -/

/-- Names are looked up in the default places, if it is a connection to the operations cluster. -/
def Connection.AtDefault (conn : Connection) : Prop :=
  conn.cluster = .operations → conn.searchPath = defaultSearchPath

/-- Names were looked up in the default places, if the statement went to the operations cluster. -/
def Sent.AtDefault (e : Sent) : Prop := e.cluster = .operations → e.searchPath = defaultSearchPath

/-- A connection is as those are that rest in its pool. -/
def Connection.IsRested (conn : Connection) : Prop :=
  conn.cluster = .operations → conn.searchPath = defaultSearchPath ∧ conn.owesRollback = false

theorem Connection.IsRested.atDefault {conn : Connection} (h : conn.IsRested) : conn.AtDefault :=
  fun hoperations => (h hoperations).1

namespace Pools

/-- The statements on record in `p'` and not yet in `p`. -/
def sentSince (p' p : Pools) : List Sent :=
  p'.server.record.take (p'.server.record.length - p.server.record.length)

@[simp] theorem sentSince_self (p : Pools) : p.sentSince p = [] := by simp [sentSince]

/-- The statements that were sent from `p` to `p'` are all of a kind. -/
def Sends (p p' : Pools) (P : Sent → Prop) : Prop :=
  ∃ sent, p'.server.record = sent ++ p.server.record ∧ ∀ e ∈ sent, P e

namespace Sends

variable {p p' p'' : Pools} {P Q : Sent → Prop}

theorem of_record_eq (h : p'.server.record = p.server.record) : p.Sends p' P :=
  ⟨[], h, nofun⟩

theorem imp (h : p.Sends p' P) (himp : ∀ e, P e → Q e) : p.Sends p' Q := by
  obtain ⟨sent, hrecord, hsent⟩ := h
  exact ⟨sent, hrecord, fun e he => himp e (hsent e he)⟩

theorem trans (h : p.Sends p' P) (h' : p'.Sends p'' P) : p.Sends p'' P := by
  obtain ⟨sent, hrecord, hsent⟩ := h
  obtain ⟨sent', hrecord', hsent'⟩ := h'
  refine ⟨sent' ++ sent, by rw [hrecord', hrecord, List.append_assoc], fun e he => ?_⟩
  rcases List.mem_append.mp he with he | he
  · exact hsent' e he
  · exact hsent e he

theorem of_mem_sentSince (h : p.Sends p' P) {e : Sent} (he : e ∈ p'.sentSince p) : P e := by
  obtain ⟨sent, hrecord, hsent⟩ := h
  rw [sentSince, hrecord, List.length_append, Nat.add_sub_cancel, List.take_left] at he
  exact hsent e he

end Sends

/-- Statements of a kind ran on a connection, all with names looked up in the same places; nothing
    but that connection and the server has changed. -/
structure Ran (P : Statement → Prop) (p : Pools) (conn conn' : Connection) (p' : Pools) : Prop where
  cluster : conn'.cluster = conn.cluster
  others : p' = { p with server := p'.server }
  sends : p.Sends p' fun e =>
    e.cluster = conn.cluster ∧ e.searchPath = conn.searchPath ∧ P e.statement

namespace Ran

variable {p p' p'' : Pools} {conn conn' conn'' : Connection} {P Q : Statement → Prop}

theorem refl : Ran P p conn conn p := ⟨rfl, rfl, .of_record_eq rfl⟩

theorem imp (h : Ran P p conn conn' p') (himp : ∀ s, P s → Q s) : Ran Q p conn conn' p' :=
  ⟨h.cluster, h.others, h.sends.imp fun _ ⟨hcluster, hpath, he⟩ => ⟨hcluster, hpath, himp _ he⟩⟩

theorem trans (h : Ran P p conn conn' p') (hpath : conn'.searchPath = conn.searchPath)
    (h' : Ran P p' conn' conn'' p'') : Ran P p conn conn'' p'' := by
  refine ⟨h'.cluster.trans h.cluster, ?_, h.sends.trans (h'.sends.imp ?_)⟩
  · rw [h'.others, h.others]
  · rw [h.cluster, hpath]
    exact fun _ he => he

end Ran

variable {p p' : Pools} {conn conn' : Connection} {s : Statement}

/-- What may be sent with a statement: the rollback that is owed goes first. -/
def Due (conn : Connection) (s sent : Statement) : Prop :=
  sent = s ∨ sent = .rollback ∧ conn.owesRollback = true

private theorem prepareOn_spec (p : Pools) (conn : Connection) (s : Statement) :
    ∃ prepared server, p.prepareOn conn s = ({ conn with prepared }, { p with server }) ∧
      server.record = p.server.record := by
  unfold prepareOn
  split
  · exact ⟨_, _, rfl, rfl⟩
  · exact ⟨conn.prepared, p.server, rfl, rfl⟩

theorem ran_of_sendNow {r : Except DbError Reply} (h : p.sendNow conn s = (r, conn', p')) :
    Ran (· = s) p conn conn' p' ∧
      conn'.searchPath = Server.searchPathUpon s r conn.searchPath ∧
      conn'.owesRollback = conn.owesRollback := by
  obtain ⟨prepared, server, hprepare, hrecord⟩ := prepareOn_spec p conn s
  simp only [sendNow, hprepare, Prod.mk.injEq] at h
  obtain ⟨rfl, rfl, rfl⟩ := h
  refine ⟨⟨rfl, rfl, [⟨conn.cluster, s, conn.searchPath⟩], ?_, ?_⟩, ?_, rfl⟩
  · rw [Server.record_respond, hrecord]
    rfl
  · simp
  · exact Server.searchPath_respond ..

theorem ran_of_settle {r : Except DbError Unit} (h : p.settle conn = (r, conn', p')) :
    Ran (fun sent => sent = .rollback ∧ conn.owesRollback = true) p conn conn' p' ∧
      conn'.searchPath = conn.searchPath ∧ conn'.owesRollback = false := by
  unfold settle at h
  split at h
  · next howes =>
    generalize hsent : p.sendNow { conn with owesRollback := false } .rollback = sent at h
    obtain ⟨reply, conn₁, p₁⟩ := sent
    cases h
    obtain ⟨hran, hpath, hsettled⟩ := ran_of_sendNow hsent
    rw [Server.searchPathUpon_of_keepsPath Statement.keepsPath_rollback] at hpath
    exact ⟨⟨hran.cluster, hran.others, hran.sends.imp fun e ⟨hcluster, hplace, he⟩ =>
      ⟨hcluster, hplace, he, howes⟩⟩, hpath, hsettled⟩
  · next howes =>
    cases h
    exact ⟨.refl, rfl, Bool.eq_false_iff.mpr howes⟩

theorem ran_of_sendOn {r : Except DbError Reply} (h : p.sendOn conn s = (r, conn', p')) :
    Ran (Due conn s) p conn conn' p' ∧
      conn'.searchPath = Server.searchPathUpon s r conn.searchPath ∧
      conn'.owesRollback = false := by
  unfold sendOn at h
  generalize hsettle : p.settle conn = settled at h
  obtain ⟨settled, conn₁, p₁⟩ := settled
  obtain ⟨hran, hpath, hsettled⟩ := ran_of_settle hsettle
  cases settled with
  | error e =>
    cases h
    exact ⟨hran.imp fun sent => .inr, hpath, hsettled⟩
  | ok =>
    obtain ⟨hran', hpath', howes'⟩ := ran_of_sendNow h
    refine ⟨(hran.imp fun sent => .inr).trans hpath (hran'.imp fun sent => .inl), ?_, ?_⟩
    · rw [hpath', hpath]
    · rw [howes', hsettled]

theorem ran_of_beginOn {r : Except DbError Unit} (h : p.beginOn conn = (r, conn', p')) :
    Ran (Due conn .begin) p conn conn' p' ∧ conn'.searchPath = conn.searchPath ∧
      conn'.owesRollback = false := by
  unfold beginOn at h
  generalize hsettle : p.settle conn = settled at h
  obtain ⟨settled, conn₁, p₁⟩ := settled
  dsimp only at h
  generalize hsent : p₁.sendNow conn₁ .begin = sent at h
  obtain ⟨begun, conn₂, p₂⟩ := sent
  cases h
  obtain ⟨hran, hpath, hsettled⟩ := ran_of_settle hsettle
  obtain ⟨hran', hpath', howes'⟩ := ran_of_sendNow hsent
  rw [Server.searchPathUpon_of_keepsPath Statement.keepsPath_begin] at hpath'
  refine ⟨(hran.imp fun sent => .inr).trans hpath (hran'.imp fun sent => .inl), ?_, ?_⟩
  · rw [hpath', hpath]
  · rw [howes', hsettled]

/-! ## Connections at rest -/

/-- What may be sent on a connection that comes back: a rollback that is owed, and what restores the
    search path. -/
def DueBack (conn : Connection) (sent : Statement) : Prop :=
  sent = OperationsStatement.resetSearchPath ∨ sent = .rollback ∧ conn.owesRollback = true

/-- A connection that comes back rests as those in its pool do, or is gone. -/
theorem ran_of_takeBack (p : Pools) (conn : Connection) :
    ∃ conn' p', Ran (DueBack conn) p conn conn' p' ∧
      (p.takeBack conn = p' ∨ conn'.IsRested ∧ p.takeBack conn = p'.rest conn') := by
  unfold takeBack
  split
  · generalize hsettle : p.settle conn = settled
    obtain ⟨r, conn', p'⟩ := settled
    exact ⟨conn', p', (ran_of_settle hsettle).1.imp fun sent => .inr, .inl rfl⟩
  · split
    · generalize hsent : p.sendOn conn OperationsStatement.resetSearchPath = sent
      obtain ⟨r, conn', p'⟩ := sent
      obtain ⟨hran, hpath, hsettled⟩ := ran_of_sendOn hsent
      refine ⟨conn', p', hran, ?_⟩
      cases r with
      | error e => exact .inl rfl
      | ok reply =>
        rw [Server.searchPathUpon, Server.searchPathAfter_resetSearchPath] at hpath
        exact .inr ⟨fun _ => ⟨hpath, hsettled⟩, rfl⟩
    · next hregistry =>
      refine ⟨conn, p, .refl, .inr ⟨fun hoperations => ?_, rfl⟩⟩
      rw [hoperations] at hregistry
      exact absurd rfl hregistry

/-- Connections at rest owe nothing and look names up in the default places, and connections are
    numbered in the order in which they are handed out. -/
structure Clean (p : Pools) : Prop where
  idle : ∀ c, ∀ conn ∈ (p.pool c).idle, conn.cluster = c ∧ conn.IsRested
  numbered : ∀ o ∈ p.out, o.1 ≤ p.lastConnection

@[simp] theorem pool_update_self (p : Pools) (c : Cluster) (change : Pool → Pool) :
    (p.update c change).pool c = change (p.pool c) := by
  cases c <;> rfl

theorem pool_update_of_ne (p : Pools) {c c' : Cluster} (change : Pool → Pool) (h : c' ≠ c) :
    (p.update c change).pool c' = p.pool c' := by
  cases c <;> cases c' <;> first | rfl | exact absurd rfl h

@[simp] theorem out_update (p : Pools) (c : Cluster) (change : Pool → Pool) :
    (p.update c change).out = p.out := by
  cases c <;> rfl

@[simp] theorem lastConnection_update (p : Pools) (c : Cluster) (change : Pool → Pool) :
    (p.update c change).lastConnection = p.lastConnection := by
  cases c <;> rfl

@[simp] theorem server_update (p : Pools) (c : Cluster) (change : Pool → Pool) :
    (p.update c change).server = p.server := by
  cases c <;> rfl

namespace Clean

/-- Which connections rest in a pool may change, as long as they are as they should be. -/
theorem update {c : Cluster} {change : Pool → Pool} (h : p.Clean)
    (hidle : ∀ conn ∈ (change (p.pool c)).idle, conn.cluster = c ∧ conn.IsRested) :
    (p.update c change).Clean where
  idle c' conn hconn := by
    by_cases hsame : c' = c
    · subst hsame
      rw [pool_update_self] at hconn
      exact hidle conn hconn
    · rw [pool_update_of_ne p change hsame] at hconn
      exact h.idle c' conn hconn
  numbered o ho := by
    rw [out_update] at ho
    rw [lastConnection_update]
    exact h.numbered o ho

theorem close {c : Cluster} (h : p.Clean) : (p.close c).Clean := h.update nofun

theorem rest (h : p.Clean) (hconn : conn.IsRested) : (p.rest conn).Clean := by
  refine h.update fun conn' hconn' => ?_
  rcases List.mem_append.mp hconn' with hold | hnew
  · exact h.idle _ conn' hold
  · rw [List.mem_singleton.mp hnew]
    exact ⟨rfl, hconn⟩

theorem ran {P : Statement → Prop} (h : p.Clean) (hran : Ran P p conn conn' p') : p'.Clean := by
  rw [hran.others]
  exact ⟨h.idle, h.numbered⟩

theorem handOut (h : p.Clean) : (p.handOut conn).2.Clean where
  idle := h.idle
  numbered o ho := by
    rcases List.mem_cons.mp ho with rfl | hout
    · exact Nat.le_refl _
    · exact Nat.le_succ_of_le (h.numbered o hout)

theorem takeBack (h : p.Clean) (conn : Connection) : (p.takeBack conn).Clean := by
  obtain ⟨conn', p', hran, hback | ⟨hrested, hback⟩⟩ := ran_of_takeBack p conn
  · rw [hback]
    exact h.ran hran
  · rw [hback]
    exact (h.ran hran).rest hrested

end Clean

/-! ## Connections that are out -/

/-- The connection of a name, as long as it is out. -/
def connection? (p : Pools) (id : ConnectionId) : Option Connection := p.out.lookup id

theorem Clean.le_lastConnection {id : ConnectionId} (hp : p.Clean)
    (hid : p.connection? id = some conn) : id ≤ p.lastConnection := by
  obtain ⟨before, after, hout, -⟩ := List.lookup_eq_some_iff.mp hid
  exact hp.numbered (id, conn) (by simp [hout])

/-- The next number is that of no connection that is out. -/
theorem Clean.connection?_succ (hp : p.Clean) : p.connection? (p.lastConnection + 1) = none := by
  cases hlookup : p.connection? (p.lastConnection + 1) with
  | none => rfl
  | some conn => exact absurd (hp.le_lastConnection hlookup) (Nat.not_succ_le_self _)

private theorem lookup_cons_out (id : ConnectionId) (conn : Connection)
    (out : List (ConnectionId × Connection)) (other : ConnectionId) :
    ((id, conn) :: out).lookup other = if other = id then some conn else out.lookup other := by
  by_cases h : other = id
  · rw [h, List.lookup_cons_self, if_pos rfl]
  · rw [List.lookup_cons, beq_false_of_ne h, if_neg h]

private theorem lookup_map_out (out : List (ConnectionId × Connection)) (id : ConnectionId)
    (f : Connection → Connection) (other : ConnectionId) :
    (out.map fun o => if o.1 == id then (id, f o.2) else o).lookup other =
      if other = id then (out.lookup id).map f else out.lookup other := by
  induction out with
  | nil => simp
  | cons o rest ih =>
    obtain ⟨key, conn⟩ := o
    by_cases hkey : key = id
    · subst hkey
      simp only [List.map_cons, beq_self_eq_true, if_true, lookup_cons_out, ih, Option.map_some]
      split <;> rfl
    · simp only [List.map_cons, beq_iff_eq, hkey, if_false, lookup_cons_out] at ih ⊢
      grind

private theorem Clean.numbered_map (hp : p.Clean) (id : ConnectionId)
    (f : Connection → Connection) :
    ∀ o ∈ p.out.map fun o => if o.1 == id then (id, f o.2) else o, o.1 ≤ p.lastConnection := by
  intro o ho
  obtain ⟨o', ho', rfl⟩ := List.mem_map.mp ho
  have hle := hp.numbered o' ho'
  split
  · next hkey => exact beq_iff_eq.mp hkey ▸ hle
  · exact hle

private theorem lookup_filter_out (out : List (ConnectionId × Connection)) (id other : ConnectionId) :
    (out.filter (·.1 != id)).lookup other = if other = id then none else out.lookup other := by
  induction out with
  | nil => simp
  | cons o rest ih =>
    obtain ⟨key, conn⟩ := o
    by_cases hkey : key = id
    · subst hkey
      rw [List.filter_cons_of_neg (by simp), ih, lookup_cons_out]
      split <;> rfl
    · rw [List.filter_cons_of_pos (by simpa using hkey), lookup_cons_out, lookup_cons_out, ih]
      grind

/-- One connection became what `now` says, after statements of a kind; the others that are out are as
    they were. -/
structure Changes (p : Pools) (id : ConnectionId) (now : Option Connection) (P : Sent → Prop)
    (p' : Pools) : Prop where
  clean : p'.Clean
  connections : p'.connection? = Function.update p.connection? id now
  sends : p.Sends p' P

namespace Changes

variable {id : ConnectionId} {now : Option Connection} {P : Sent → Prop}

theorem connection?_self (h : Changes p id now P p') : p'.connection? id = now := by
  rw [h.connections, Function.update_self]

theorem connection?_of_ne {other : ConnectionId} (h : Changes p id now P p') (hother : other ≠ id) :
    p'.connection? other = p.connection? other := by
  rw [h.connections, Function.update_of_ne hother]

end Changes

/-! ## What each call does -/

variable {id : ConnectionId}

/-- Handing a connection out, from pools in which another one rests. -/
private theorem changes_handOut {q : Pools} (hq : q.Clean) (conn : Connection)
    (hout : q.out = p.out) (hlast : q.lastConnection = p.lastConnection)
    (hserver : q.server = p.server) :
    Changes p (p.lastConnection + 1) (some conn) (fun _ => False) (q.handOut conn).2 := by
  refine ⟨hq.handOut, ?_, .of_record_eq (congrArg Server.record hserver)⟩
  funext other
  rw [Function.update_apply, connection?, handOut, hlast]
  exact (lookup_cons_out ..).trans (by rw [hout]; rfl)

/-- A connection that is taken out is new to those that are out, and as those are that rest. -/
theorem changes_checkout {c : Cluster} {r : Except DbError ConnectionId} (hp : p.Clean)
    (h : p.checkout c = (r, p')) :
    (∃ e, r = .error e ∧ p' = p) ∨
      ∃ id conn, r = .ok id ∧ conn.cluster = c ∧ conn.IsRested ∧ p.connection? id = none ∧
        Changes p id (some conn) (fun _ => False) p' := by
  unfold checkout at h
  split at h
  · cases h
    exact .inl ⟨_, rfl, rfl⟩
  · split at h
    · next conn rest hidle =>
      cases h
      have hconn := hp.idle c conn (by rw [hidle]; exact List.mem_cons_self ..)
      have hrest : ∀ conn' ∈ rest, conn'.cluster = c ∧ conn'.IsRested := fun conn' hconn' =>
        hp.idle c conn' (by rw [hidle]; exact List.mem_cons_of_mem _ hconn')
      have hclean : (p.update c fun pool => { pool with idle := rest }).Clean := hp.update hrest
      have hchanges := changes_handOut hclean conn (out_update ..) (lastConnection_update ..)
        (server_update ..)
      exact .inr ⟨_, conn, by simp, hconn.1, hconn.2, hp.connection?_succ, hchanges⟩
    · split at h
      · split at h
        · cases h
          exact .inl ⟨_, rfl, rfl⟩
        · cases h
          exact .inr ⟨_, _, rfl, rfl, fun _ => ⟨rfl, rfl⟩, hp.connection?_succ,
            changes_handOut hp _ rfl rfl rfl⟩
      · cases h
        exact .inl ⟨_, rfl, rfl⟩

/-- Running on a connection changes that connection. -/
private theorem changes_onOut {α : Type} {P : Statement → Prop} {r : Except DbError α}
    {f : Connection → Except DbError α × Connection × Pools} (hp : p.Clean)
    (hid : p.connection? id = some conn) (h : p.onOut id f = (r, p')) :
    ∃ conn' q, f conn = (r, conn', q) ∧ (Ran P p conn conn' q →
      Changes p id (some conn') (fun e =>
        e.cluster = conn.cluster ∧ e.searchPath = conn.searchPath ∧ P e.statement) p') := by
  rw [connection?] at hid
  simp only [onOut, hid] at h
  generalize hf : f conn = ran at h
  obtain ⟨r', conn', q⟩ := ran
  cases h
  refine ⟨conn', q, rfl, fun hran => ⟨⟨?_, ?_⟩, ?_, hran.sends⟩⟩
  · rw [hran.others]
    exact hp.idle
  · rw [hran.others]
    exact hp.numbered_map id fun _ => conn'
  · rw [hran.others]
    funext other
    refine (lookup_map_out p.out id (fun _ => conn') other).trans ?_
    rw [hid, Function.update_apply]
    rfl

theorem changes_send {r : Except DbError Reply} (hp : p.Clean) (hid : p.connection? id = some conn)
    (h : p.perform (.send id s) = (r, p')) :
    ∃ conn', conn'.cluster = conn.cluster ∧
      conn'.searchPath = Server.searchPathUpon s r conn.searchPath ∧ conn'.owesRollback = false ∧
      Changes p id (some conn') (fun e =>
        e.cluster = conn.cluster ∧ e.searchPath = conn.searchPath ∧ Due conn s e.statement) p' := by
  obtain ⟨conn', q, hsent, hchanges⟩ := changes_onOut hp hid h
  obtain ⟨hran, hpath, howes⟩ := ran_of_sendOn hsent
  exact ⟨conn', hran.cluster, hpath, howes, hchanges hran⟩

theorem changes_begin {r : Except DbError Unit} (hp : p.Clean) (hid : p.connection? id = some conn)
    (h : p.perform (.begin id) = (r, p')) :
    ∃ conn', conn'.cluster = conn.cluster ∧ conn'.searchPath = conn.searchPath ∧
      conn'.owesRollback = false ∧
      Changes p id (some conn') (fun e => e.cluster = conn.cluster ∧
        e.searchPath = conn.searchPath ∧ Due conn .begin e.statement) p' := by
  obtain ⟨conn', q, hsent, hchanges⟩ := changes_onOut hp hid (f := p.beginOn) h
  obtain ⟨hran, hpath, howes⟩ := ran_of_beginOn hsent
  exact ⟨conn', hran.cluster, hpath, howes, hchanges hran⟩

theorem changes_oweRollback (hp : p.Clean) (hid : p.connection? id = some conn) :
    Changes p id (some { conn with owesRollback := true }) (fun _ => False)
      (p.perform (.oweRollback id)).2 := by
  have hnumbered := hp.numbered_map id fun conn => { conn with owesRollback := true }
  refine ⟨⟨hp.idle, hnumbered⟩, ?_, .of_record_eq rfl⟩
  funext other
  refine (lookup_map_out p.out id (fun conn => { conn with owesRollback := true }) other).trans ?_
  rw [connection?] at hid
  rw [hid, Function.update_apply]
  rfl

theorem changes_giveBack (hp : p.Clean) (hid : p.connection? id = some conn) :
    Changes p id none (fun e => e.cluster = conn.cluster ∧ e.searchPath = conn.searchPath ∧
        DueBack conn e.statement) (p.perform (.giveBack id)).2 := by
  rw [connection?] at hid
  simp only [perform, hid]
  obtain ⟨conn', q, hran, hback⟩ := ran_of_takeBack { p with out := p.out.filter (·.1 != id) } conn
  have hfiltered : Clean { p with out := p.out.filter (·.1 != id) } :=
    ⟨hp.idle, fun o ho => hp.numbered o (List.mem_filter.mp ho).1⟩
  have hout : q.out = p.out.filter (·.1 != id) := by rw [hran.others]
  have hresult : (takeBack { p with out := p.out.filter (·.1 != id) } conn).out = q.out ∧
      (takeBack { p with out := p.out.filter (·.1 != id) } conn).server = q.server := by
    rcases hback with hback | ⟨-, hback⟩ <;> rw [hback]
    · exact ⟨rfl, rfl⟩
    · exact ⟨out_update .., server_update ..⟩
  refine ⟨hfiltered.takeBack conn, ?_, ?_⟩
  · funext other
    rw [connection?, hresult.1, hout, lookup_filter_out, Function.update_apply]
    rfl
  · obtain ⟨sent, hrecord, hsent⟩ := hran.sends
    exact ⟨sent, by rw [hresult.2, hrecord], hsent⟩

/-! ## Opening -/

private theorem firstProbe_spec (c : Cluster) (hp : p.Clean) :
    (p.firstProbe c).2.Clean ∧ p.Sends (p.firstProbe c).2 Sent.AtDefault := by
  unfold firstProbe
  generalize hcheckout : p.perform (.checkout c) = taken
  obtain ⟨taken, p₁⟩ := taken
  obtain ⟨e, rfl, rfl⟩ | ⟨id, conn, rfl, -, hrested, -, hchecked⟩ := changes_checkout hp hcheckout
  · exact ⟨hp.close, .of_record_eq (congrArg Server.record (server_update ..))⟩
  · dsimp only
    generalize hsend : p₁.perform (.send id .probe) = sent
    obtain ⟨answer, p₂⟩ := sent
    obtain ⟨conn', hcluster, hpath, howes, hsent⟩ :=
      changes_send hchecked.clean hchecked.connection?_self hsend
    rw [Server.searchPathUpon_of_keepsPath Statement.keepsPath_probe] at hpath
    have hdefault : ∀ e : Sent, e.cluster = conn.cluster → e.searchPath = conn.searchPath →
        e.AtDefault := fun e hsame hplace hoperations =>
      hplace.trans (hrested (hsame.symm.trans hoperations)).1
    have hsends : p.Sends p₂ Sent.AtDefault :=
      (hchecked.sends.imp nofun).trans (hsent.sends.imp fun e he => hdefault e he.1 he.2.1)
    have hback : ∀ q : Pools, q.Clean → q.connection? id = some conn' →
        q.server.record = p₂.server.record → (q.perform (.giveBack id)).2.Clean ∧
          p.Sends (q.perform (.giveBack id)).2 Sent.AtDefault := fun q hq hid hrecord => by
      have hgiven := changes_giveBack hq hid
      refine ⟨hgiven.clean, (hsends.trans (.of_record_eq hrecord)).trans
        (hgiven.sends.imp fun e he => hdefault e (he.1.trans hcluster) (he.2.1.trans hpath))⟩
    cases answer with
    | error e =>
      refine hback _ hsent.clean.close ?_ (congrArg Server.record (server_update ..))
      rw [← hsent.connection?_self, connection?, close, out_update]
      rfl
    | ok reply => exact hback p₂ hsent.clean hsent.connection?_self rfl

private theorem openPool_spec (c : Cluster) (s : Config.DatabaseSettings) (hp : p.Clean) :
    (p.openPool c s).2.Clean ∧ p.Sends (p.openPool c s).2 Sent.AtDefault := by
  have hopened : ∀ conn ∈ (opened c s).idle, conn.cluster = c ∧ conn.IsRested := by
    intro conn hconn
    simp only [opened] at hconn
    split at hconn
    · rw [List.eq_of_mem_replicate hconn]
      exact ⟨rfl, fun _ => ⟨rfl, rfl⟩⟩
    · cases hconn
  unfold openPool
  split
  · exact ⟨hp, .of_record_eq rfl⟩
  · split
    · exact ⟨hp, .of_record_eq rfl⟩
    · split
      · exact ⟨hp, .of_record_eq rfl⟩
      · have hfull : (p.update c fun _ => opened c s).Clean := hp.update hopened
        obtain ⟨hclean, hsends⟩ := firstProbe_spec c hfull
        exact ⟨hclean, Sends.trans (.of_record_eq (congrArg Server.record (server_update ..))) hsends⟩

/-- Pools that were opened, or not, are clean, and names were looked up in the default places. -/
theorem openBoth_spec (registry operations : Config.DatabaseSettings) (hp : p.Clean) :
    (p.openBoth registry operations).2.Clean ∧
      p.Sends (p.openBoth registry operations).2 Sent.AtDefault := by
  obtain ⟨hclean, hsends⟩ := openPool_spec .registry registry hp
  unfold openBoth
  split
  · next e p₁ hregistry =>
    rw [hregistry] at hclean hsends
    exact ⟨hclean, hsends⟩
  · next p₁ hregistry =>
    rw [hregistry] at hclean hsends
    obtain ⟨hclean', hsends'⟩ := openPool_spec .operations operations hclean
    split
    · next e p₂ hoperations =>
      rw [hoperations] at hclean' hsends'
      exact ⟨Clean.close (c := .registry) hclean', (hsends.trans hsends').trans
        (.of_record_eq (congrArg Server.record (server_update ..)))⟩
    · next p₂ hoperations =>
      rw [hoperations] at hclean' hsends'
      exact ⟨hclean', hsends.trans hsends'⟩

end Pools

end Tenancy.Postgres
