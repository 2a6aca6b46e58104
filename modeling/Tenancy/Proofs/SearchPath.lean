import Tenancy.Proofs.Holding
import Tenancy.Proofs.Traffic

/-!
# Search paths do not outlive their sessions

Users of the operations pool share its connections, and each session changes where its connection
looks names up. Still no two of them meet: a user who makes a call changes what it has in hand and the
pools, and leaves alone what others have (`Turn.Passes`); and what it has in hand is bound to the
schema of its session, or looks names up in the default places whenever a statement runs on it
(`User.Sound`).

## Key results

- `Turn.call_passes`: what a call of one user leaves as it is
- `Turn.proceed_good`, `Turn.use_good`, `Turn.release_good`, `Turn.drop_good`: whole turns
- `State.inv_opened`, `State.Inv.step`, `State.Inv.run`: the invariant of all users and the log
- `no_path_outlives_session`: where names are looked up on the operations cluster
-/

namespace Tenancy.Postgres.Traffic

open Program (Guarded)
open Hold (Next Allowed InSession surroundings)

/-! ## Statements in their places -/

/-- A connection looks names up where the statements of an issuer are to run. -/
def Issuer.Home (issuer : Issuer) (conn : Connection) : Prop :=
  match issuer with
  | .session s => conn.cluster = .operations ∧ conn.searchPath = tenantPath s.schema
  | .other => conn.AtDefault
  | .pool => True

/-- A statement ran where it is to run. All that a pool runs itself restores a search path. -/
def Event.InPlace (e : Event) : Prop :=
  match e.issuer with
  | .session s => e.sent.cluster = .operations ∧ e.sent.searchPath = tenantPath s.schema
  | .other => e.sent.AtDefault
  | .pool => e.sent.statement = OperationsStatement.resetSearchPath

namespace User

variable {u : User} {conn : Connection} {sent : Sent}

theorem inPlace_of_home (hhome : u.issuer.Home conn) (hcluster : sent.cluster = conn.cluster)
    (hpath : sent.searchPath = conn.searchPath) : Event.InPlace ⟨u.issuer, sent⟩ := by
  revert hhome
  unfold issuer Event.InPlace Sent.AtDefault
  rw [hcluster, hpath]
  cases u.session? <;> exact id

@[simp] theorem rest_took (u : User) (c : PoolCall) (r : c.Answer) : (u.took c r).rest = u.rest := by
  cases c with
  | checkout c => cases r <;> rfl
  | _ => rfl

theorem issuer_of_rest {u' : User} (h : u'.rest = u.rest) : u'.issuer = u.issuer := by
  rw [issuer, issuer, session?, session?, h]

/-- What a user has in hand is this connection of the pools, or nothing. -/
structure Fits (u : User) (v : Option Hold) (p : Pools) : Prop where
  held : u.held = v.toList.map fun h => ⟨h.connection, h.begun⟩
  out : ∀ h ∈ v, p.connection? h.connection = some h.state

end User

/-- What a program leaves in hand: the connection of its session, or nothing. -/
def Left (v : Option Hold) : Option Session → Prop
  | some session => InSession v session
  | none => v = none

theorem guarded_job (client : Client) (job : Job) :
    Guarded surroundings Left (job.program client) none := by
  cases job with
  | session t m =>
    refine Guarded.map ((Hold.guarded_acquire client t m).imp ?_)
    rintro v (e | session) h <;> exact h
  | stores p => exact Guarded.map (Hold.guarded_stores client p)
  | install script => exact Guarded.map (Hold.guarded_runScript script)
  | probe => exact Guarded.map Hold.guarded_probe

/-- A user makes only calls that it may make, and has what it needs for them. What has to be rolled
    back can be, where the user's statements are to run. -/
def User.Sound (u : User) (p : Pools) : Prop :=
  ∃ v, u.Fits v p ∧ Guarded surroundings Left u.rest v ∧ (u.session? = none → ∀ h ∈ v, h.Tame)

namespace Turn

/-! ## One call -/

/-- What a user does leaves alone what others have, and all statements run where they are to run. -/
structure Passes (T T' : Turn) : Prop where
  clean : T'.pools.Clean
  others : ∀ id conn, T.pools.connection? id = some conn →
    (∀ g ∈ T.user.held, g.connection ≠ id) →
      T'.pools.connection? id = some conn ∧ ∀ g ∈ T'.user.held, g.connection ≠ id
  log : ∀ e ∈ T'.log, e ∈ T.log ∨ e.InPlace

namespace Passes

variable {T T' T'' : Turn}

theorem refl (h : T.pools.Clean) : Passes T T :=
  ⟨h, fun _ _ hid hother => ⟨hid, hother⟩, fun _ => .inl⟩

theorem trans (h : Passes T T') (h' : Passes T' T'') : Passes T T'' where
  clean := h'.clean
  others id conn hid hother := by
    obtain ⟨hid', hother'⟩ := h.others id conn hid hother
    exact h'.others id conn hid' hother'
  log e he := by
    rcases h'.log e he with he | hplace
    · exact h.log e he
    · exact .inr hplace

end Passes

/-- A call that a user may make with what it has, where `home` holds of connections that look names
    up in the right places. -/
def Placed (home : Connection → Prop) (v : Option Hold) : PoolCall → Prop
  | .checkout _ => v = none
  | .send id _ | .begin id => ∃ h, v = some h ∧ h.connection = id ∧ home h.state
  | .oweRollback id => ∃ h, v = some h ∧ h.connection = id
  | .giveBack id =>
    ∃ h, v = some h ∧ h.connection = id ∧ (h.state.owesRollback = true → home h.state)

variable {T : Turn} {c : PoolCall} {v : Option Hold} {h : Hold} {id : ConnectionId} {p' : Pools}

/-- A call that changes one connection, new to those that are out or in the user's hand, leaves alone
    what others have. Afterwards the user has that connection at most. -/
private theorem passes_of_changes {r : c.Answer} {now : Option Connection} {P : Sent → Prop}
    (hchanges : T.pools.Changes id now P p')
    (hid : T.pools.connection? id = none ∨ ∃ g ∈ T.user.held, g.connection = id)
    (hheld : ∀ g ∈ (T.user.took c r).held, g.connection = id)
    (hplace : ∀ sent, P sent → (T.user.event c sent).InPlace) : Passes T (T.after c r p') where
  clean := hchanges.clean
  others id' conn hid' hother := by
    -- the connection of somebody else is out, and not in the user's hand
    have hne : id' ≠ id := by
      rintro rfl
      rcases hid with hnone | ⟨g, hg, hsame⟩
      · rw [hnone] at hid'
        cases hid'
      · exact hother g hg hsame
    exact ⟨(hchanges.connection?_of_ne hne).trans hid', fun g hg hsame =>
      hne (hsame.symm.trans (hheld g hg))⟩
  log e he := by
    rcases List.mem_append.mp he with hnew | hold
    · obtain ⟨sent, hsent, rfl⟩ := List.mem_map.mp hnew
      exact .inr (hplace sent (hchanges.sends.of_mem_sentSince hsent))
    · exact .inl hold

/-- A call on the connection in the user's hand. -/
private theorem passes_in_hand {r : c.Answer} {now : Option Connection} {P : Sent → Prop}
    (hfits : T.user.Fits (some h) T.pools) (hchanges : T.pools.Changes h.connection now P p')
    (hheld : ∀ g ∈ (T.user.took c r).held, g.connection = h.connection)
    (hplace : ∀ sent, P sent → (T.user.event c sent).InPlace) : Passes T (T.after c r p') := by
  have hmem : ⟨h.connection, h.begun⟩ ∈ T.user.held := by
    rw [hfits.held]
    exact List.mem_singleton_self _
  exact passes_of_changes hchanges (.inr ⟨_, hmem, rfl⟩) hheld hplace

/-- A call leaves alone what others have, and what the user itself has afterwards follows from what
    it had. -/
private def Followed (T : Turn) (v : Option Hold) (c : PoolCall) (r : c.Answer) (p' : Pools) : Prop :=
  Passes T (T.after c r p') ∧ ∃ v', Next v c r v' ∧ (T.user.took c r).Fits v' p'

private theorem followed_checkout {c : Cluster} {r : Except DbError ConnectionId}
    (hclean : T.pools.Clean) (hfits : T.user.Fits none T.pools)
    (hchecked : T.pools.perform (.checkout c) = (r, p')) :
    T.Followed none (.checkout c) r p' := by
  have hheld : T.user.held = [] := hfits.held
  obtain ⟨e, rfl, rfl⟩ | ⟨id, conn, rfl, hcluster, hrested, hnew, hchanges⟩ :=
    Pools.changes_checkout hclean hchecked
  · refine ⟨⟨hclean, fun _ _ hid hother => ⟨hid, hother⟩, fun e he => .inl ?_⟩, none,
      .refused _ c e, hfits⟩
    simpa [after] using he
  · refine ⟨passes_of_changes hchanges (.inl hnew) (fun g hg => ?_) nofun, _,
      .taken c id conn hcluster hrested, ?_, ?_⟩
    · simp only [User.took, hheld, List.mem_singleton] at hg
      rw [hg]
    · simp [User.took, hheld]
    · rintro _ ⟨⟩
      exact hchanges.connection?_self

section InHand

variable (hclean : T.pools.Clean) (hfits : T.user.Fits (some h) T.pools)
include hclean hfits

private theorem followed_send {s : Statement} {r : Except DbError Reply}
    (hhome : T.user.issuer.Home h.state)
    (hsent : T.pools.perform (.send h.connection s) = (r, p')) :
    T.Followed (some h) (.send h.connection s) r p' := by
  obtain ⟨conn, hcluster, hpath, howes, hchanges⟩ :=
    Pools.changes_send hclean (hfits.out h rfl) hsent
  refine ⟨passes_in_hand hfits hchanges ?_ ?_, _, .sent h s r conn hcluster hpath howes,
    hfits.held, ?_⟩
  · simp [User.took, hfits.held]
  · exact fun sent he => User.inPlace_of_home hhome he.1 he.2.1
  · rintro _ ⟨⟩
    exact hchanges.connection?_self

private theorem followed_begin {r : Except DbError Unit} (hhome : T.user.issuer.Home h.state)
    (hbegun : T.pools.perform (.begin h.connection) = (r, p')) :
    T.Followed (some h) (.begin h.connection) r p' := by
  obtain ⟨conn, hcluster, hpath, howes, hchanges⟩ :=
    Pools.changes_begin hclean (hfits.out h rfl) hbegun
  refine ⟨passes_in_hand hfits hchanges ?_ ?_, _, .begun h r conn hcluster hpath howes, ?_, ?_⟩
  · simp [User.took, hfits.held]
  · exact fun sent he => User.inPlace_of_home hhome he.1 he.2.1
  · simp [User.took, hfits.held]
  · rintro _ ⟨⟩
    exact hchanges.connection?_self

private theorem followed_oweRollback :
    T.Followed (some h) (.oweRollback h.connection) () (T.pools.perform (.oweRollback h.connection)).2 := by
  have hchanges := Pools.changes_oweRollback hclean (hfits.out h rfl)
  refine ⟨passes_in_hand hfits hchanges ?_ nofun, _, .owed h, hfits.held, ?_⟩
  · simp [User.took, hfits.held]
  · rintro _ ⟨⟩
    exact hchanges.connection?_self

private theorem followed_giveBack
    (hhome : h.state.owesRollback = true → T.user.issuer.Home h.state) :
    T.Followed (some h) (.giveBack h.connection) () (T.pools.perform (.giveBack h.connection)).2 := by
  have hchanges := Pools.changes_giveBack hclean (hfits.out h rfl)
  refine ⟨passes_in_hand hfits hchanges ?_ ?_, _, .returned h, ?_, nofun⟩
  · simp [User.took, hfits.held]
  · rintro sent ⟨hcluster, hpath, hreset | ⟨hrollback, howes⟩⟩
    · simp only [User.event, if_pos hreset]
      exact hreset
    · have hother : sent.statement ≠ OperationsStatement.resetSearchPath := by
        rw [hrollback]
        decide
      simp only [User.event, if_neg hother]
      exact User.inPlace_of_home (hhome howes) hcluster hpath
  · simp [User.took, hfits.held]

end InHand

/-- A call of one user, followed through what it has in hand. -/
theorem call_passes (hclean : T.pools.Clean) (hfits : T.user.Fits v T.pools)
    (hplaced : Placed T.user.issuer.Home v c) :
    Passes T (T.call c).2 ∧ (T.call c).2.user.rest = T.user.rest ∧
      ∃ v', Next v c (T.call c).1 v' ∧ (T.call c).2.user.Fits v' (T.call c).2.pools := by
  have hfollowed : T.Followed v c (T.pools.perform c).1 (T.pools.perform c).2 := by
    cases c with
    | checkout c =>
      obtain rfl := hplaced
      exact followed_checkout hclean hfits rfl
    | send id s =>
      obtain ⟨h, rfl, rfl, hhome⟩ := hplaced
      exact followed_send hclean hfits hhome rfl
    | begin id =>
      obtain ⟨h, rfl, rfl, hhome⟩ := hplaced
      exact followed_begin hclean hfits hhome rfl
    | oweRollback id =>
      obtain ⟨h, rfl, rfl⟩ := hplaced
      exact followed_oweRollback hclean hfits
    | giveBack id =>
      obtain ⟨h, rfl, rfl, hhome⟩ := hplaced
      exact followed_giveBack hclean hfits hhome
  exact ⟨hfollowed.1, User.rest_took .., hfollowed.2⟩

/-! ## Whole turns -/

/-- The user whose turn it is can go on. -/
def Sound (T : Turn) : Prop := T.pools.Clean ∧ T.user.Sound T.pools

/-- A turn leaves alone what others have, and the user can go on. -/
def Good (T T' : Turn) : Prop := Passes T T' ∧ T'.Sound

theorem Sound.good (h : T.Sound) : Good T T := ⟨.refl h.1, h⟩

private theorem placed_of_allowed (hallowed : Allowed v c) (htame : ∀ h ∈ v, h.Tame) :
    Placed Connection.AtDefault v c := by
  cases c with
  | checkout c => exact hallowed
  | send id s =>
    obtain ⟨h, hv, hid, hdefault, -⟩ := hallowed
    exact ⟨h, hv, hid, hdefault⟩
  | begin id => exact hallowed
  | oweRollback id =>
    obtain ⟨h, hv, hid, -⟩ := hallowed
    exact ⟨h, hv, hid⟩
  | giveBack id =>
    obtain ⟨h, rfl, hid⟩ := hallowed
    exact ⟨h, rfl, hid, fun howes => htame h rfl (.inr howes)⟩

/-- The call that a program waits for. -/
private theorem ask_passes {k : c.Answer → PoolProgram (Option Session)} (hT : T.Sound)
    (hrest : T.user.rest = .ask c k) :
    Passes T (T.call c).2 ∧ (T.call c).2.user.rest = T.user.rest ∧
      ∃ v, (T.call c).2.user.Fits v (T.call c).2.pools ∧
        Guarded surroundings Left (k (T.call c).1) v ∧ ∀ h ∈ v, h.Tame := by
  obtain ⟨hclean, v, hfits, hguarded, htame⟩ := hT
  have hnone : T.user.session? = none := by rw [User.session?, hrest]
  have hissuer : T.user.issuer = .other := by rw [User.issuer, hnone]
  rw [hrest, Hold.guarded_ask] at hguarded
  obtain ⟨hallowed, hnext⟩ := hguarded
  have hplaced : Placed T.user.issuer.Home v c := by
    rw [hissuer]
    exact placed_of_allowed hallowed (htame hnone)
  obtain ⟨hpasses, hrest', v', hcall, hfits'⟩ := call_passes hclean hfits hplaced
  exact ⟨hpasses, hrest', v', hfits', hnext _ v' hcall,
    Hold.tame_next (htame hnone) hallowed hcall⟩

theorem proceed_good (hT : T.Sound) : Good T T.proceed := by
  unfold proceed
  split
  · next c k hrest =>
    obtain ⟨hpasses, -, v, hfits, hguarded, htame⟩ := ask_passes hT hrest
    exact ⟨⟨hpasses.clean, hpasses.others, hpasses.log⟩, hpasses.clean, v,
      ⟨hfits.held, hfits.out⟩, hguarded, fun _ => htame⟩
  · exact hT.good

/-- What the user of a session may do with its connection. -/
def Uses (session : Session) : PoolCall → Prop
  | .send id s => id = session.connection ∧ s.KeepsPath
  | .begin id | .oweRollback id => id = session.connection
  | .checkout _ | .giveBack _ => False

private theorem Uses.placed {session : Session} (huses : Uses session c)
    (hsession : InSession v session) : Placed (Issuer.session session).Home v c := by
  obtain ⟨h, rfl, hid, hhome⟩ := hsession
  cases c with
  | checkout c => cases huses
  | send id s => exact ⟨h, rfl, hid.trans huses.1.symm, hhome⟩
  | begin id => exact ⟨h, rfl, hid.trans huses.symm, hhome⟩
  | oweRollback id => exact ⟨h, rfl, hid.trans huses.symm⟩
  | giveBack id => cases huses

/-- The connection stays bound to the session's schema. -/
private theorem inSession_next {session : Session} {r : c.Answer} {v' : Option Hold}
    (hsession : InSession v session) (huses : Uses session c) (hnext : Next v c r v') :
    InSession v' session := by
  obtain ⟨h, rfl, hid, hcluster, hpath⟩ := hsession
  cases hnext with
  | refused => cases huses
  | returned => cases huses
  | sent _ s r conn hcluster' hpath' howes =>
    refine ⟨_, rfl, hid, hcluster'.trans hcluster, hpath'.trans ?_⟩
    rw [Server.searchPathUpon_of_keepsPath huses.2, hpath]
  | begun _ r conn hcluster' hpath' howes =>
    exact ⟨_, rfl, hid, hcluster'.trans hcluster, hpath'.trans hpath⟩
  | owed => exact ⟨_, rfl, hid, hcluster, hpath⟩

/-- Whoever has a session has its connection, on which its statements are to run. -/
private theorem Sound.inSession {session : Session} (hT : T.Sound)
    (hsession : T.user.session? = some session) :
    T.user.issuer = .session session ∧ T.user.rest = .done (some session) ∧
      ∃ v, T.user.Fits v T.pools ∧ InSession v session := by
  obtain ⟨-, v, hfits, hguarded, -⟩ := hT
  have hrest : T.user.rest = .done (some session) := by
    revert hsession
    unfold User.session?
    split
    · next s hs =>
      rintro rfl
      exact hs
    · exact nofun
  rw [hrest, Hold.guarded_done] at hguarded
  exact ⟨by rw [User.issuer, hsession], hrest, v, hfits, hguarded⟩

theorem use_good {c : Session → PoolCall} (hT : T.Sound) (hc : ∀ session, Uses session (c session)) :
    Good T (T.use c) := by
  unfold use
  split
  · next session hsession =>
    obtain ⟨hissuer, hrest, v, hfits, hin⟩ := hT.inSession hsession
    have hplaced : Placed T.user.issuer.Home v (c session) := by
      rw [hissuer]
      exact (hc session).placed hin
    obtain ⟨hpasses, hrest', v', hnext, hfits'⟩ := call_passes hT.1 hfits hplaced
    have hin' := inSession_next hin (hc session) hnext
    refine ⟨hpasses, hpasses.clean, v', hfits', ?_, ?_⟩
    · rw [hrest', hrest, Hold.guarded_done]
      exact hin'
    · rw [User.session?, hrest', hrest]
      exact nofun
  · exact hT.good

/-- Nobody is left with anything who has gone on to nothing. -/
private theorem Passes.good_of_held {T' : Turn} (hpasses : Passes T T') (hheld : T'.user.held = []) :
    Good T (T'.resume (.done none)) := by
  refine ⟨⟨hpasses.clean, hpasses.others, hpasses.log⟩, hpasses.clean, none, ⟨hheld, nofun⟩, ?_, ?_⟩
  · exact Hold.guarded_done.mpr rfl
  · exact fun _ => nofun

theorem release_good (client : Client) (hT : T.Sound) : Good T (T.release client) := by
  unfold release
  split
  · next session hsession =>
    obtain ⟨hissuer, -, v, hfits, h, rfl, hid, hhome⟩ := hT.inSession hsession
    -- the release of a session is one call
    show Good T ((T.call (.giveBack session.connection)).2.resume (.done none))
    rw [← hid]
    have hplaced : Placed T.user.issuer.Home (some h) (.giveBack h.connection) := by
      rw [hissuer]
      exact ⟨h, rfl, rfl, fun _ => hhome⟩
    obtain ⟨hpasses, -, v', hnext, hfits'⟩ := call_passes hT.1 hfits hplaced
    cases hnext with
    | returned => exact hpasses.good_of_held hfits'.held
  · exact hT.good

/-- What a user leaves behind can be rolled back, where its statements are to run. -/
private def Droppable (T : Turn) : Prop :=
  T.pools.Clean ∧ ∃ v, T.user.Fits v T.pools ∧
    ∀ h ∈ v, h.begun = true ∨ h.state.owesRollback = true → T.user.issuer.Home h.state

private theorem Sound.droppable (hT : T.Sound) : T.Droppable := by
  cases hsession : T.user.session? with
  | none =>
    obtain ⟨hclean, v, hfits, -, htame⟩ := hT
    refine ⟨hclean, v, hfits, ?_⟩
    rw [User.issuer, hsession]
    exact htame hsession
  | some session =>
    obtain ⟨hissuer, -, v, hfits, h, rfl, -, hhome⟩ := hT.inSession hsession
    refine ⟨hT.1, _, hfits, ?_⟩
    rw [hissuer]
    rintro _ ⟨⟩ -
    exact hhome

private theorem reach_passes (hT : T.Sound) : Passes T T.reach ∧ T.reach.Droppable := by
  unfold reach
  split
  · next c k hrest =>
    obtain ⟨hpasses, hrest', v, hfits, -, htame⟩ := ask_passes hT hrest
    refine ⟨hpasses, hpasses.clean, v, hfits, ?_⟩
    rw [User.issuer_of_rest hrest', User.issuer, User.session?, hrest]
    exact htame
  · exact ⟨.refl hT.1, hT.droppable⟩

private theorem oweRollbacks_passes (hT : T.Droppable) :
    Passes T T.oweRollbacks ∧ T.oweRollbacks.Droppable := by
  obtain ⟨hclean, v, hfits, hhome⟩ := hT
  cases v with
  | none =>
    have hnothing : T.oweRollbacks = T := by simp [oweRollbacks, hfits.held]
    rw [hnothing]
    exact ⟨.refl hclean, hclean, none, hfits, nofun⟩
  | some h =>
    by_cases hbegun : h.begun = true
    · have hcall : T.oweRollbacks = (T.call (.oweRollback h.connection)).2 := by
        simp [oweRollbacks, hfits.held, hbegun]
      obtain ⟨hpasses, hrest, v', hnext, hfits'⟩ :=
        call_passes (c := .oweRollback h.connection) hclean hfits ⟨h, rfl, rfl⟩
      rw [hcall]
      refine ⟨hpasses, hpasses.clean, v', hfits', ?_⟩
      rw [User.issuer_of_rest hrest]
      cases hnext with
      | owed =>
        rintro _ ⟨⟩ -
        have hthere := hhome h rfl (.inl hbegun)
        revert hthere
        cases T.user.issuer <;> exact id
    · have hnothing : T.oweRollbacks = T := by simp [oweRollbacks, hfits.held, hbegun]
      rw [hnothing]
      exact ⟨.refl hclean, hclean, some h, hfits, hhome⟩

private theorem giveAllBack_passes (hT : T.Droppable) :
    Passes T T.giveAllBack ∧ T.giveAllBack.user.held = [] := by
  obtain ⟨hclean, v, hfits, hhome⟩ := hT
  cases v with
  | none =>
    have hnothing : T.giveAllBack = T := by simp [giveAllBack, hfits.held]
    rw [hnothing]
    exact ⟨.refl hclean, hfits.held⟩
  | some h =>
    have hcall : T.giveAllBack = (T.call (.giveBack h.connection)).2 := by
      simp [giveAllBack, hfits.held]
    obtain ⟨hpasses, -, v', hnext, hfits'⟩ :=
      call_passes (c := .giveBack h.connection) hclean hfits
        ⟨h, rfl, rfl, fun howes => hhome h rfl (.inr howes)⟩
    rw [hcall]
    cases hnext with
    | returned => exact ⟨hpasses, hfits'.held⟩

theorem drop_good (reached rollback : Bool) (hT : T.Sound) : Good T (T.drop reached rollback) := by
  obtain ⟨T₁, hT₁, hpasses₁, hdrop₁⟩ :
      ∃ T₁, T₁ = (if reached then T.reach else T) ∧ Passes T T₁ ∧ T₁.Droppable := by
    cases reached with
    | true => exact ⟨_, rfl, reach_passes hT⟩
    | false => exact ⟨_, rfl, .refl hT.1, hT.droppable⟩
  obtain ⟨T₂, hT₂, hpasses₂, hdrop₂⟩ :
      ∃ T₂, T₂ = (if rollback then T₁.oweRollbacks else T₁) ∧ Passes T T₂ ∧ T₂.Droppable := by
    cases rollback with
    | true =>
      obtain ⟨hpasses, hdrop⟩ := oweRollbacks_passes hdrop₁
      exact ⟨_, rfl, hpasses₁.trans hpasses, hdrop⟩
    | false => exact ⟨_, rfl, hpasses₁, hdrop₁⟩
  obtain ⟨hpasses₃, hheld⟩ := giveAllBack_passes hdrop₂
  have hresult : T.drop reached rollback = T₂.giveAllBack.resume (.done none) := by
    rw [drop, ← hT₁, ← hT₂]
  rw [hresult]
  exact (hpasses₂.trans hpasses₃).good_of_held hheld

end Turn

/-! ## All users -/

namespace State

/-- The pools are clean, no two users have one connection, each of them can go on, and all
    statements ran where they were to run. -/
structure Inv (S : State) : Prop where
  clean : S.pools.Clean
  sound : ∀ id u, S.users id = some u → u.Sound S.pools
  apart : ∀ id id' u u', S.users id = some u → S.users id' = some u' → id ≠ id' →
    ∀ g ∈ u.held, ∀ g' ∈ u'.held, g.connection ≠ g'.connection
  log : ∀ e ∈ S.log, e.InPlace

theorem inv_opened (server : Server) (registry operations : Config.DatabaseSettings) :
    (opened server registry operations).Inv := by
  have hclosed : Pools.Clean { server := server.forget } := by
    refine ⟨fun c conn hconn => ?_, nofun⟩
    cases c <;> cases hconn
  obtain ⟨hclean, sent, hrecord, hsent⟩ := Pools.openBoth_spec registry operations hclosed
  refine ⟨hclean, nofun, nofun, fun e he => ?_⟩
  obtain ⟨sent', hmem, rfl⟩ := List.mem_map.mp he
  have hmem' : sent' ∈ sent ++ [] := hrecord ▸ hmem
  rw [List.append_nil] at hmem'
  exact hsent sent' hmem'

namespace Inv

variable {S : State}

/-- One user has changed, and the others go on as they were. -/
private theorem setUser (h : S.Inv) (id : UserId) {T : Turn} (hT : T.Sound)
    (hothers : ∀ id' u, id' ≠ id → S.users id' = some u →
      u.Sound T.pools ∧ ∀ g ∈ T.user.held, ∀ g' ∈ u.held, g.connection ≠ g'.connection)
    (hlog : ∀ e ∈ T.log, e.InPlace) :
    Inv ⟨T.pools, Function.update S.users id (some T.user), T.log⟩ := by
  have hself : Function.update S.users id (some T.user) id = some T.user := Function.update_self ..
  have hother : ∀ id', id' ≠ id → Function.update S.users id (some T.user) id' = S.users id' :=
    fun id' hne => Function.update_of_ne hne ..
  refine ⟨hT.1, fun id' u (hu : Function.update S.users id (some T.user) id' = some u) => ?_,
    fun id₁ id₂ u₁ u₂ (hu₁ : Function.update S.users id (some T.user) id₁ = some u₁)
      (hu₂ : Function.update S.users id (some T.user) id₂ = some u₂) hne => ?_, hlog⟩
  · by_cases hsame : id' = id
    · rw [hsame, hself] at hu
      cases hu
      exact hT.2
    · rw [hother id' hsame] at hu
      exact (hothers id' u hsame hu).1
  · by_cases hsame₁ : id₁ = id
    · have hsame₂ : id₂ ≠ id := fun hsame₂ => hne (hsame₁.trans hsame₂.symm)
      rw [hsame₁, hself] at hu₁
      rw [hother id₂ hsame₂] at hu₂
      cases hu₁
      exact (hothers id₂ u₂ hsame₂ hu₂).2
    · rw [hother id₁ hsame₁] at hu₁
      by_cases hsame₂ : id₂ = id
      · rw [hsame₂, hself] at hu₂
        cases hu₂
        exact fun g hg g' hg' => ((hothers id₁ u₁ hsame₁ hu₁).2 g' hg' g hg).symm
      · rw [hother id₂ hsame₂] at hu₂
        exact h.apart id₁ id₂ u₁ u₂ hu₁ hu₂ hne

/-- A user's turn. -/
theorem turn (h : S.Inv) (id : UserId) {f : Turn → Turn}
    (hf : ∀ T : Turn, T.Sound → Turn.Good T (f T)) : (S.turn id f).Inv := by
  unfold State.turn
  split
  · exact h
  · next user huser =>
    obtain ⟨hpasses, hsound⟩ := hf ⟨S.pools, user, S.log⟩ ⟨h.clean, h.sound id user huser⟩
    refine h.setUser id hsound (fun id' u hne hu => ?_) fun e he => ?_
    · -- what another user has is where it was, and not in this user's hand
      obtain ⟨v, hfits, hguarded, htame⟩ := h.sound id' u hu
      have hkept : ∀ hold ∈ v, (⟨hold.connection, hold.begun⟩ : Grip) ∈ u.held := by
        rintro hold rfl
        rw [hfits.held]
        exact List.mem_singleton_self _
      have hthere := fun hold hv => hpasses.others _ _ (hfits.out hold hv) fun g hg =>
        h.apart id id' user u huser hu hne.symm g hg _ (hkept hold hv)
      refine ⟨⟨v, ⟨hfits.held, fun hold hv => (hthere hold hv).1⟩, hguarded, htame⟩, ?_⟩
      intro g hg g' hg'
      rw [hfits.held] at hg'
      obtain ⟨hold, hv, rfl⟩ := List.mem_map.mp hg'
      exact (hthere hold (Option.mem_toList.mp hv)).2 g hg
    · rcases hpasses.log e he with hold | hplace
      · exact h.log e hold
      · exact hplace

/-- A user appears. -/
theorem start (h : S.Inv) (client : Client) (id : UserId) (job : Job) :
    Inv { S with users := Function.update S.users id (some { rest := job.program client }) } :=
  h.setUser id (T := ⟨S.pools, { rest := job.program client }, S.log⟩)
    ⟨h.clean, none, ⟨rfl, nofun⟩, guarded_job client job, fun _ => nofun⟩
    (fun id' u _ hu => ⟨h.sound id' u hu, nofun⟩) h.log

/-- Nobody's turn: the connections that are out stay as they are. -/
theorem of_pools {p' : Pools} (h : S.Inv) (hclean : p'.Clean) (hout : p'.out = S.pools.out) :
    Inv { S with pools := p' } where
  clean := hclean
  sound id u hu := by
    obtain ⟨v, hfits, hguarded, htame⟩ := h.sound id u hu
    have hsame : p'.connection? = S.pools.connection? := by
      funext id
      rw [Pools.connection?, Pools.connection?, hout]
    exact ⟨v, ⟨hfits.held, hsame ▸ hfits.out⟩, hguarded, htame⟩
  apart := h.apart
  log := h.log

theorem step (h : S.Inv) (client : Client) {move : Move} (hkeeps : move.KeepsPath) :
    (S.step client move).Inv := by
  cases move with
  | start id job =>
    simp only [State.step]
    split
    · exact h.start client id job
    · exact h
  | proceed id => exact h.turn id fun T hT => Turn.proceed_good hT
  | send id s => exact h.turn id fun T hT => Turn.use_good hT fun session => ⟨rfl, hkeeps⟩
  | begin id => exact h.turn id fun T hT => Turn.use_good hT fun session => rfl
  | abandon id => exact h.turn id fun T hT => Turn.use_good hT fun session => rfl
  | release id => exact h.turn id fun T hT => Turn.release_good client hT
  | drop id reached rollback => exact h.turn id fun T hT => Turn.drop_good reached rollback hT
  | script rules refusals => exact h.of_pools ⟨h.clean.idle, h.clean.numbered⟩ rfl
  | retire c place =>
    refine h.of_pools (h.clean.update fun conn hconn => ?_) (Pools.out_update ..)
    exact h.clean.idle c conn (List.mem_of_mem_eraseIdx hconn)
  | replenish c =>
    simp only [State.step]
    split
    · exact h.of_pools (h.clean.rest fun _ => ⟨rfl, rfl⟩) (Pools.out_update ..)
    · exact h
  | close c => exact h.of_pools h.clean.close (Pools.out_update ..)

theorem run (h : S.Inv) (client : Client) {moves : List Move}
    (hkeeps : ∀ move ∈ moves, move.KeepsPath) : (S.run client moves).Inv := by
  induction moves generalizing S with
  | nil => exact h
  | cons move moves ih =>
    obtain ⟨hmove, hmoves⟩ := List.forall_mem_cons.mp hkeeps
    exact ih (h.step client hmove) hmoves

end Inv

end State

/-- No search path of a tenant outlives its session. Whatever sessions are acquired, used and given up
    on the pools, which statements and resets of search paths fail, and who is dropped where: the
    connections at rest in the operations pool look names up in the default places, statements of a
    session run where names are looked up in its schema first, and all others where names are looked
    up in the default places, except for those by which the pool restores them. -/
theorem no_path_outlives_session (client : Client) (server : Server)
    (registry operations : Config.DatabaseSettings) (moves : List Move)
    (hkeeps : ∀ move ∈ moves, move.KeepsPath) :
    let S := (State.opened server registry operations).run client moves
    (∀ conn ∈ S.pools.operations.idle, conn.searchPath = defaultSearchPath) ∧
    (∀ e ∈ S.log, ∀ session, e.issuer = .session session →
      e.sent.searchPath = tenantPath session.schema) ∧
    (∀ e ∈ S.log, e.issuer = .other → e.sent.cluster = .operations →
      e.sent.searchPath = defaultSearchPath) ∧
    (∀ e ∈ S.log, e.issuer = .pool → e.sent.statement = OperationsStatement.resetSearchPath) := by
  have hinv := (State.inv_opened server registry operations).run client hkeeps
  refine ⟨fun conn hconn => ?_, fun e he session hissuer => ?_, fun e he hissuer => ?_,
    fun e he hissuer => ?_⟩
  · obtain ⟨hcluster, hrested⟩ := hinv.clean.idle .operations conn hconn
    exact (hrested hcluster).1
  all_goals
    have hplace := hinv.log e he
    rw [Event.InPlace, hissuer] at hplace
  · exact hplace.2
  · exact hplace
  · exact hplace

/-- A server whose registry answers with the row of a tenant. -/
def acmeServer : Server where
  address := "postgres://localhost/ops"
  rules :=
    [{ fragment := "", cluster := some .registry, times := none
       answer := .ok (.rows
         [⟨"tenant_id", .uuid⟩, ⟨"tenant_slug", .text⟩, ⟨"tenant_name", .text⟩,
           ⟨"contact_email", .text⟩, ⟨"modules_subscribed", .textArray⟩, ⟨"is_active", .bool⟩,
           ⟨"finance_schema", .text⟩, ⟨"operations_schema", .text⟩, ⟨"inventory_schema", .text⟩,
           ⟨"hrms_schema", .text⟩, ⟨"modified_at", .timestamptz⟩]
         [[.uuid ⟨3⟩, .text "acme", .text "Acme", .null, .textArray [some "operations"], .bool true,
           .null, .text "ops_acme", .null, .null, .null]]) }]

/-- Two connections at most. -/
def smallPool : Config.DatabaseSettings where
  url := "postgres://localhost/ops"
  maxOpen := 2
  minIdle := 0

/-- A session is acquired and used while another user asks for a sign of life. It begins a transaction,
    and is dropped with it when no search path can be restored. -/
def shared : List Move :=
  [.start 1 (.session ⟨3⟩ .operations), .proceed 1, .proceed 1, .proceed 1, .proceed 1, .proceed 1,
    .send 1 .probe, .start 2 .probe, .proceed 2, .proceed 2, .proceed 2, .proceed 2, .proceed 2,
    .proceed 2, .begin 1,
    .script [⟨"RESET", none, none, .error ⟨"57014", "canceling statement due to user request"⟩⟩] [],
    .drop 1 false true]

/-- The session's statements, the rollback among them, ran in its schema. -/
theorem no_path_outlives_session_shared :
    let client : Client := { module := .operations, registrySchema := "registry" }
    let S := (State.opened acmeServer smallPool smallPool).run client shared
    (∀ move ∈ shared, move.KeepsPath) ∧
    (∀ conn ∈ S.pools.operations.idle, conn.searchPath = defaultSearchPath) ∧
    (∀ e ∈ S.log, ∀ session, e.issuer = .session session →
      e.sent.searchPath = tenantPath session.schema) ∧
    (∀ e ∈ S.log, e.issuer = .other → e.sent.cluster = .operations →
      e.sent.searchPath = defaultSearchPath) ∧
    S.pools.operations.idle.length = 1 ∧
    (S.log.take 3).map (fun e => (e.issuer, e.sent.statement)) =
      [(.pool, OperationsStatement.resetSearchPath), (.session ⟨⟨3⟩, "ops_acme", 4⟩, .rollback),
        (.session ⟨⟨3⟩, "ops_acme", 4⟩, .begin)] := by
  have hkeeps : ∀ move ∈ shared, move.KeepsPath := by
    simp [shared, Move.KeepsPath, Statement.keepsPath_probe]
  obtain ⟨hidle, hsession, hother, -⟩ :=
    no_path_outlives_session { module := .operations, registrySchema := "registry" } acmeServer
      smallPool smallPool shared hkeeps
  exact ⟨hkeeps, hidle, hsession, hother, by decide +kernel⟩

end Tenancy.Postgres.Traffic
