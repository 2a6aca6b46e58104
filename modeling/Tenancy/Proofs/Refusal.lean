import Tenancy.Http.Site
import Tenancy.Proofs.Resolution
import Tenancy.Proofs.StoreEffect

/-!
# What refusals tell

A tenant may use a module if it is active, subscribes to it and has a schema registered. A request for
another tenant is refused, and by one of two layers: where the tenant is not active, by the check in
front of the endpoint, and otherwise by the session that the endpoint asks for. Both give the same
status and the same code, and two different messages. So a refusal tells whether the tenant is active,
and nothing else of the registry.

## Key results

- `Http.Site.answer_of_refuses`: the answer to a request for a tenant that may not use the module
- `Http.Site.refusals_agree_iff`: which registries get the same answer
- `Http.Site.not_forall_refusals_agree`: not all of them do
-/

namespace Tenancy

/-! ## Service programs against stores -/

/-- What a call of the service does where no call to the stores fails. The replies of what surrounds
    the stores are given. -/
def ServiceCall.perform (others : (c : ServiceCall) → c.Reply) :
    (c : ServiceCall) → StateM Store c.Reply
  | .store c => fun s => (.ok (s.apply c).1, (s.apply c).2)
  | c => pure (others c)

namespace ServiceProgram

variable {α β : Type} {others : (c : ServiceCall) → c.Reply}

/-- Runs a program of the service against the stores. -/
def runOn (others : (c : ServiceCall) → c.Reply) (p : ServiceProgram α) (s : Store) : α × Store :=
  p.run (ServiceCall.perform others) s

theorem runOn_bind (p : ServiceProgram α) (f : α → ServiceProgram β) (s : Store) :
    runOn others (p >>= f) s = runOn others (f (runOn others p s).1) (runOn others p s).2 := by
  show (p.bind f).run (ServiceCall.perform others) s = _
  rw [Program.run_bind]
  rfl

theorem runOn_map (g : α → β) (p : ServiceProgram α) (s : Store) :
    runOn others (g <$> p) s = (g (runOn others p s).1, (runOn others p s).2) :=
  runOn_bind p (fun a => .done (g a)) s

end ServiceProgram

open ServiceProgram (runOn)

/-! ## Tenants that may not use a module -/

namespace Store

/-- The registry has a row of the tenant, which is active. -/
def isActive (s : Store) (t : TenantId) : Bool := (s.tenant? t).any (·.active)

/-- A tenant that may not use a module: it has no row, or is not active, or does not subscribe to the
    module, or has no schema registered. -/
def Refuses (s : Store) (m : ServiceModule) (t : TenantId) : Prop :=
  ∀ r, s.tenant? t = some r → r.active = true → r.isSubscribed m = true → r.schemas.get m = none

end Store

variable {s s' : Store} {m : ServiceModule} {t : TenantId} {others : (c : ServiceCall) → c.Reply}

/-- The resolver gives such a tenant no schema, for a reason of access. -/
theorem Resolver.exists_verdict_of_refuses (h : s.Refuses m t) :
    ∃ e, verdict t m (.ok (s.tenant? t)) = .error e ∧ e.isAccessFailure = true := by
  cases hverdict : verdict t m (.ok (s.tenant? t)) with
  | error e => exact ⟨e, rfl, isAccessFailure_of_verdict hverdict⟩
  | ok schema =>
    obtain ⟨r, hrow, hactive, hsubscribed, hname⟩ := verdict_eq_ok_iff.mp hverdict
    rw [h r hrow hactive hsubscribed] at hname
    cases hname

/-- Such a tenant gets no session, and no connection is taken for it. -/
theorem Session.exists_runOn_acquire_of_refuses (others : (c : ServiceCall) → c.Reply)
    (h : s.Refuses m t) :
    ∃ e, runOn others (acquire t m) s = (.error (.resolve e), s) ∧ e.isAccessFailure = true := by
  obtain ⟨e, hverdict, haccess⟩ := Resolver.exists_verdict_of_refuses h
  refine ⟨e, ?_, haccess⟩
  rw [acquire_eq]
  show runOn others (afterVerdict t (Resolver.verdict t m (.ok (s.tenant? t)))) s = _
  rw [hverdict]
  rfl

namespace Http

/-- The answer that a request is refused with. -/
def refusal (message : String) : Response :=
  .ofJson 403 (.obj [("error", .obj [("code", .str "forbidden"), ("message", .str message)])])

namespace Site

variable {site : Site} {r : Request}

/-- The answer to a request, where no call to the stores fails. -/
def answer (site : Site) (others : (c : ServiceCall) → c.Reply) (r : Request) (s : Store) :
    Response :=
  (runOn others (site.respond r) s).1

/-- A request brings a token that is accepted. -/
def Accepts (site : Site) (others : (c : ServiceCall) → c.Reply) (r : Request) : Prop :=
  ∃ token principal, Auth.bearerToken (headerText? r.headers "authorization") = .ok token ∧
    (site.authenticator.decide? token).getD (others (.authenticate token)) = .ok principal

theorem exists_runOn_caller (h : site.Accepts others r) (s : Store) :
    ∃ principal, runOn others (site.caller r) s = (.ok principal, s) := by
  obtain ⟨token, principal, htoken, hprincipal⟩ := h
  refine ⟨principal, ?_⟩
  rw [caller, htoken]
  dsimp only
  have hrun : runOn others (Service.authenticate site.authenticator token) s = (.ok principal, s) := by
    rw [Service.authenticate, ← hprincipal]
    cases site.authenticator.decide? token <;> rfl
  rw [ServiceProgram.runOn_bind, hrun]
  rfl

/-- The check of the tenant that a request names. -/
theorem runOn_activeTenant (ht : tenantHeader? r.headers = some t) (s : Store) :
    runOn others (site.activeTenant r) s =
      (if s.isActive t then .ok ⟨t, false⟩ else .error (.forbidden AppError.accessMessage), s) := by
  have hnamed : site.namedTenant r = ⟨t, false⟩ := by rw [namedTenant, ht]
  have hcall : runOn others (Service.call (.store (.isActive t))) s = (.ok (s.isActive t), s) := rfl
  rw [activeTenant, hnamed, ServiceProgram.runOn_bind, hcall]
  cases s.isActive t <;> rfl

/-- The layer of the session refuses with the message for all reasons. -/
theorem runOn_tenantContext_of_refuses (h : s.Refuses site.module t) (defaulted : Bool) :
    runOn others (site.tenantContext ⟨t, defaulted⟩) s = (refusal AppError.accessMessage, s) := by
  obtain ⟨e, hacquire, haccess⟩ := Session.exists_runOn_acquire_of_refuses others h
  rw [tenantContext, ServiceProgram.runOn_bind, hacquire]
  show ((AppError.session (.resolve e)).response, s) = _
  simp only [AppError.response, AppError.toJson, AppError.statusAndCode, AppError.publicMessage,
    AppError.isAccessFailure, haccess, if_true]
  rfl

/-- The message that a request for a tenant is refused with: the check of the tenant words it in
    another way than the layer of the session. -/
def refusalMessage (active : Bool) : String :=
  if active then AppError.accessMessage else (AppError.forbidden AppError.accessMessage).message

/-- A request for the tenant's context, about a tenant that may not use the module, is refused. The
    message says whether the tenant is active. -/
theorem answer_of_refuses (hsurface : site.surface = .deployed) (hmethod : r.method = "GET")
    (hpath : r.path = Endpoint.apiRoot ++ "/tenant/context")
    (ht : tenantHeader? r.headers = some t) (htoken : site.Accepts others r)
    (hs : s.Refuses site.module t) :
    site.answer others r s =
      (refusal (refusalMessage (s.isActive t))).addHeaders (site.cors.responseHeaders r.headers) := by
  have hendpoint : Endpoint.ofPath? site.surface r.path = some .tenantContext := by
    rw [hsurface, hpath]
    rfl
  have hinner : site.inner r = site.endpoint r .tenantContext := by
    rw [inner, hendpoint, hmethod]
    rfl
  have hrespond : site.respond r = site.outer r <$> site.endpoint r .tenantContext := by
    rw [respond, hinner, isPreflight, hmethod]
    rfl
  have houter : ∀ o, site.outer r o = site.dress r o := fun o => by
    rw [outer, hmethod]
    rfl
  obtain ⟨principal, hcaller⟩ := exists_runOn_caller htoken s
  rw [answer, hrespond, ServiceProgram.runOn_map, endpoint, ServiceProgram.runOn_map, houter, guarded,
    ServiceProgram.runOn_bind, hcaller]
  dsimp only
  rw [ServiceProgram.runOn_bind, runOn_activeTenant ht]
  cases s.isActive t with
  | false => rfl
  | true =>
    simp only [if_true]
    rw [runOn_tenantContext_of_refuses hs]
    rfl

/-- The two messages are different. -/
theorem body_refusal_eq_iff {active active' : Bool} {headers headers' : List Header} :
    ((refusal (refusalMessage active)).addHeaders headers).body =
      ((refusal (refusalMessage active')).addHeaders headers').body ↔ active = active' := by
  refine ⟨fun hbody => ?_, fun hactive => by rw [hactive]; rfl⟩
  have hmessage : refusalMessage active = refusalMessage active' := by
    simpa [Response.addHeaders, refusal, Response.ofJson] using hbody
  revert hmessage
  cases active <;> cases active' <;> decide

/-- Whatever the reason why a tenant may not use the module, a request for the tenant's context has the
    same status. It has the same body for two registries if and only if the tenant is active in both of
    them or in neither. -/
theorem refusals_agree_iff (site : Site) (others : (c : ServiceCall) → c.Reply) (r : Request)
    (t : TenantId) (s s' : Store) (hsurface : site.surface = .deployed) (hmethod : r.method = "GET")
    (hpath : r.path = Endpoint.apiRoot ++ "/tenant/context")
    (ht : tenantHeader? r.headers = some t) (htoken : site.Accepts others r)
    (hs : s.Refuses site.module t) (hs' : s'.Refuses site.module t) :
    (site.answer others r s).status = 403 ∧ (site.answer others r s').status = 403 ∧
      (site.answer others r s).headers = (site.answer others r s').headers ∧
      ((site.answer others r s).body = (site.answer others r s').body ↔
        s.isActive t = s'.isActive t) := by
  rw [answer_of_refuses hsurface hmethod hpath ht htoken hs,
    answer_of_refuses hsurface hmethod hpath ht htoken hs']
  exact ⟨rfl, rfl, rfl, body_refusal_eq_iff⟩

/-- A site that knows callers by a secret. -/
def behindSecret : Site where
  module := .operations
  ownerRole := "app"
  secret := some "s3cret"
  authenticator := .sharedSecret "s3cret"
  defaultTenant := .nil
  cors := ⟨[], List.not_mem_nil⟩
  surface := .deployed

/-- A request for the context of a tenant, with the secret. -/
def contextRequest : Request where
  method := "GET"
  target := "/operations/api/v1/tenant/context"
  headers := [("Authorization", Bytes.ofText "Bearer s3cret"),
    ("X-Tenant-ID", Bytes.ofText "00000000-0000-0000-0000-000000000003")]
  body := []

/-- Surroundings that give no sign of life. -/
def outage : (c : ServiceCall) → c.Reply
  | .store _ => .error .poolTimedOut
  | .lockTenant _ => ()
  | .unlockTenant _ => ()
  | .acquireConnection => .error .poolTimedOut
  | .execute _ _ => .error .poolTimedOut
  | .showSearchPath _ => .error .poolTimedOut
  | .returnConnection _ => ()
  | .authenticate _ => .error .missingToken
  | .probe => .error (.registry, .poolTimedOut)
  | .now => .ofNanos 0

theorem accepts_contextRequest : behindSecret.Accepts outage contextRequest :=
  ⟨"s3cret", Auth.internalPrincipal, by decide +kernel, rfl⟩

/-- A registry with a tenant that is not active. -/
def inactive : Store where
  tenants := [{ TenantRecord.unnamed .operations ⟨3⟩ with active := false }]

/-- A registry with an active tenant that subscribes to nothing. -/
def unsubscribed : Store where
  tenants := [{ TenantRecord.unnamed .operations ⟨3⟩ with modules := [] }]

theorem refuses_inactive : inactive.Refuses .operations ⟨3⟩ := by
  rintro r ⟨⟩ ⟨⟩

theorem refuses_unsubscribed : unsubscribed.Refuses .operations ⟨3⟩ := by
  rintro r ⟨⟩ - -
  rfl

theorem path_contextRequest :
    contextRequest.path = Endpoint.apiRoot ++ "/tenant/context" := by decide +kernel

theorem tenantHeader?_contextRequest : tenantHeader? contextRequest.headers = some ⟨3⟩ := by
  decide +kernel

/-- A tenant that is not active and one that subscribes to nothing are told apart. -/
theorem refusals_agree_iff_unsubscribed :
    behindSecret.Accepts outage contextRequest ∧ tenantHeader? contextRequest.headers = some ⟨3⟩ ∧
      inactive.Refuses .operations ⟨3⟩ ∧ unsubscribed.Refuses .operations ⟨3⟩ ∧
      (behindSecret.answer outage contextRequest inactive).status = 403 ∧
      (behindSecret.answer outage contextRequest unsubscribed).status = 403 ∧
      (behindSecret.answer outage contextRequest inactive).body ≠
        (behindSecret.answer outage contextRequest unsubscribed).body := by
  obtain ⟨hstatus, hstatus', -, hbody⟩ := refusals_agree_iff behindSecret outage contextRequest ⟨3⟩
    inactive unsubscribed rfl rfl path_contextRequest tenantHeader?_contextRequest
    accepts_contextRequest refuses_inactive refuses_unsubscribed
  refine ⟨accepts_contextRequest, tenantHeader?_contextRequest, refuses_inactive,
    refuses_unsubscribed, hstatus, hstatus', fun hsame => ?_⟩
  exact absurd (hbody.mp hsame) (by decide)

/-- Requests for tenants that may not use the module do not all get the same answer. -/
theorem not_forall_refusals_agree :
    ¬∀ (site : Site) (others : (c : ServiceCall) → c.Reply) (r : Request) (t : TenantId)
      (s s' : Store), site.surface = .deployed → r.method = "GET" →
      r.path = Endpoint.apiRoot ++ "/tenant/context" → tenantHeader? r.headers = some t →
      site.Accepts others r → s.Refuses site.module t → s'.Refuses site.module t →
      (site.answer others r s).status = (site.answer others r s').status ∧
        (site.answer others r s).body = (site.answer others r s').body := by
  intro h
  have hbody := (h behindSecret outage contextRequest ⟨3⟩ inactive unsubscribed rfl rfl
    path_contextRequest tenantHeader?_contextRequest accepts_contextRequest refuses_inactive
    refuses_unsubscribed).2
  rw [answer_of_refuses rfl rfl path_contextRequest tenantHeader?_contextRequest
      accepts_contextRequest refuses_inactive,
    answer_of_refuses rfl rfl path_contextRequest tenantHeader?_contextRequest
      accepts_contextRequest refuses_unsubscribed, body_refusal_eq_iff] at hbody
  exact absurd hbody (by decide)

end Site

end Http

end Tenancy
