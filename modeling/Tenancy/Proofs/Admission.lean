import Tenancy.Proofs.HeaderReading
import Tenancy.Proofs.Refusal

/-!
# Who gets past the checks

Two checks stand in front of the tenants' endpoints, and the work of an endpoint begins where both
are passed. The caller's token comes first. After it was accepted the registry is asked, once, and
about one tenant: the one that the request names, or the default one. This holds in all
surroundings, whatever the verifier makes of a token and whatever state the registry is in.

The surroundings are what each call is answered and what it does to their state. A run in them notes
the calls that are made.

## Key results

- `runIn_caller`, `runIn_activeTenant`: each check by what the surroundings answer
- `respond_of_isGuarded`: what stands behind the checks, and what is made of its answer
- `admission_exact`: which requests pass, with which caller and tenant, and how the others end
-/

namespace Tenancy

/-! ## Runs in surroundings of any kind -/

/-- What the calls of the service mean where it runs: what each is answered, and what it does to the
    state of the surroundings. -/
abbrev ServiceCall.Meaning (σ : Type) : Type := (c : ServiceCall) → StateM σ c.Reply

/-- A state of surroundings, and the calls that were made before, first one first. -/
abbrev Noted (σ : Type) : Type := σ × List ServiceCall

namespace ServiceCall.Meaning

variable {σ : Type}

/-- A call, which is noted. -/
def note (meaning : ServiceCall.Meaning σ) (c : ServiceCall) : StateM (Noted σ) c.Reply :=
  fun x => ((meaning c x.1).1, (meaning c x.1).2, x.2 ++ [c])

/-- What an authenticator answers about a token, and the state that asking it leaves. -/
def verdict (meaning : ServiceCall.Meaning σ) (a : Auth.Authenticator) (token : String) (s : σ) :
    Except AuthError Principal × σ :=
  match a.decide? token with
  | some answer => (answer, s)
  | none => meaning (.authenticate token) s

end ServiceCall.Meaning

/-- The calls that an authenticator makes about a token. -/
def Auth.Authenticator.asks (a : Authenticator) (token : String) : List ServiceCall :=
  if (a.decide? token).isSome then [] else [.authenticate token]

namespace ServiceProgram

variable {σ α β : Type} {meaning : ServiceCall.Meaning σ}

/-- Runs a program in surroundings. -/
def runIn (meaning : ServiceCall.Meaning σ) (p : ServiceProgram α) (x : Noted σ) : α × Noted σ :=
  p.run meaning.note x

theorem runIn_bind (p : ServiceProgram α) (f : α → ServiceProgram β) (x : Noted σ) :
    runIn meaning (p >>= f) x = runIn meaning (f (runIn meaning p x).1) (runIn meaning p x).2 := by
  show (p.bind f).run meaning.note x = _
  rw [Program.run_bind]
  rfl

theorem runIn_map (f : α → β) (p : ServiceProgram α) (x : Noted σ) :
    runIn meaning (f <$> p) x = (f (runIn meaning p x).1, (runIn meaning p x).2) :=
  runIn_bind p (fun a => .done (f a)) x

theorem runIn_authenticate (a : Auth.Authenticator) (token : String) (s : σ)
    (calls : List ServiceCall) :
    runIn meaning (Service.authenticate a token) (s, calls) =
      ((meaning.verdict a token s).1, (meaning.verdict a token s).2, calls ++ a.asks token) := by
  rw [Service.authenticate, ServiceCall.Meaning.verdict, Auth.Authenticator.asks]
  cases a.decide? token with
  | none => rfl
  | some answer =>
    show (answer, s, calls) = (answer, s, calls ++ [])
    rw [List.append_nil]

end ServiceProgram

open ServiceProgram (runIn runIn_bind runIn_map runIn_authenticate)

namespace Http.Site

variable {σ : Type} {site : Site} {meaning : ServiceCall.Meaning σ} {r : Request} {s : σ}
  {calls : List ServiceCall} {token : String} {principal : Principal} {tenant : RequestTenant}
  {e : Endpoint}

/-! ## The two checks -/

/-- The tenant that a request is about: the one that it names, or else the default one. -/
def Assigns (site : Site) (r : Request) (tenant : RequestTenant) : Prop :=
  (r.Names tenant.tenant ∧ tenant.defaulted = false) ∨
    ((∀ t, ¬r.Names t) ∧ tenant = ⟨site.defaultTenant, true⟩)

theorem assigns_iff : site.Assigns r tenant ↔ site.namedTenant r = tenant := by
  obtain ⟨t, defaulted⟩ := tenant
  simp only [Assigns, ← tenantHeader?_eq_some_iff, namedTenant]
  cases tenantHeader? r.headers <;> simp [eq_comm]

/-- How a request ends whose token is not accepted. -/
def rejection : AuthError → AppError
  | .tenantMissing => .forbidden AuthError.tenantMissing.message
  | .audienceMismatch => .forbidden AuthError.audienceMismatch.message
  | _ => .unauthorized "invalid bearer token"

theorem status_rejection (e : AuthError) : (rejection e).response.status =
    if e = .tenantMissing ∨ e = .audienceMismatch then 403 else 401 := by
  cases e <;> rfl

theorem caller_of_not_bears (h : ∀ token, ¬r.Bears token) :
    site.caller r = .done (.error (.unauthorized AuthError.missingToken.message)) := by
  rw [caller, bearerToken_headerText?_of_not_bears h]
  rfl

/-- The check of the caller, by what the authenticator answers. -/
theorem runIn_caller (h : r.Bears token) (s : σ) (calls : List ServiceCall) :
    runIn meaning (site.caller r) (s, calls) =
      ((meaning.verdict site.authenticator token s).1.mapError rejection,
        (meaning.verdict site.authenticator token s).2,
        calls ++ site.authenticator.asks token) := by
  rw [caller, bearerToken_headerText?_eq_ok_iff.mpr h]
  dsimp only
  rw [runIn_bind, runIn_authenticate]
  dsimp only
  cases (meaning.verdict site.authenticator token s).1 with
  | ok principal => rfl
  | error e => cases e <;> rfl

/-- What the check of the tenant makes of the registry's answer. -/
def ofAnswer (tenant : RequestTenant) : Except DbError Bool → Except AppError RequestTenant
  | .ok true => .ok tenant
  | .ok false => .error (.forbidden AppError.accessMessage)
  | .error _ => .error (.internal "internal server error")

/-- The check of the tenant is one question to the registry. -/
theorem activeTenant_eq (h : site.Assigns r tenant) :
    site.activeTenant r =
      .ask (.store (.isActive tenant.tenant)) fun answer => .done (ofAnswer tenant answer) := by
  rw [activeTenant, assigns_iff.mp h, Service.call, Program.call_bind]
  congr 1
  funext answer
  rcases answer with e | (_ | _) <;> rfl

/-- The check of the tenant, by what the registry answers. -/
theorem runIn_activeTenant (h : site.Assigns r tenant) (s : σ) (calls : List ServiceCall) :
    runIn meaning (site.activeTenant r) (s, calls) =
      (ofAnswer tenant (meaning (.store (.isActive tenant.tenant)) s).1,
        (meaning (.store (.isActive tenant.tenant)) s).2,
        calls ++ [.store (.isActive tenant.tenant)]) := by
  rw [activeTenant_eq h]
  rfl

/-! ## Both of them -/

/-- What the registry answers about a tenant once the authenticator was asked about a token, and the
    state that both leave. -/
def activity (site : Site) (meaning : ServiceCall.Meaning σ) (token : String)
    (tenant : RequestTenant) (s : σ) : Except DbError Bool × σ :=
  meaning (.store (.isActive tenant.tenant)) (meaning.verdict site.authenticator token s).2

/-- What the checks make of a request in surroundings: the caller and the tenant of one that passes,
    the response to another, the state that they leave and the calls that they make. -/
structure Checked (site : Site) (meaning : ServiceCall.Meaning σ) (r : Request) (s : σ)
    (outcome : Except Response (Principal × RequestTenant)) (s' : σ)
    (calls : List ServiceCall) : Prop where
  /-- A request passes whose token is accepted and whose tenant is active. -/
  admitted : ∀ principal tenant, outcome = .ok (principal, tenant) ↔ ∃ token, r.Bears token ∧
    (meaning.verdict site.authenticator token s).1 = .ok principal ∧ site.Assigns r tenant ∧
    (site.activity meaning token tenant s).1 = .ok true
  /-- Without a token nothing is asked. -/
  missing : (∀ token, ¬r.Bears token) → s' = s ∧ calls = [] ∧
    ∃ refusal, outcome = .error refusal ∧ refusal.status = 401
  /-- The registry is not asked about a request whose token is not accepted. -/
  rejected : ∀ token e, r.Bears token →
    (meaning.verdict site.authenticator token s).1 = .error e →
    s' = (meaning.verdict site.authenticator token s).2 ∧
    calls = site.authenticator.asks token ∧
    ∃ refusal, outcome = .error refusal ∧
      refusal.status = if e = .tenantMissing ∨ e = .audienceMismatch then 403 else 401
  /-- It is asked once about the tenant of any other request, after the token was accepted. -/
  consulted : ∀ token principal tenant, r.Bears token →
    (meaning.verdict site.authenticator token s).1 = .ok principal → site.Assigns r tenant →
    s' = (site.activity meaning token tenant s).2 ∧
    calls = site.authenticator.asks token ++ [.store (.isActive tenant.tenant)] ∧
    ∀ refusal, outcome = .error refusal →
      refusal.status = if (site.activity meaning token tenant s).1 = .ok false then 403 else 500

theorem bears_unique {token' : String} (h : r.Bears token) (h' : r.Bears token') :
    token = token' := by
  rw [← bearerToken_headerText?_eq_ok_iff] at h h'
  exact Except.ok.inj (h.symm.trans h')

theorem assigns_unique {tenant' : RequestTenant} (h : site.Assigns r tenant)
    (h' : site.Assigns r tenant') : tenant = tenant' :=
  (assigns_iff.mp h).symm.trans (assigns_iff.mp h')

theorem checked_of_not_bears (h : ∀ token, ¬r.Bears token) :
    site.Checked meaning r s
      (.error (AppError.unauthorized AuthError.missingToken.message).response) s [] where
  admitted principal tenant := by
    constructor
    · nofun
    · rintro ⟨token, hbears, -⟩
      exact absurd hbears (h token)
  missing _ := ⟨rfl, rfl, _, rfl, rfl⟩
  rejected token _ hbears := absurd hbears (h token)
  consulted token _ _ hbears := absurd hbears (h token)

theorem checked_of_rejected {e : AuthError} (h : r.Bears token)
    (he : (meaning.verdict site.authenticator token s).1 = .error e) :
    site.Checked meaning r s (.error (rejection e).response)
      (meaning.verdict site.authenticator token s).2 (site.authenticator.asks token) where
  admitted principal tenant := by
    constructor
    · nofun
    · rintro ⟨token', hbears, hok, -⟩
      rw [← bears_unique h hbears, he] at hok
      cases hok
  missing hnone := absurd h (hnone token)
  rejected token' e' hbears he' := by
    cases bears_unique h hbears
    rw [he] at he'
    cases he'
    exact ⟨rfl, rfl, _, rfl, status_rejection e⟩
  consulted token' principal tenant hbears hok := by
    rw [← bears_unique h hbears, he] at hok
    cases hok

/-- What the checks make of a request whose token was accepted. -/
def admission (principal : Principal) (tenant : RequestTenant) (answer : Except DbError Bool) :
    Except Response (Principal × RequestTenant) :=
  ((ofAnswer tenant answer).mapError AppError.response).map (principal, ·)

theorem admission_eq_ok_iff {principal' : Principal} {tenant' : RequestTenant}
    {answer : Except DbError Bool} :
    admission principal tenant answer = .ok (principal', tenant') ↔
      principal = principal' ∧ tenant = tenant' ∧ answer = .ok true := by
  rcases answer with e | (_ | _) <;> simp [admission, ofAnswer, Except.mapError, Except.map]

theorem status_of_admission_eq_error {answer : Except DbError Bool} {refusal : Response}
    (h : admission principal tenant answer = .error refusal) :
    refusal.status = if answer = .ok false then 403 else 500 := by
  rcases answer with e | (_ | _) <;> cases h <;> rfl

theorem checked_of_accepted (h : r.Bears token)
    (hprincipal : (meaning.verdict site.authenticator token s).1 = .ok principal)
    (htenant : site.Assigns r tenant) :
    site.Checked meaning r s
      (admission principal tenant (site.activity meaning token tenant s).1)
      (site.activity meaning token tenant s).2
      (site.authenticator.asks token ++ [.store (.isActive tenant.tenant)]) where
  admitted principal' tenant' := by
    rw [admission_eq_ok_iff]
    constructor
    · rintro ⟨rfl, rfl, hactive⟩
      exact ⟨token, h, hprincipal, htenant, hactive⟩
    · -- the request brings one token and is about one tenant
      rintro ⟨token', hbears, hok, hassigns, hactive⟩
      cases bears_unique h hbears
      cases assigns_unique htenant hassigns
      rw [hprincipal] at hok
      exact ⟨Except.ok.inj hok, rfl, hactive⟩
  missing hnone := absurd h (hnone token)
  rejected token' e hbears he := by
    rw [← bears_unique h hbears, hprincipal] at he
    cases he
  consulted token' principal' tenant' hbears _ hassigns := by
    cases bears_unique h hbears
    cases assigns_unique htenant hassigns
    exact ⟨rfl, rfl, fun refusal hrefusal => status_of_admission_eq_error hrefusal⟩

/-- Where the checks lead: to the handler behind them, or to a refusal. -/
def pass (meaning : ServiceCall.Meaning σ)
    (handler : Principal → RequestTenant → ServiceProgram Response)
    (outcome : Except Response (Principal × RequestTenant)) (x : Noted σ) : Response × Noted σ :=
  match outcome with
  | .error refusal => (refusal, x)
  | .ok (principal, tenant) => runIn meaning (handler principal tenant) x

/-- Whatever handler stands behind them, the checks of a request come to the same. -/
theorem exists_checked (site : Site) (meaning : ServiceCall.Meaning σ) (r : Request) (s : σ) :
    ∃ outcome s' calls, site.Checked meaning r s outcome s' calls ∧ ∀ handler,
      runIn meaning (site.guarded r handler) (s, []) = pass meaning handler outcome (s', calls) := by
  -- each way that the checks end is told by what is asked: nothing, the token, or the tenant too
  by_cases hbears : ∃ token, r.Bears token
  · obtain ⟨token, hbears⟩ := hbears
    have hcaller : runIn meaning (site.caller r) (s, []) = _ := runIn_caller hbears s []
    cases hverdict : (meaning.verdict site.authenticator token s).1 with
    | error e =>
      refine ⟨_, _, _, checked_of_rejected hbears hverdict, fun handler => ?_⟩
      rw [guarded, runIn_bind, hcaller, hverdict]
      rfl
    | ok principal =>
      have htenant : site.Assigns r (site.namedTenant r) := assigns_iff.mpr rfl
      refine ⟨_, _, _, checked_of_accepted hbears hverdict htenant, fun handler => ?_⟩
      rw [guarded, runIn_bind, hcaller, hverdict]
      dsimp only [Except.mapError]
      rw [runIn_bind, runIn_activeTenant htenant, admission, activity]
      rcases (meaning _ _).1 with e | (_ | _) <;> rfl
  · have hnone : ∀ token, ¬r.Bears token := fun token h => hbears ⟨token, h⟩
    refine ⟨_, _, _, checked_of_not_bears hnone, fun handler => ?_⟩
    rw [guarded, caller_of_not_bears hnone]
    rfl

/-! ## The endpoints behind the checks -/

/-- What an endpoint does behind the checks; a method that it does not answer is refused there. -/
def handler (site : Site) (r : Request) (e : Endpoint) :
    Principal → RequestTenant → ServiceProgram Response :=
  if r.method ∉ e.methods then fun _ _ => return .bare 405
  else match e with
    | .tenantContext => fun _ tenant => site.tenantContext tenant
    | _ => fun principal tenant => return whoami principal tenant

/-- What is made of a response on its way out through the layers. -/
def dressed (site : Site) (r : Request) (e : Endpoint) (response : Response) : Response :=
  site.outer r (.answered
    (if r.method ∉ e.methods then response.addHeaders [e.allowHeader] else response))

theorem status_dressed (response : Response) :
    (site.dressed r e response).status = response.status := by
  unfold dressed outer
  split <;> split <;> rfl

/-- A request to an endpoint behind the checks passes them before anything else is done. -/
theorem respond_of_isGuarded (he : Endpoint.ofPath? site.surface r.path = some e)
    (hguarded : e.isGuarded = true) (hpreflight : isPreflight r = false) :
    site.respond r = site.dressed r e <$> site.guarded r (site.handler r e) := by
  have hinner : site.inner r =
      (fun response => .answered
        (if r.method ∉ e.methods then response.addHeaders [e.allowHeader] else response)) <$>
          site.guarded r (site.handler r e) := by
    rw [inner, he]
    dsimp only
    -- a method that is not answered gets through the checks all the same
    by_cases hmethod : r.method ∉ e.methods
    · simp only [if_pos hmethod, otherMethod, hguarded, if_true, handler]
    · simp only [if_neg hmethod, handler]
      cases e <;> first | rfl | cases hguarded
  rw [respond, hpreflight, if_neg Bool.false_ne_true, hinner, Functor.map_map]
  rfl

/-- The checks are exact. In all surroundings they let a request pass if and only if it brings a
    token that the authenticator accepts and the registry says that the request's tenant is active;
    whatever handler stands behind them is given that caller and that tenant. The other requests are
    refused, with the status that tells why, and the registry is asked about those only whose token
    was accepted. All this holds of each request to an endpoint behind the checks. -/
theorem admission_exact (site : Site) (meaning : ServiceCall.Meaning σ) (r : Request) (s : σ) :
    ∃ outcome s' calls, site.Checked meaning r s outcome s' calls ∧
      (∀ handler, runIn meaning (site.guarded r handler) (s, []) =
        pass meaning handler outcome (s', calls)) ∧
      ∀ e, Endpoint.ofPath? site.surface r.path = some e → e.isGuarded = true →
        isPreflight r = false →
        (∀ response, (site.dressed r e response).status = response.status) ∧
        runIn meaning (site.respond r) (s, []) =
          (pass meaning (site.handler r e) outcome (s', calls)).map (site.dressed r e) id := by
  obtain ⟨outcome, s', calls, hchecked, hpass⟩ := exists_checked site meaning r s
  refine ⟨outcome, s', calls, hchecked, hpass, fun e he hguarded hpreflight =>
    ⟨status_dressed, ?_⟩⟩
  rw [respond_of_isGuarded he hguarded hpreflight, runIn_map, hpass]
  rfl

/-- A request with the secret for an active tenant gets to the tenant's context. -/
theorem admission_exact_contextRequest :
    Endpoint.ofPath? behindSecret.surface contextRequest.path = some .tenantContext ∧
    ∃ s', (∀ handler, runIn (ServiceCall.perform outage)
        (behindSecret.guarded contextRequest handler) (unsubscribed, []) =
      runIn (ServiceCall.perform outage) (handler Auth.internalPrincipal ⟨⟨3⟩, false⟩)
        (s', [.store (.isActive ⟨3⟩)])) ∧
      runIn (ServiceCall.perform outage) (behindSecret.respond contextRequest) (unsubscribed, []) =
        (runIn (ServiceCall.perform outage)
          (behindSecret.handler contextRequest .tenantContext Auth.internalPrincipal ⟨⟨3⟩, false⟩)
          (s', [.store (.isActive ⟨3⟩)])).map
            (behindSecret.dressed contextRequest .tenantContext) id := by
  have hendpoint : Endpoint.ofPath? behindSecret.surface contextRequest.path =
      some .tenantContext := by
    rw [path_contextRequest]
    rfl
  have hbears : contextRequest.Bears "s3cret" :=
    bearerToken_headerText?_eq_ok_iff.mp (by decide +kernel)
  have htenant : behindSecret.Assigns contextRequest ⟨⟨3⟩, false⟩ :=
    .inl ⟨tenantHeader?_eq_some_iff.mp tenantHeader?_contextRequest, rfl⟩
  obtain ⟨outcome, s', calls, hchecked, hpass, hrespond⟩ :=
    admission_exact behindSecret (ServiceCall.perform outage) contextRequest unsubscribed
  have hadmitted : outcome = .ok (Auth.internalPrincipal, ⟨⟨3⟩, false⟩) :=
    (hchecked.admitted _ _).mpr ⟨"s3cret", hbears, rfl, htenant, rfl⟩
  obtain ⟨-, hcalls, -⟩ := hchecked.consulted _ _ _ hbears rfl htenant
  subst hadmitted hcalls
  exact ⟨hendpoint, s', hpass, (hrespond .tenantContext hendpoint rfl rfl).2⟩

end Http.Site

end Tenancy
