import Tenancy.Http.AppError
import Tenancy.Http.Cors
import Tenancy.Http.Endpoint
import Tenancy.Http.ProvisionRequest
import Tenancy.Session

/-! # The service behind its endpoints

A request passes the layers from the outside in: it gets an id, a breakdown further in is caught,
browser access is judged, and time is limited.  What is inside is a service program, `Site.inner`;
what the layers make of its outcome is `Site.outer`.  Endpoints for tenants lie behind two checks:
the caller's token first, then the tenant, which must be active. -/

namespace Tenancy.Http

/-- What the endpoints need to know of their deployment. -/
structure Site where
  module : ServiceModule
  ownerRole : String
  /-- The secret of the internal endpoints; without one they are disabled. -/
  secret : Option String
  authenticator : Auth.Authenticator
  defaultTenant : TenantId
  cors : Cors
  surface : Surface

/-- How the work on a request ended. -/
inductive Outcome where
  | answered (r : Response)
  | timedOut
  | brokeDown

/-- The tenant that a request is about, once it is known to be active. -/
structure RequestTenant where
  tenant : TenantId
  /-- Whether the request named no tenant and the default one was taken. -/
  defaulted : Bool
  deriving DecidableEq

namespace Site

open Service

/-! ## Checks -/

/-- The caller whose token a request carries. -/
def caller (site : Site) (r : Request) : ServiceProgram (Except AppError Principal) := do
  match Auth.bearerToken (headerText? r.headers "authorization") with
  | .error e => return .error (.unauthorized e.message)
  | .ok token =>
    match ← authenticate site.authenticator token with
    | .ok principal => return .ok principal
    | .error .tenantMissing => return .error (.forbidden AuthError.tenantMissing.message)
    | .error .audienceMismatch => return .error (.forbidden AuthError.audienceMismatch.message)
    | .error _ => return .error (.unauthorized "invalid bearer token")

/-- The tenant that a request names, or the default one. -/
def namedTenant (site : Site) (r : Request) : RequestTenant :=
  match tenantHeader? r.headers with
  | some t => ⟨t, false⟩
  | none => ⟨site.defaultTenant, true⟩

/-- The tenant of a request, which must be active. -/
def activeTenant (site : Site) (r : Request) :
    ServiceProgram (Except AppError RequestTenant) := do
  let named := site.namedTenant r
  match ← call (.store (.isActive named.tenant)) with
  | .ok true => return .ok named
  | .ok false => return .error (.forbidden AppError.accessMessage)
  | .error _ => return .error (.internal "internal server error")

/-- Runs `inner` with caller and tenant of a request that passes both checks. -/
def guarded (site : Site) (r : Request)
    (inner : Principal → RequestTenant → ServiceProgram Response) : ServiceProgram Response := do
  match ← site.caller r with
  | .error e => return e.response
  | .ok principal =>
    match ← site.activeTenant r with
    | .error e => return e.response
    | .ok tenant => inner principal tenant

/-- Whether a request knows the secret of the internal endpoints. -/
def checkSecret (site : Site) (r : Request) : Except AppError Unit :=
  match site.secret with
  | none => .error (.forbidden "internal endpoints are disabled")
  | some expected =>
    match headerText? r.headers "secret" with
    | none => .error (.unauthorized "missing Secret header")
    | some given =>
      if given = expected then .ok () else .error (.unauthorized "invalid Secret header")

/-! ## Endpoints -/

/-- Provisions a tenant. -/
def provisionTenant (site : Site) (r : Request) : ServiceProgram Response :=
  match ProvisionRequest.ofMessage r with
  | .error refusal => return refusal
  | .ok p =>
    match site.checkSecret r with
    | .error e => return e.response
    | .ok () =>
      if p.tenant = .nil then
        return (AppError.badRequest "tenantId must not be the nil uuid").response
      else do
        match ← provision site.module site.ownerRole p.tenant p.displayName p.actorName with
        | .error e => return (AppError.provisioning e).response
        | .ok schema =>
          return .created (.obj [("message", .str "tenant schema provisioned"),
            ("tenantId", .ofTenant p.tenant), ("schemaName", .str schema)])

/-- What is told of a tenant's schema. -/
def schemaJson (t : TenantId) (schema : String) (last : Option Audit.Entry) : Json :=
  .obj ([("tenantId", .ofTenant t), ("schemaName", .str schema)] ++
    match last with
    | some e => [("lastAttempt", e.toJson)]
    | none => [])

/-- Tells a tenant's schema and its newest attempt. -/
def tenantSchema (site : Site) (r : Request) (segment : String) : ServiceProgram Response :=
  match tenantOfSegment? segment with
  | none => return .unreadable 400
  | some t =>
    match site.checkSecret r with
    | .error e => return e.response
    | .ok () => do
      match ← onStores (Provisioning.registeredSchema site.module t) with
      | .error e => return (AppError.provisioning e).response
      | .ok schema =>
        match ← onStores (Provisioning.lastAttempt site.module t) with
        | .error e => return (AppError.provisioning e).response
        | .ok last => return .success (schemaJson t schema last)

/-- Shows that a request is routed to its tenant's schema. -/
def tenantContext (site : Site) (tenant : RequestTenant) : ServiceProgram Response := do
  match ← Session.acquire tenant.tenant site.module with
  | .error e => return (AppError.session e).response
  | .ok session =>
    let shown ← call (.showSearchPath session.connection)
    session.release
    match shown with
    | .error e => return (AppError.database e).response
    | .ok path =>
      return .success (.obj [("tenantId", .ofTenant session.tenant),
        ("schema", .str session.schema), ("searchPath", .str path)])

/-- Tells whether both clusters give a sign of life. -/
def ready : ServiceProgram Response := do
  match ← call .probe with
  | .ok () => return .ofJson 200 (.obj [("status", .str "ok")])
  | .error (cluster, _) =>
    return .ofJson 503 (.obj [("status", .str "degraded"), ("database", .str cluster.name)])

/-- Tells caller and tenant. -/
def whoami (principal : Principal) (tenant : RequestTenant) : Response :=
  .ofJson 200 (.obj [("tenantId", .ofTenant tenant.tenant), ("defaulted", .bool tenant.defaulted),
    ("principal", principal.toJson)])

/-- The answer of an endpoint, or a breakdown. -/
def endpoint (site : Site) (r : Request) : Endpoint → ServiceProgram Outcome
  | .health => return .answered (.ofJson 200 (.obj [("status", .str "ok")]))
  | .version =>
    return .answered (.ofJson 200
      (.obj [("name", .str "operations-tenancy"), ("version", .str "0.1.0")]))
  | .ready => Outcome.answered <$> ready
  | .provisionTenant => Outcome.answered <$> site.provisionTenant r
  | .tenantSchema segment => Outcome.answered <$> site.tenantSchema r segment
  | .tenantContext =>
    Outcome.answered <$> site.guarded r fun _ tenant => site.tenantContext tenant
  | .whoami =>
    Outcome.answered <$> site.guarded r fun principal tenant => return whoami principal tenant
  | .bareWhoami =>
    return .answered (AppError.internal
      "tenant access middleware not installed on this route").response
  | .barePrincipal =>
    return .answered (AppError.unauthorized "no authenticated principal").response
  | .breakdown => return .brokeDown

/-! ## Layers -/

/-- The answer to a method that an endpoint does not offer; the checks before the endpoint come
    first all the same. -/
def otherMethod (site : Site) (r : Request) (e : Endpoint) : ServiceProgram Response :=
  if e.isGuarded then site.guarded r fun _ _ => return .bare 405 else return .bare 405

/-- The work on a request behind all layers. -/
def inner (site : Site) (r : Request) : ServiceProgram Outcome :=
  match Endpoint.ofPath? site.surface r.path with
  | none => return .answered (.bare 404)
  | some e =>
    if r.method ∉ e.methods then
      (fun response => .answered (response.addHeaders [e.allowHeader])) <$> site.otherMethod r e
    else site.endpoint r e

/-- Whether a request asks what a browser may do; such a request is answered by the layers. -/
def isPreflight (r : Request) : Bool := r.method == "OPTIONS"

/-- The answer to a request that asks what a browser may do. -/
def preflight (site : Site) (r : Request) : Response :=
  let allow :=
    match Endpoint.ofPath? site.surface r.path with
    | some e => [e.allowHeader]
    | none => []
  (Response.bare 200).addHeaders (Cors.preflightHeaders ++ allow)

/-- How an answer names a request: by the id it came with, or by one made for it. -/
inductive RequestId where
  | given (value : Bytes)
  | made

/-- The id of a request. -/
def requestId (r : Request) : RequestId :=
  match header? r.headers "x-request-id" with
  | some value => .given value
  | none => .made

/-- What the layers make of the outcome of the work on a request. -/
def dress (site : Site) (r : Request) : Outcome → Response
  | .answered response => response.addHeaders (site.cors.responseHeaders r.headers)
  | .timedOut => (Response.bare 408).addHeaders (site.cors.responseHeaders r.headers)
  | .brokeDown => .ofText 500 "Service panicked"

/-- What the layers answer to a request.  They stand inside of the endpoint's method, so that an
    answer of theirs to a `HEAD` request goes without what it carries, too. -/
def outer (site : Site) (r : Request) (o : Outcome) : Response :=
  if r.method = "HEAD" then (site.dress r o).withoutBody else site.dress r o

/-- The answer to a request, up to its id. -/
def respond (site : Site) (r : Request) : ServiceProgram Response :=
  if isPreflight r then return site.outer r (.answered (site.preflight r))
  else site.outer r <$> site.inner r

end Site

end Tenancy.Http
