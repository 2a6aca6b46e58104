import Tenancy.Http.Message
import Tenancy.Text.Percent

/-! # Endpoints

What the service offers under which path.  Paths are exact.  Every endpoint answers one method;
those that answer `GET` answer `HEAD` too. -/

namespace Tenancy.Http

/-- An endpoint of the service, or of the set that is used to look into the layers around it. -/
inductive Endpoint where
  | health
  | version
  | ready
  | provisionTenant
  /-- The schema of the tenant that a segment of the path names. -/
  | tenantSchema (segment : String)
  | tenantContext
  /-- Tells caller and tenant, behind the checks of both. -/
  | whoami
  /-- Tells caller and tenant without the checks. -/
  | bareWhoami
  /-- Tells the caller without the check. -/
  | barePrincipal
  /-- Breaks down. -/
  | breakdown
  deriving DecidableEq

/-- Which endpoints are offered beside the internal ones. -/
inductive Surface where
  /-- What a deployment offers. -/
  | deployed
  /-- What shows the work of the layers. -/
  | diagnostic
  deriving DecidableEq

namespace Endpoint

/-- What the paths of the tenants' endpoints begin with. -/
def apiRoot : String := "/operations/api/v1"

/-- The endpoints with a fixed path. -/
def fixed : Surface → List (String × Endpoint)
  | .deployed => [("/health", health), ("/version", version), ("/ready", ready),
      ("/tenants/provision", provisionTenant), (apiRoot ++ "/tenant/context", tenantContext)]
  | .diagnostic => [("/health", health), ("/version", version),
      ("/tenants/provision", provisionTenant), (apiRoot ++ "/whoami", whoami),
      ("/bare/whoami", bareWhoami), ("/bare/principal", barePrincipal), ("/bare/boom", breakdown)]

/-- The segment in the place of the tenant in a path that asks for a tenant's schema. -/
def schemaSegment? (path : String) : Option String :=
  let start := "/tenants/"
  let cs := path.toList
  if start.toList.isPrefixOf cs then
    let rest := cs.drop start.length
    let segment := rest.takeWhile (· != '/')
    if segment ≠ [] ∧ rest.dropWhile (· != '/') = "/schema".toList then
      some (String.ofList segment)
    else none
  else none

/-- The endpoint under a path. -/
def ofPath? (s : Surface) (path : String) : Option Endpoint :=
  match (fixed s).lookup path with
  | some e => some e
  | none => (schemaSegment? path).map tenantSchema

/-- Whether an endpoint changes something and answers `POST`; the others answer `GET`. -/
def isPost : Endpoint → Bool
  | provisionTenant => true
  | _ => false

/-- The methods that an endpoint answers. -/
def methods (e : Endpoint) : List String := if e.isPost then ["POST"] else ["GET", "HEAD"]

/-- The header that lists the methods. -/
def allowHeader (e : Endpoint) : Header :=
  Response.textHeader "allow" (if e.isPost then "POST" else "GET,HEAD")

/-- Whether an endpoint lies behind the checks of caller and tenant. -/
def isGuarded : Endpoint → Bool
  | tenantContext | whoami => true
  | _ => false

end Endpoint

/-- The tenant that a segment of a path names. -/
def tenantOfSegment? (segment : String) : Option TenantId :=
  (Text.percentText? segment.toList).bind TenantId.ofText?

end Tenancy.Http
