import Tenancy.Http.Message

/-! # Browser access

Which origins a browser may call the service from.  The list holds exact origins; a wildcard cannot
be combined with credentials and is refused when the service is put together. -/

namespace Tenancy.Http

/-- The origins that may call the service, as the bytes of header values.  None is a wildcard. -/
structure Cors where
  origins : List Bytes
  noWildcard : Bytes.ofText "*" ∉ origins

namespace Cors

/-- The configured origins that can be sent as header values. -/
def sendable (origins : List String) : List Bytes :=
  (origins.filter isSendable).map Bytes.ofText

/-- The rule for configured origins; origins that cannot be sent are dropped. -/
def ofOrigins? (origins : List String) : Option Cors :=
  if h : Bytes.ofText "*" ∉ sendable origins then some ⟨sendable origins, h⟩ else none

/-- The header that admits the origin of a request, if it is on the list. -/
def allowOrigin (c : Cors) (headers : List Header) : List Header :=
  match header? headers "origin" with
  | some origin => if origin ∈ c.origins then [("access-control-allow-origin", origin)] else []
  | none => []

/-- The headers that every response carries. -/
def responseHeaders (c : Cors) (headers : List Header) : List Header :=
  c.allowOrigin headers ++
    [Response.textHeader "access-control-allow-credentials" "true",
      Response.textHeader "vary"
        "origin, access-control-request-method, access-control-request-headers"]

/-- The further headers of the answer to a preflight request. -/
def preflightHeaders : List Header :=
  [Response.textHeader "access-control-allow-methods" "GET,POST,PUT,PATCH,DELETE,OPTIONS",
    Response.textHeader "access-control-allow-headers"
      "accept,authorization,content-type,x-requested-with,x-tenant-id,secret",
    Response.textHeader "access-control-max-age" "300"]

end Cors

end Tenancy.Http
