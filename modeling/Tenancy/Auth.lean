import Tenancy.Error
import Tenancy.Text.Ascii
import Tenancy.Text.Blank

/-! # Bearer tokens and principals

A request names its caller by a bearer token.  The token is checked by a verifier outside the
service, compared with the service's own secret, or refused, as the deployment says. -/

namespace Tenancy

/-- A caller whose token was accepted. -/
structure Principal where
  subject : String := ""
  username : String := ""
  email : Option String := none
  tenant : Option TenantId := none
  roles : List String := []
  deriving DecidableEq

namespace Auth

/-- The role of callers that know the service's secret. -/
def internalRole : String := "internal"

/-- The caller that knows the service's secret. -/
def internalPrincipal : Principal :=
  { subject := "internal", username := "internal", roles := [internalRole] }

/-- The text before and after the first blank. -/
def splitAtBlank? (cs : List Char) : Option (List Char × List Char) :=
  match cs.dropWhile (· != ' ') with
  | [] => none
  | _ :: rest => some (cs.takeWhile (· != ' '), rest)

/-- The token in an `Authorization` header: what follows the scheme `Bearer`, in any letter case,
    and a blank. -/
def bearerToken (header : Option String) : Except AuthError String :=
  match header.bind fun h => splitAtBlank? h.toList with
  | none => .error .missingToken
  | some (scheme, rest) =>
    if Text.equalsIgnoringCase (String.ofList scheme) "bearer" then
      match Text.nonBlank? (String.ofList rest) with
      | some token => .ok token
      | none => .error .missingToken
    else .error .missingToken

/-- How a deployment checks tokens. -/
inductive Authenticator where
  /-- A verifier outside the service is asked. -/
  | verifier
  /-- The token must be the service's secret. -/
  | sharedSecret (secret : String)
  /-- No token is accepted. -/
  | rejectAll
  deriving DecidableEq

/-- The answer of an authenticator that needs no verifier, if it is one. -/
def Authenticator.decide? (a : Authenticator) (token : String) :
    Option (Except AuthError Principal) :=
  match a with
  | verifier => none
  | sharedSecret secret =>
    if token = secret then some (.ok internalPrincipal)
    else some (.error (.invalid "token does not match the service secret"))
  | rejectAll => some (.error (.invalid "no token verifier configured"))

end Auth

end Tenancy
