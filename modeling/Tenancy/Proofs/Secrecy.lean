import Tenancy.Proofs.Admission

/-!
# What the internal endpoints tell without the secret

The internal endpoints read a request before they look at its secret, and look at the secret before
they ask anything. So a request without it changes nothing, and its answer cannot depend on what is
in the stores. Nor does the answer depend on the tenant: of a request that can be read, the refusal
tells only what its method and its headers say.

## Key results

- `checkSecret_eq_ok_iff`: which requests know the secret
- `exists_respond_eq_done`: a request without it is answered without a call
- `respond_congr`: requests that differ in body and tenant are answered alike
- `says_nothing_without_secret`: both, in all surroundings
-/

namespace Tenancy

/-- In all surroundings the program ends with one result, leaves their state and makes no call. -/
def ServiceProgram.Says {α : Type} (p : ServiceProgram α) (a : α) : Prop :=
  ∀ (σ : Type) (meaning : ServiceCall.Meaning σ) (s : σ), runIn meaning p (s, []) = (a, s, [])

theorem ServiceProgram.says_done {α : Type} (a : α) : Says (.done a) a := fun _ _ _ => rfl

namespace Http

/-- The endpoints that ask for the secret. -/
def Endpoint.isInternal : Endpoint → Bool
  | provisionTenant | tenantSchema _ => true
  | _ => false

theorem Endpoint.isInternal_iff {e : Endpoint} :
    e.isInternal = true ↔ e = .provisionTenant ∨ ∃ segment, e = .tenantSchema segment := by
  cases e <;> simp [isInternal]

theorem Endpoint.isGuarded_of_isInternal {e : Endpoint} (h : e.isInternal = true) :
    e.isGuarded = false := by
  obtain rfl | ⟨segment, rfl⟩ := isInternal_iff.mp h <;> rfl

/-- A request can be read by an internal endpoint: its body is a request to provision a tenant, or
    its path names a tenant. -/
def Endpoint.CanRead (r : Request) : Endpoint → Prop
  | provisionTenant => ∃ p, ProvisionRequest.ofMessage r = .ok p
  | tenantSchema segment => ∃ t, tenantOfSegment? segment = some t
  | _ => False

namespace Site

variable {site : Site} {r r' : Request} {e e' : Endpoint} {segment : String}

/-- A request knows the secret: there is one, and the first `Secret` header has it for its text. -/
def Trusts (site : Site) (r : Request) : Prop :=
  ∃ secret, site.secret = some secret ∧ Shows r.headers "secret" secret

theorem checkSecret_eq_ok_iff : site.checkSecret r = .ok () ↔ site.Trusts r := by
  simp only [Trusts, ← headerText?_eq_some_iff, checkSecret]
  cases site.secret <;> cases headerText? r.headers "secret" <;> simp

/-- Whether a request knows the secret, and how it is refused, is told by its headers. -/
theorem checkSecret_congr (hheaders : r'.headers = r.headers) :
    site.checkSecret r' = site.checkSecret r := by
  rw [checkSecret, hheaders, checkSecret]

theorem exists_checkSecret_eq_error (h : ¬site.Trusts r) :
    ∃ cause, site.checkSecret r = .error cause := by
  cases hcheck : site.checkSecret r with
  | error cause => exact ⟨cause, rfl⟩
  | ok => exact absurd (checkSecret_eq_ok_iff.mp hcheck) h

/-! ## No call is made -/

/-- A request that an internal endpoint can read is refused for its secret, whatever it asks. -/
theorem endpoint_of_canRead (hread : e.CanRead r) {cause : AppError}
    (hcause : site.checkSecret r = .error cause) :
    site.endpoint r e = .done (.answered cause.response) := by
  cases e <;> try cases hread
  case provisionTenant p hp =>
    rw [endpoint, provisionTenant, hp]
    simp only [hcause]
    rfl
  case tenantSchema segment t ht =>
    rw [endpoint, tenantSchema, ht]
    simp only [hcause]
    rfl

/-- Any other request that does not know the secret is refused by the reader. -/
theorem exists_endpoint_eq_done (hinternal : e.isInternal = true) (h : ¬site.Trusts r) :
    ∃ outcome, site.endpoint r e = .done outcome := by
  obtain ⟨cause, hcause⟩ := exists_checkSecret_eq_error h
  by_cases hread : e.CanRead r
  · exact ⟨_, endpoint_of_canRead hread hcause⟩
  obtain rfl | ⟨segment, rfl⟩ := Endpoint.isInternal_iff.mp hinternal
  · cases hmessage : ProvisionRequest.ofMessage r with
    | ok p => exact absurd ⟨p, hmessage⟩ hread
    | error refusal => exact ⟨.answered refusal, by rw [endpoint, provisionTenant, hmessage]; rfl⟩
  · cases hsegment : tenantOfSegment? segment with
    | some t => exact absurd ⟨t, hsegment⟩ hread
    | none => exact ⟨.answered (.unreadable 400), by rw [endpoint, tenantSchema, hsegment]; rfl⟩

/-- What is inside of the layers, for a request to an internal endpoint. -/
theorem inner_of_isInternal (he : Endpoint.ofPath? site.surface r.path = some e)
    (hinternal : e.isInternal = true) :
    site.inner r =
      if r.method ∉ e.methods then
        .done (.answered ((Response.bare 405).addHeaders [e.allowHeader]))
      else site.endpoint r e := by
  rw [inner, he]
  simp only [otherMethod, Endpoint.isGuarded_of_isInternal hinternal]
  rfl

/-- A request to an internal endpoint is answered without a call, where its method is for the layers
    or not for the endpoint, or where the endpoint makes none. -/
theorem exists_respond_eq_done (he : Endpoint.ofPath? site.surface r.path = some e)
    (hinternal : e.isInternal = true) (hdone : ∃ outcome, site.endpoint r e = .done outcome) :
    ∃ response, site.respond r = .done response := by
  obtain ⟨outcome, houtcome⟩ := hdone
  rw [respond]
  split
  · exact ⟨_, rfl⟩
  · rw [inner_of_isInternal he hinternal, houtcome]
    split <;> exact ⟨_, rfl⟩

/-! ## No tenant is told from another -/

/-- Two requests for the same internal endpoint with the same method and headers, both of which can
    be read, are answered by one and the same program where the secret is not known. -/
theorem respond_congr (he : Endpoint.ofPath? site.surface r.path = some e)
    (he' : Endpoint.ofPath? site.surface r'.path = some e') (hinternal : e.isInternal = true)
    (hinternal' : e'.isInternal = true) (hsame : e'.isPost = e.isPost)
    (hmethod : r'.method = r.method) (hheaders : r'.headers = r.headers) (hread : e.CanRead r)
    (hread' : e'.CanRead r') (h : ¬site.Trusts r) : site.respond r' = site.respond r := by
  obtain ⟨cause, hcause⟩ := exists_checkSecret_eq_error h
  have hcause' : site.checkSecret r' = .error cause := (checkSecret_congr hheaders).trans hcause
  -- all that is looked at is the same in both requests: the layers see the method and the headers
  have hallow : e'.allowHeader = e.allowHeader := by rw [Endpoint.allowHeader, hsame]; rfl
  have hmethods : e'.methods = e.methods := by rw [Endpoint.methods, hsame]; rfl
  have houter : site.outer r' = site.outer r := by
    funext o
    have hdress : site.dress r' o = site.dress r o := by
      cases o <;> simp only [dress, hheaders]
    rw [outer, outer, hdress, hmethod]
  -- and the endpoint refuses both for the same reason
  have hinner : site.inner r' = site.inner r := by
    rw [inner_of_isInternal he hinternal, inner_of_isInternal he' hinternal', hallow, hmethods,
      hmethod, endpoint_of_canRead hread hcause, endpoint_of_canRead hread' hcause']
  have hpreflight : site.preflight r' = site.preflight r := by
    simp only [preflight, he, he', hallow]
  rw [respond, respond, houter, hinner, hpreflight, isPreflight, isPreflight, hmethod]

/-- Without the secret the internal endpoints do nothing and tell nothing. In all surroundings and
    their states a request to one of them makes no call, and it gets one answer. So does each other
    request with the same method and headers to the same endpoint, about whichever tenant, where
    both can be read. With the secret, a request to provision the tenant without a set bit makes no
    call either. -/
theorem says_nothing_without_secret (site : Site) (r : Request) (e : Endpoint)
    (he : Endpoint.ofPath? site.surface r.path = some e) (hinternal : e.isInternal = true) :
    (¬site.Trusts r → ∃ response, (site.respond r).Says response ∧
      ∀ r' e', Endpoint.ofPath? site.surface r'.path = some e' → e'.isInternal = true →
        e'.isPost = e.isPost → r'.method = r.method → r'.headers = r.headers →
        e.CanRead r → e'.CanRead r' → (site.respond r').Says response) ∧
    ∀ p, site.Trusts r → e = .provisionTenant → ProvisionRequest.ofMessage r = .ok p →
      p.tenant = .nil → ∃ response, (site.respond r).Says response := by
  constructor
  · intro h
    obtain ⟨response, hresponse⟩ :=
      exists_respond_eq_done he hinternal (exists_endpoint_eq_done hinternal h)
    refine ⟨response, by rw [hresponse]; exact ServiceProgram.says_done response,
      fun r' e' he' hinternal' hsame hmethod hheaders hread hread' => ?_⟩
    rw [respond_congr he he' hinternal hinternal' hsame hmethod hheaders hread hread' h, hresponse]
    exact ServiceProgram.says_done response
  · rintro p hsecret rfl hp hnil
    have hdone : ∃ outcome, site.endpoint r .provisionTenant = .done outcome := by
      rw [endpoint, provisionTenant, hp, checkSecret_eq_ok_iff.mpr hsecret]
      simp only [hnil, if_true]
      exact ⟨_, rfl⟩
    obtain ⟨response, hresponse⟩ := exists_respond_eq_done he hinternal hdone
    exact ⟨response, by rw [hresponse]; exact ServiceProgram.says_done response⟩

/-- A request for the schema of one of two tenants, without the secret. -/
def schemaRequest (second : Bool) : Request where
  method := "GET"
  target := if second then "/tenants/00000000-0000-0000-0000-000000000004/schema"
    else "/tenants/00000000-0000-0000-0000-000000000003/schema"
  headers := []
  body := []

/-- A request to provision the tenant without a set bit, with the secret. -/
def nilRequest : Request where
  method := "POST"
  target := "/tenants/provision"
  headers := [("Content-Type", Bytes.ofText "application/json"), ("Secret", Bytes.ofText "s3cret")]
  body := Bytes.ofText "[\"00000000-0000-0000-0000-000000000000\"]"

/-- Two requests without the secret, about different tenants, get one answer, and a request with it
    makes no call for the tenant without a set bit. -/
theorem says_nothing_without_secret_schema :
    (¬behindSecret.Trusts (schemaRequest false) ∧ ∃ response,
      (behindSecret.respond (schemaRequest false)).Says response ∧
        (behindSecret.respond (schemaRequest true)).Says response) ∧
    behindSecret.Trusts nilRequest ∧
      ∃ response, (behindSecret.respond nilRequest).Says response := by
  have hendpoint : ∀ second, ∃ segment, Endpoint.ofPath? behindSecret.surface
      (schemaRequest second).path = some (.tenantSchema segment) ∧
        (Endpoint.tenantSchema segment).CanRead (schemaRequest second) := by
    rintro (_ | _)
    · exact ⟨"00000000-0000-0000-0000-000000000003", by decide +kernel, ⟨3⟩, by decide +kernel⟩
    · exact ⟨"00000000-0000-0000-0000-000000000004", by decide +kernel, ⟨4⟩, by decide +kernel⟩
  have huntrusted : ¬behindSecret.Trusts (schemaRequest false) := by
    rw [← checkSecret_eq_ok_iff]
    nofun
  have htrusted : behindSecret.Trusts nilRequest :=
    checkSecret_eq_ok_iff.mp (by decide +kernel)
  have hread : ProvisionRequest.ofMessage nilRequest = .ok ⟨.nil, none, none⟩ := by
    have hjson : (headerText? nilRequest.headers "content-type").any MediaType.announcesJson := by
      decide +kernel
    have hbody : ProvisionRequest.ofBytes nilRequest.body = .ok ⟨.nil, none, none⟩ := by
      decide +kernel
    rw [ProvisionRequest.ofMessage, if_pos hjson, hbody]
  obtain ⟨segment, he, hread₁⟩ := hendpoint false
  obtain ⟨segment', he', hread₂⟩ := hendpoint true
  obtain ⟨response, hsays, halike⟩ :=
    (says_nothing_without_secret behindSecret (schemaRequest false) _ he rfl).1 huntrusted
  have hnil := (says_nothing_without_secret behindSecret nilRequest .provisionTenant
    (by decide +kernel) rfl).2 _ htrusted rfl hread rfl
  exact ⟨⟨huntrusted, response, hsays, halike _ _ he' rfl rfl rfl rfl hread₁ hread₂⟩, htrusted,
    hnil⟩

end Site

end Http

end Tenancy
