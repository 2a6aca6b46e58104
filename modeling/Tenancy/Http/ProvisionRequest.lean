import Tenancy.Http.MediaType
import Tenancy.Http.Message
import Tenancy.Json.Scan

/-! # The body of a provisioning request

An object with the keys `tenantId`, `displayName` and `actor`, or an array of their values in this
order.  Only the tenant is required; null stands for an absent text; other keys are passed over.
What follows the value is not looked at. -/

namespace Tenancy.Http

/-- A request to provision a tenant. -/
structure ProvisionRequest where
  tenant : TenantId
  displayName : Option String
  actor : Option String
  deriving DecidableEq

namespace ProvisionRequest

open Json

/-- The values met so far. -/
structure Fields where
  tenant : Option TenantId := none
  displayName : Option (Option String) := none
  actor : Option (Option String) := none

/-- The request made of the values met; the tenant must be among them. -/
def Fields.finish (f : Fields) : Except Flaw ProvisionRequest :=
  match f.tenant with
  | some t => .ok ⟨t, f.displayName.join, f.actor.join⟩
  | none => .error .wrongShape

/-- Reads a tenant identifier. -/
def scanTenant (bs : Bytes) : Except Flaw (TenantId × Bytes) := do
  let (s, rest) ← scanTextValue bs
  match TenantId.ofText? s with
  | some t => return (t, rest)
  | none => .error .wrongShape

/-- Whether a key has been met before; keys that are passed over may come again. -/
def Fields.hasMet (f : Fields) (key : String) : Bool :=
  (key == "tenantId" && f.tenant.isSome) || (key == "displayName" && f.displayName.isSome) ||
    (key == "actor" && f.actor.isSome)

/-- Reads the value of a key. -/
def scanField (key : String) (f : Fields) (bs : Bytes) : Except Flaw (Fields × Bytes) := do
  if key = "tenantId" then
    let (t, rest) ← scanTenant bs
    return ({ f with tenant := some t }, rest)
  else if key = "displayName" then
    let (s, rest) ← scanOptionalText bs
    return ({ f with displayName := some s }, rest)
  else if key = "actor" then
    let (s, rest) ← scanOptionalText bs
    return ({ f with actor := some s }, rest)
  else
    let rest ← skipValue bs
    return (f, rest)

/-- Reads a key, its colon and its value from before the quote of the key.  That a key comes twice
    is found before what follows it is looked at. -/
def scanEntry (f : Fields) (bs : Bytes) : Except Flaw (Fields × Bytes) :=
  match skipSpace bs with
  | b :: rest =>
    if b = 0x22 then do
      let (key, rest) ← scanText rest
      if f.hasMet key then .error .wrongShape
      else
        let rest ← scanWord [0x3A] (skipSpace rest)
        scanField key f rest
    else .error .malformed
  | [] => .error .malformed

/-- Reads the entries of an object behind the first up to its end.  Each round reads at least one
    byte, so the length of the text bounds the rounds. -/
def scanEntries : (rounds : Nat) → Fields → Bytes → Except Flaw Fields
  | 0, _, _ => .error .malformed
  | rounds + 1, f, bs =>
    match skipSpace bs with
    | b :: rest =>
      if b = 0x7D then .ok f
      else if b = 0x2C then do
        let (f, rest) ← scanEntry f rest
        scanEntries rounds f rest
      else .error .malformed
    | [] => .error .malformed

/-- Reads an object from behind its opening brace. -/
def scanObject (bs : Bytes) : Except Flaw ProvisionRequest :=
  match skipSpace bs with
  | b :: rest =>
    if b = 0x7D then ({} : Fields).finish
    else do
      let (f, rest) ← scanEntry {} (b :: rest)
      let f ← scanEntries (rest.length + 1) f rest
      f.finish
  | [] => .error .malformed

/-- Reads the next value of an array, or nothing where the array ends; the end is left in place. -/
def scanItem {α : Type} (scan : Bytes → Except Flaw (α × Bytes)) (bs : Bytes) :
    Except Flaw (Option α × Bytes) :=
  match skipSpace bs with
  | b :: rest =>
    if b = 0x5D then .ok (none, b :: rest)
    else if b = 0x2C then
      match skipSpace rest with
      | c :: more =>
        if c = 0x5D then .error .malformed else (scan (c :: more)).map fun r => (some r.1, r.2)
      | [] => .error .malformed
    else .error .malformed
  | [] => .error .malformed

/-- Reads the first value of an array. -/
def scanFirst (bs : Bytes) : Except Flaw (TenantId × Bytes) :=
  match skipSpace bs with
  | b :: rest => if b = 0x5D then .error .wrongShape else scanTenant (b :: rest)
  | [] => .error .malformed

/-- Reads an array from behind its opening bracket. -/
def scanArray (bs : Bytes) : Except Flaw ProvisionRequest := do
  let (tenant, rest) ← scanFirst bs
  let (displayName, rest) ← scanItem scanOptionalText rest
  let (actor, rest) ← scanItem scanOptionalText rest
  match skipSpace rest with
  | b :: _ => if b = 0x5D then return ⟨tenant, displayName.join, actor.join⟩ else .error .malformed
  | [] => .error .malformed

/-- Reads a request from a document. -/
def ofBytes (bs : Bytes) : Except Flaw ProvisionRequest :=
  match skipSpace bs with
  | b :: rest =>
    if b = 0x7B then scanObject rest
    else if b = 0x5B then scanArray rest
    else .error (mismatch (b :: rest))
  | [] => .error .malformed

/-- Reads a request from the message that brings it, or gives the answer to a message that brings
    none. -/
def ofMessage (r : Request) : Except Response ProvisionRequest :=
  if (headerText? r.headers "content-type").any MediaType.announcesJson then
    match ofBytes r.body with
    | .ok request => .ok request
    | .error .malformed => .error (.unreadable 400)
    | .error .wrongShape => .error (.unreadable 422)
  else .error (.unreadable 415)

/-- Who asks where the request does not say. -/
def defaultActor : String := "system"

/-- Who asks for the attempt. -/
def actorName (p : ProvisionRequest) : String :=
  (p.actor.bind Text.nonBlank?).getD defaultActor

end ProvisionRequest

end Tenancy.Http
