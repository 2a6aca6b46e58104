import Tenancy.Json
import Tenancy.Text.Utf8

/-! # Requests and responses

Header names are compared without letter case and the first header of a name counts.  A header
value is readable as a text when it holds visible ASCII, blanks and tabs only; other values are
treated as if the header were not there. -/

namespace Tenancy.Http

/-- A header: its name and the bytes of its value. -/
abbrev Header : Type := String × Bytes

/-- The value of the first header with a name. -/
def header? (headers : List Header) (name : String) : Option Bytes :=
  (headers.find? fun h => Text.equalsIgnoringCase h.1 name).map (·.2)

/-- The headers with one for each name; the values of headers of one name are joined by commas. -/
def joined (headers : List Header) : List Header :=
  headers.foldl (fun done h =>
    if (done.lookup h.1).isSome then
      done.map fun d => if d.1 = h.1 then (d.1, d.2 ++ Bytes.ofText ", " ++ h.2) else d
    else done ++ [h]) []

/-- Whether a byte is visible ASCII, a blank or a tab. -/
def isReadable (b : UInt8) : Bool := (0x20 ≤ b && b < 0x7F) || b == 0x09

/-- The text of a readable value. -/
def readable? (value : Bytes) : Option String :=
  if value.all isReadable then some (String.ofList (value.map fun b => Char.ofNat b.toNat))
  else none

/-- The text of the first header with a name, if it is readable. -/
def headerText? (headers : List Header) (name : String) : Option String :=
  (header? headers name).bind readable?

/-- Whether a text may be sent as a header value: it has no controls but the tab. -/
def isSendable (s : String) : Bool :=
  (Bytes.ofText s).all fun b => (0x20 ≤ b && b != 0x7F) || b == 0x09

/-- The tenant that the `X-Tenant-ID` header names, if it names one. -/
def tenantHeader? (headers : List Header) : Option TenantId :=
  ((headerText? headers "X-Tenant-ID").bind Text.nonBlank?).bind TenantId.ofText?

/-- A request. -/
structure Request where
  method : String
  /-- The address: a path with what follows it, perhaps behind a scheme and a host. -/
  target : String
  headers : List Header
  body : Bytes

/-- What follows the scheme and the host of an address that has both. -/
def afterHost? : List Char → Option (List Char)
  | ':' :: '/' :: '/' :: rest => some (rest.dropWhile fun c => c != '/' && c != '?' && c != '#')
  | c :: rest => if c.isAlphanum || c ∈ ['+', '-', '.'] then afterHost? rest else none
  | [] => none

/-- The path of a request, without the query.  An address with scheme and host has at least the
    path `/`; another that does not begin with its path has none. -/
def Request.path (r : Request) : String :=
  let pathOf (cs : List Char) : List Char := cs.takeWhile fun c => c != '?' && c != '#'
  match r.target.toList, afterHost? r.target.toList with
  | '/' :: rest, _ => String.ofList (pathOf ('/' :: rest))
  | ['*'], _ => "*"
  | _, some rest => if pathOf rest = [] then "/" else String.ofList (pathOf rest)
  | _, none => ""

/-- What a response carries. -/
inductive Body where
  | empty
  | json (value : Json)
  | text (s : String)
  /-- A remark of the request reader on a request that it could not read. -/
  | remark

/-- A response. -/
structure Response where
  status : Nat
  headers : List Header
  body : Body

namespace Response

/-- A header whose value is a text. -/
def textHeader (name value : String) : Header := (name, Bytes.ofText value)

/-- A response that carries nothing. -/
def bare (status : Nat) : Response := ⟨status, [], .empty⟩

/-- A response that carries a JSON value. -/
def ofJson (status : Nat) (value : Json) : Response :=
  ⟨status, [textHeader "content-type" "application/json"], .json value⟩

/-- A response that carries a text. -/
def ofText (status : Nat) (s : String) : Response :=
  ⟨status, [textHeader "content-type" "text/plain; charset=utf-8"], .text s⟩

/-- The response to a request that could not be read. -/
def unreadable (status : Nat) : Response :=
  ⟨status, [textHeader "content-type" "text/plain; charset=utf-8"], .remark⟩

/-- The response with further headers. -/
def addHeaders (r : Response) (headers : List Header) : Response :=
  { r with headers := r.headers ++ headers }

/-- The response without what it carries. -/
def withoutBody (r : Response) : Response := { r with body := .empty }

/-- A successful answer: the data, and remarks on it where there are any. -/
def envelope (data : Json) (meta? : Option Json) : Json :=
  .obj (("data", data) :: match meta? with
    | some m => [("meta", m)]
    | none => [])

/-- The answer to a request that succeeded. -/
def success (data : Json) : Response := ofJson 200 (envelope data none)

/-- The answer to a request that created something. -/
def created (data : Json) : Response := ofJson 201 (envelope data none)

end Response

end Tenancy.Http
