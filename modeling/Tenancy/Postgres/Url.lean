import Tenancy.Postgres.Host

/-! # Database addresses

An address names a scheme, and after `//` a host, perhaps behind a user and before a port; then
come a path and a query.  `Url.ofText` takes an address apart, or finds what is wrong with it.  The
schemes of the web have rules of their own for hosts, and files need no host. -/

namespace Tenancy.Postgres

/-- The parts of an address that a connection is made from; all but the query still have their
    percent signs. -/
structure Url where
  user : List Char := []
  password : List Char := []
  /-- Empty where there is none. -/
  host : List Char := []
  /-- The segments of the path, without those that are dots. -/
  path : List (List Char) := []
  /-- The keys and values of the query. -/
  query : List (String × String) := []
  deriving DecidableEq

namespace Url

/-- What is wrong with an address. -/
inductive Flaw where
  | noScheme
  | host (flaw : Host.Flaw)
  | port
  deriving DecidableEq

def Flaw.message : Flaw → String
  | noScheme => "relative URL without a base"
  | host flaw => flaw.message
  | port => "invalid port number"

/-! ## The scheme -/

/-- Characters up to the space, which do not count at either end. -/
def isEdge (c : Char) : Bool := c.toNat ≤ 0x20

/-- Characters that count nowhere. -/
def isIgnored (c : Char) : Bool := c == '\t' || c == '\n' || c == '\r'

/-- The characters of an address that count. -/
def clean (s : String) : List Char :=
  let inner := (s.toList.dropWhile isEdge).reverse.dropWhile isEdge
  inner.reverse.filter fun c => !isIgnored c

/-- The kinds of schemes. -/
inductive Scheme where
  | web
  | file
  | other
  deriving DecidableEq

/-- The schemes of the web. -/
def webSchemes : List String := ["http", "https", "ws", "wss", "ftp"]

/-- The kind of the scheme of a name. -/
def Scheme.ofName (name : List Char) : Scheme :=
  let name := String.ofList (name.map Char.toLower)
  if name ∈ webSchemes then web else if name = "file" then file else other

/-- The kind of scheme, and what follows its colon. -/
def scheme? (cs : List Char) : Option (Scheme × List Char) :=
  let isInner (c : Char) := c.isAlphanum || c == '+' || c == '-' || c == '.'
  match cs.head?.any Char.isAlpha, cs.dropWhile isInner with
  | true, ':' :: rest => some (.ofName (cs.takeWhile isInner), rest)
  | _, _ => none

/-- Whether a character divides segments of a path. -/
def Scheme.isSlash (s : Scheme) (c : Char) : Bool := c == '/' || (s != .other && c == '\\')

/-- Whether a character ends the part with the host. -/
def Scheme.endsAuthority (s : Scheme) (c : Char) : Bool := s.isSlash c || c == '?' || c == '#'

/-! ## Path and query -/

/-- Whether a segment stands for the place where it is. -/
def isDot (segment : List Char) : Bool :=
  String.ofList (segment.map Char.toLower) ∈ [".", "%2e"]

/-- Whether a segment stands for the place one up. -/
def isDoubleDot (segment : List Char) : Bool :=
  String.ofList (segment.map Char.toLower) ∈ ["..", ".%2e", "%2e.", "%2e%2e"]

/-- The segments without those that are dots. -/
def withoutDots (segments : List (List Char)) : List (List Char) :=
  segments.foldl (fun kept segment =>
    if isDoubleDot segment then kept.dropLast
    else if isDot segment then kept
    else kept ++ [segment]) []

/-- The keys and values of a query; the first equals sign divides them. -/
def pairs (query : List Char) : List (String × String) :=
  ((query.splitOn '&').filter (· ≠ [])).map fun pair =>
    (Text.queryText (pair.takeWhile (· != '=')), Text.queryText ((pair.dropWhile (· != '=')).drop 1))

/-- The address with what follows the host; a path that begins with no slash behind a scheme alone
    has one segment. -/
def withTail (u : Url) (s : Scheme) (isOpaque : Bool) (tail : List Char) : Url :=
  let path := tail.takeWhile fun c => c != '?' && c != '#'
  let query := match tail.drop path.length with
    | '?' :: rest => rest.takeWhile (· != '#')
    | _ => []
  let slashed := path.map fun c => if s.isSlash c then '/' else c
  { u with path := if isOpaque then [path] else withoutDots (slashed.splitOn '/')
           query := pairs query }

/-! ## The host and what stands around it -/

/-- The host at the front: everything up to a colon outside of brackets. -/
def hostPart (bracketed : Bool) : List Char → List Char
  | [] => []
  | c :: rest =>
    if c == ':' && !bracketed then []
    else c :: hostPart (c == '[' || (bracketed && c != ']')) rest

/-- What follows the port, which may be missing behind its colon. -/
def afterPort (cs : List Char) : Except Flaw (List Char) :=
  match cs with
  | ':' :: rest =>
    let port := rest.takeWhile (· != '\\')
    if port = [] ∨ (Text.natBelow? 65536 port).isSome then .ok (rest.drop port.length)
    else .error .port
  | cs => .ok cs

/-- The characters up to the last at sign and those after it. -/
def splitUser (authority : List Char) : Option (List Char) × List Char :=
  let place := (authority.reverse.takeWhile (· != '@')).reverse
  if authority.contains '@' then
    (some (authority.take (authority.length - place.length - 1)), place)
  else (none, place)

/-- Takes apart what follows `//`.  A port needs a host, and so does a user. -/
def ofAuthority (s : Scheme) (cs : List Char) : Except Flaw Url := do
  let authority := cs.takeWhile fun c => !s.endsAuthority c
  let tail := cs.drop authority.length
  let (userInfo, place) := splitUser authority
  if userInfo = some [] ∧ place = [] ∧ tail ≠ [] then throw (.host .empty)
  let info := userInfo.getD []
  let user := info.takeWhile (· != ':')
  let password := (info.dropWhile (· != ':')).drop 1
  let host := hostPart false place
  if host = [] ∧ s = .web then throw (.host .empty)
  match if s = .web then Host.webFlaw? host else Host.flaw? host with
  | some flaw => throw (.host flaw)
  | none =>
    let rest := place.drop host.length
    if host = [] ∧ rest ≠ [] then throw (.host .empty)
    let rest ← afterPort rest
    if host = [] ∧ (user ≠ [] ∨ password ≠ []) then throw (.host .empty)
    return { user, password, host : Url }.withTail s false (rest ++ tail)

/-- Whether a part of an address is the letter of a drive. -/
def isDrive : List Char → Bool
  | [c, mark] => c.isAlpha && (mark == ':' || mark == '|')
  | _ => false

/-- Takes apart the address of a file. -/
def ofFile (cs : List Char) : Except Flaw Url := do
  let isSlash := Scheme.file.isSlash
  if (cs.take 2).length = 2 ∧ (cs.take 2).all isSlash then
    let rest := cs.drop 2
    let host := rest.takeWhile fun c => !Scheme.file.endsAuthority c
    if host = [] ∨ isDrive host then return ({} : Url).withTail .file false rest
    match Host.webFlaw? host with
    | some flaw => throw (.host flaw)
    | none => return { host : Url }.withTail .file false (rest.drop host.length)
  else return ({} : Url).withTail .file false cs

/-- Takes an address apart. -/
def ofText (text : String) : Except Flaw Url :=
  match scheme? (clean text) with
  | none => .error .noScheme
  | some (.file, rest) => ofFile rest
  | some (.web, rest) => ofAuthority .web (rest.dropWhile Scheme.web.isSlash)
  | some (.other, '/' :: '/' :: rest) => ofAuthority .other rest
  | some (.other, rest) => .ok (({} : Url).withTail .other (rest.head? != some '/') rest)

end Url

end Tenancy.Postgres
