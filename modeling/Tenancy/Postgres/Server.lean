import Tenancy.Postgres.Reply

/-! # A server that follows a script

A server that answers by rules: the first rule that fits a statement gives the answer.  Where none
fits it behaves like an empty database.  It keeps a record of the statements it was sent, with the
places where names were looked up when each of them ran. -/

namespace Tenancy.Postgres

/-- A refusal of a server. -/
structure ServerError where
  code : String
  message : String
  deriving DecidableEq

namespace ServerError

/-- Whether a login is worth trying again: the server is starting or has no connection to spare. -/
def isTransient (e : ServerError) : Bool := e.code == "53300" || e.code == "57P03"

/-- The failure of a statement that is refused. -/
def failure (e : ServerError) : DbError := .refused e.message

/-- The failure of a login that is refused; one that is worth trying again is tried until there is
    no time left. -/
def loginFailure (e : ServerError) : DbError :=
  if e.isTransient then .poolTimedOut else e.failure

end ServerError

/-- How a server answers some statements. -/
structure Rule where
  /-- What occurs in the text of such a statement. -/
  fragment : String
  /-- The cluster that such a statement is sent to; nothing for both. -/
  cluster : Option Cluster
  /-- How many more statements the rule is for; nothing where there is no end. -/
  times : Option Nat
  answer : Except ServerError Reply

/-- Whether a run of characters occurs in another. -/
def occursIn (part : List Char) : List Char → Bool
  | [] => part.isEmpty
  | c :: rest => part.isPrefixOf (c :: rest) || occursIn part rest

namespace Rule

/-- Whether a rule is for a statement. -/
def fits (r : Rule) (c : Cluster) (s : Statement) : Bool :=
  r.times != some 0 && r.cluster.all (· == c) && occursIn r.fragment.toList s.text.toList

/-- The rule after it was used once. -/
def used (r : Rule) : Rule := { r with times := r.times.map (· - 1) }

/-- The answer of the first rule for a statement, and the rules after that. -/
def answerOf (c : Cluster) (s : Statement) : List Rule → Option (Except ServerError Reply) × List Rule
  | [] => (none, [])
  | r :: rest =>
    if r.fits c s then (some r.answer, r.used :: rest)
    else
      let (answer, rest) := answerOf c s rest
      (answer, r :: rest)

end Rule

/-- A statement on record. -/
structure Sent where
  cluster : Cluster
  statement : Statement
  /-- The places where names were looked up when it was sent. -/
  searchPath : String
  deriving DecidableEq

/-- A server for both clusters. -/
structure Server where
  /-- The address at which it is reached. -/
  address : String
  rules : List Rule := []
  /-- The clusters that refuse logins. -/
  refusals : List (Cluster × ServerError) := []
  /-- The statements sent, last first. -/
  record : List Sent := []
  /-- The texts prepared, last first. -/
  preparations : List String := []

/-- The places where names are looked up at first. -/
def defaultSearchPath : String := "\"$user\", public"

namespace Server

/-- What the statement begins with that changes where names are looked up. -/
def searchPathCommand : String := "SET search_path TO "

/-- Where names are looked up after a statement succeeded. -/
def searchPathAfter (s : Statement) (path : String) : String :=
  if s.text = Sql.resetSearchPath then defaultSearchPath
  else if searchPathCommand.toList.isPrefixOf s.text.toList then
    String.ofList (s.text.toList.drop searchPathCommand.length)
  else path

/-- The answer to a statement that no rule is for. -/
def plainReply (s : Statement) (path : String) : Reply :=
  if s.text = Statement.probe.text then .rows [⟨"?column?", .int4⟩] [[.bigint 1]]
  else if s.text = Statement.showSearchPath.text then .rows [⟨"search_path", .text⟩] [[.text path]]
  else .affected 0

/-- Whether a cluster lets a client in. -/
def login (s : Server) (c : Cluster) : Except DbError Unit :=
  match s.refusals.lookup c with
  | some e => .error e.loginFailure
  | none => .ok ()

/-- Answers a statement on a connection that looks names up at `path`; answers also where names
    are looked up afterwards. -/
def respond (server : Server) (c : Cluster) (path : String) (s : Statement) :
    Except DbError Reply × String × Server :=
  let (ruled, rules) := Rule.answerOf c s server.rules
  let server := { server with rules, record := ⟨c, s, path⟩ :: server.record }
  match ruled.getD (.ok (plainReply s path)) with
  | .error e => (.error e.failure, path, server)
  | .ok reply => (.ok reply, searchPathAfter s path, server)

/-- The server with a text prepared. -/
def prepare (server : Server) (text : String) : Server :=
  { server with preparations := text :: server.preparations }

/-- The server with an empty record. -/
def forget (server : Server) : Server := { server with record := [], preparations := [] }

end Server

end Tenancy.Postgres
