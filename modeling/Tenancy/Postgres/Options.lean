import Tenancy.Postgres.Url

/-! # Options of a connection

An address has to be one that a connection can be made from: its parts are texts, and the options
in its query that have a fixed form have values of that form.  Options that are not known do not
matter. -/

namespace Tenancy.Postgres

/-- Why no connection can be made from an address. -/
inductive AddressError where
  | url (flaw : Url.Flaw)
  /-- A part of the address is no text. -/
  | encoding
  /-- An option has a value that it cannot have. -/
  | option (key value : String)
  deriving DecidableEq

def AddressError.message : AddressError → String
  | url flaw => flaw.message
  | encoding => "invalid utf-8 sequence"
  | option key value => "invalid value \"" ++ value ++ "\" for \"" ++ key ++ "\""

namespace Options

/-- The ways in which a connection uses encryption. -/
def encryptionModes : List String :=
  ["disable", "allow", "prefer", "require", "verify-ca", "verify-full"]

/-- Whether a text is a number below a bound, perhaps after a plus sign. -/
def isBelow (bound : Nat) (text : String) : Bool :=
  match text.toList with
  | '+' :: digits => (Text.natBelow? bound digits).isSome
  | digits => (Text.natBelow? bound digits).isSome

/-- Whether an option can have a value. -/
def accepts (key value : String) : Bool :=
  match key with
  | "sslmode" | "ssl-mode" => encryptionModes.any (Text.equalsIgnoringCase value)
  | "port" => isBelow 65536 value
  | "statement-cache-capacity" => isBelow UInt64.size value
  | "hostaddr" => Host.isDottedQuad value.toList || Host.isIpv6 value.toList
  | _ => true

/-- Whether a host is a name, or the path of a socket that is a text. -/
def isHostText (host : List Char) : Bool :=
  (Text.percentBytes host).head? != some 0x2F || (Text.percentText? host).isSome

/-- Why no connection can be made from the parts of an address. -/
def problem? (u : Url) : Option AddressError :=
  if !isHostText u.host || ([u.user, u.password] ++ u.path).any (Text.percentText? · |>.isNone) then
    some .encoding
  else (u.query.find? fun pair => !accepts pair.1 pair.2).map fun pair => .option pair.1 pair.2

/-- The parts of an address that a connection can be made from. -/
def ofAddress (address : String) : Except AddressError Url :=
  match Url.ofText address with
  | .error flaw => .error (.url flaw)
  | .ok u =>
    match problem? u with
    | some problem => .error problem
    | none => .ok u

/-- Whether the connection is made to a socket in the file system. -/
def namesSocket (u : Url) : Bool :=
  (Text.percentBytes u.host).head? == some 0x2F ||
    u.query.any fun pair => pair.1 == "host" && pair.2.toList.head? == some '/'

end Options

end Tenancy.Postgres
