/-! # Media types

Whether a `content-type` announces JSON: the type `application` with the subtype `json` or a
subtype that ends in `+json`, followed by well-formed parameters. -/

namespace Tenancy.Http.MediaType

/-- The characters of types, subtypes and parameters. -/
def isToken (c : Char) : Bool := c.isAlphanum || "!#$%&'*+-.^_`|~".toList.contains c

/-- Whether a character may stand between quotes. -/
def isQuotable (c : Char) : Bool := 0x1F < c.toNat && c.toNat != 0x7F

/-- Where the reader of parameters stands. -/
inductive Place where
  /-- Before a name; blanks are passed over. -/
  | beforeName
  | inName
  /-- Behind the equals sign. -/
  | beforeValue
  | inValue
  /-- Behind the opening quote. -/
  | beforeQuoted
  | inQuoted
  /-- Behind the closing quote; blanks are passed over. -/
  | afterQuoted
  deriving DecidableEq

/-- Where the reader stands after a character, unless the character cannot stand there. -/
def Place.step? : Place → Char → Option Place
  | beforeName, c =>
    if c = ' ' then some beforeName else if isToken c then some inName else none
  | inName, c => if isToken c then some inName else if c = '=' then some beforeValue else none
  | beforeValue, c =>
    if c = '"' then some beforeQuoted else if isToken c then some inValue else none
  | inValue, c => if isToken c then some inValue else if c = ';' then some beforeName else none
  | beforeQuoted, c => if isQuotable c then some inQuoted else none
  | inQuoted, c =>
    if c = '"' then some afterQuoted else if isQuotable c then some inQuoted else none
  | afterQuoted, c =>
    if c = ' ' then some afterQuoted else if c = ';' then some beforeName else none

/-- Whether the parameters may end here. -/
def Place.mayEnd : Place → Bool
  | beforeName | beforeValue | inValue | afterQuoted => true
  | inName | beforeQuoted | inQuoted => false

/-- Whether the text behind a semicolon is a list of parameters. -/
def areParameters (cs : List Char) : Bool :=
  match cs.foldlM Place.step? .beforeName with
  | some place => place.mayEnd
  | none => false

/-- The parts of a subtype before and behind its last plus sign; a plus sign in front does not
    count. -/
def splitSuffix (subtype : List Char) : List Char × Option (List Char) :=
  let suffix := (subtype.reverse.takeWhile (· != '+')).reverse
  let stem := subtype.take (subtype.length - suffix.length - 1)
  if suffix.length < subtype.length ∧ stem ≠ [] then (stem, some suffix) else (subtype, none)

/-- Whether a subtype is JSON or a format built on it. -/
def isJsonSubtype (subtype : List Char) : Bool :=
  let parts := splitSuffix subtype
  parts.1 == "json".toList || parts.2 == some "json".toList

/-- Whether a content type announces JSON. -/
def announcesJson (contentType : String) : Bool :=
  let cs := contentType.toList
  let kind := cs.takeWhile isToken
  match cs.dropWhile isToken with
  | '/' :: rest =>
    let subtype := rest.takeWhile isToken
    let wellFormed :=
      match rest.dropWhile isToken with
      | [] => true
      | ';' :: parameters => subtype != [] && areParameters parameters
      | _ => false
    wellFormed && kind.map Char.toLower == "application".toList &&
      isJsonSubtype (subtype.map Char.toLower)
  | _ => false

end Tenancy.Http.MediaType
