import Tenancy.ServiceModule
import Tenancy.TenantId

/-! # Schema names

The name of a tenant's schema is the beginning that its module prescribes and a slug of the
tenant's display name, or of its identifier where the display name leaves nothing.  A slug keeps the
lower-case letters and digits of ASCII; everything between them becomes one underscore.  A name is
cut to the length that the database keeps. -/

namespace Tenancy.SchemaName

/-- The longest identifier, in bytes, that the database keeps whole. -/
def maxLength : Nat := 63

/-- The characters of the words in a slug. -/
def isWordChar (c : Char) : Bool := ('a' ≤ c && c ≤ 'z') || c.isDigit

/-- Every character that belongs to no word becomes an underscore. -/
def replaceOthers (cs : List Char) : List Char :=
  cs.map fun c => if isWordChar c then c else '_'

/-- Every run of underscores becomes one. -/
def collapse : List Char → List Char
  | [] => []
  | c :: rest =>
    if c = '_' ∧ rest.head? = some '_' then collapse rest else c :: collapse rest

/-- The text without underscores at either end. -/
def trimUnderscores (cs : List Char) : List Char :=
  Text.dropEnd (· == '_') (cs.dropWhile (· == '_'))

/-- The slug of a run of characters. -/
def slugChars (cs : List Char) : List Char :=
  trimUnderscores (collapse (replaceOthers (Text.lowerChars (Text.trimChars cs))))

/-- The slug of a text. -/
def slug (s : String) : String := String.ofList (slugChars s.toList)

/-- The maximal runs of word characters; `word` holds the run that has begun, last character
    first. -/
def wordsFrom (word : List Char) : List Char → List (List Char)
  | [] => if word = [] then [] else [word.reverse]
  | c :: rest =>
    if isWordChar c then wordsFrom (c :: word) rest
    else (if word = [] then [] else [word.reverse]) ++ wordsFrom [] rest

/-- The maximal runs of word characters, in order. -/
def wordsOf (cs : List Char) : List (List Char) := wordsFrom [] cs

/-- Cuts a name to the longest length kept, and then drops the underscores at its end. -/
def cut (cs : List Char) : List Char :=
  if cs.length ≤ maxLength then cs else Text.dropEnd (· == '_') (cs.take maxLength)

/-- The slug that names a tenant: of its display name, or of its identifier where the display name
    is absent or has an empty slug. -/
def tenantSlug (tenant : TenantId) (displayName : Option String) : List Char :=
  match displayName.map fun name => slugChars name.toList with
  | some (c :: rest) => c :: rest
  | _ => slugChars tenant.text.toList

/-- The name of a tenant's schema for a module. -/
def forTenant (m : ServiceModule) (tenant : TenantId) (displayName : Option String) : String :=
  String.ofList (cut (m.schemaStem.toList ++ tenantSlug tenant displayName))

end Tenancy.SchemaName
