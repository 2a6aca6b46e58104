import Tenancy.Text.Ascii

/-! # Tenant identifiers

A tenant is named by 128 bits.  They are written as 32 lower-case hexadecimal digits in groups of
8, 4, 4, 4 and 12 with hyphens between, and read in four forms: grouped, ungrouped, grouped in
braces, and grouped after `urn:uuid:`. -/

namespace Tenancy

/-- The identity of a tenant. -/
structure TenantId where
  bits : BitVec 128
  deriving DecidableEq

namespace TenantId

instance : Inhabited TenantId := ⟨⟨0⟩⟩

/-- The identifier without a set bit; it names no tenant. -/
def nil : TenantId := ⟨0⟩

/-- The position of an identifier in the order of rows. -/
def toNat (t : TenantId) : Nat := t.bits.toNat

/-- The identifier's 32 hexadecimal digits. -/
def digits (t : TenantId) : List Char := Text.hexDigits t.toNat 32

/-- Hyphens after the 8th, 12th, 16th and 20th digit. -/
def group (ds : List Char) : List Char :=
  ds.take 8 ++ '-' :: (ds.drop 8).take 4 ++ '-' :: (ds.drop 12).take 4 ++
    '-' :: (ds.drop 16).take 4 ++ '-' :: ds.drop 20

/-- The written form. -/
def text (t : TenantId) : String := String.ofList (group t.digits)

/-- Reads 32 hexadecimal digits. -/
def ofDigits? (ds : List Char) : Option TenantId :=
  if ds.length = 32 then (Text.hexDigitsValue? ds).map fun n => ⟨BitVec.ofNat 128 n⟩ else none

/-- Reads the grouped form: the text without its hyphens has 32 digits, and putting the hyphens
    back gives the text. -/
def ofGrouped? (cs : List Char) : Option TenantId :=
  let ds := cs.filter (· != '-')
  if cs = group ds then ofDigits? ds else none

/-- The part between a pair of braces that encloses the whole text. -/
def unbraced? (cs : List Char) : Option (List Char) :=
  match cs with
  | '\x7b' :: rest =>
    if rest.getLast? = some '\x7d' then some rest.dropLast else none
  | _ => none

/-- The part after `urn:uuid:`, whose letters may have either case. -/
def afterScheme? (cs : List Char) : Option (List Char) :=
  let scheme := "urn:uuid:"
  if Text.equalsIgnoringCase (String.ofList (cs.take scheme.length)) scheme then
    some (cs.drop scheme.length)
  else none

/-- Reads an identifier in any of its four forms. -/
def ofText? (s : String) : Option TenantId :=
  let cs := s.toList
  if cs.length = 32 then ofDigits? cs
  else match unbraced? cs with
    | some inner => ofGrouped? inner
    | none => match afterScheme? cs with
      | some rest => ofGrouped? rest
      | none => ofGrouped? cs

end TenantId

end Tenancy
