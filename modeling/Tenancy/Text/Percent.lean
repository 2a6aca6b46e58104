import Tenancy.Text.Ascii
import Tenancy.Text.Utf8

/-! # Percent encoding

In addresses a percent sign with two hexadecimal digits stands for a byte.  A percent sign without
them stands for itself. -/

namespace Tenancy

/-- The value of a byte that is a hexadecimal digit. -/
def Bytes.hexValue? (b : UInt8) : Option Nat := Text.hexValue? (Char.ofNat b.toNat)

/-- The bytes that a part of an address stands for. -/
def Bytes.percentDecode : Bytes → Bytes
  | [] => []
  | b :: rest =>
    if b = 0x25 then
      match rest with
      | h :: l :: more =>
        match hexValue? h, hexValue? l with
        | some h, some l => UInt8.ofNat (h * 16 + l) :: percentDecode more
        | _, _ => b :: percentDecode (h :: l :: more)
      | short => b :: short
    else b :: percentDecode rest

namespace Text

/-- The bytes that a part of an address stands for. -/
def percentBytes (cs : List Char) : Bytes := (Bytes.ofText (String.ofList cs)).percentDecode

/-- The text that a part of an address stands for, if its bytes are well formed. -/
def percentText? (cs : List Char) : Option String := (percentBytes cs).text?

/-- The text that a key or value of a query stands for: a plus sign stands for a blank, and what
    is not well formed is replaced. -/
def queryText (cs : List Char) : String :=
  (percentBytes (cs.map fun c => if c == '+' then ' ' else c)).lossyText

end Text

end Tenancy
