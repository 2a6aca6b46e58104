import Tenancy.Text.CaseTable
import Tenancy.Text.EscapeTable

/-! # Quoted rendering of a text

A text between double quotes, on one line: the quote, the backslash and the common controls get a
backslash form, and every other character that would not show as itself gets a numeric form. -/

namespace Tenancy.Text

/-- The hexadecimal digits of `n` without leading zeros. -/
def shortHex (n : Nat) : List Char := Nat.toDigits 16 n

/-- How a character is written inside the quotes. -/
def escapeChar (c : Char) : List Char :=
  if c = '"' then ['\\', '"']
  else if c = '\\' then ['\\', '\\']
  else if c = '\n' then ['\\', 'n']
  else if c = '\r' then ['\\', 'r']
  else if c = '\t' then ['\\', 't']
  else if c.toNat = 0 then ['\\', '0']
  else if inRanges escapedRanges c.toNat then
    ['\\', 'u', Char.ofNat 0x7B] ++ shortHex c.toNat ++ [Char.ofNat 0x7D]
  else [c]

/-- The text between double quotes, with escapes. -/
def quoted (s : String) : String :=
  String.ofList ('"' :: s.toList.flatMap escapeChar ++ ['"'])

end Tenancy.Text
