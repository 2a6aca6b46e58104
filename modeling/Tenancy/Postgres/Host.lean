import Tenancy.Text.Percent

/-! # Hosts of addresses

A host stands between brackets and is an IPv6 address, or it is a name.  The schemes of the web
also read a name as an IPv4 address where its last part is a number; `isIpv4` accepts the short and
the octal and hexadecimal forms that they take.  Strict IPv4 addresses have four decimal parts
(`isDottedQuad`). -/

namespace Tenancy.Postgres.Host

/-! ## IPv6 -/

/-- Whether a part of an address in dotted form is a number below 256 without a zero in front. -/
def isOctet (cs : List Char) : Bool :=
  (Text.natBelow? 256 cs).isSome && (cs.length == 1 || cs.head? != some '0')

/-- Whether a text is four numbers below 256 with dots between them. -/
def isDottedQuad (cs : List Char) : Bool :=
  (cs.splitOn '.').length == 4 && (cs.splitOn '.').all isOctet

/-- How many of the eight groups a part between colons stands for; only the last may have the
    dotted form. -/
def groups? (isLast : Bool) (part : List Char) : Option Nat :=
  if part ≠ [] ∧ part.length ≤ 4 ∧ (Text.hexDigitsValue? part).isSome then some 1
  else if isLast ∧ isDottedQuad part then some 2
  else none

/-- How many groups the parts stand for together. -/
def groupsOf? (lastHere : Bool) : List (List Char) → Option Nat
  | [] => some 0
  | [part] => groups? lastHere part
  | part :: rest => do return (← groups? false part) + (← groupsOf? lastHere rest)

/-- The parts on one side of the double colon; an empty side has none. -/
def side (cs : List Char) : List (List Char) := if cs = [] then [] else cs.splitOn ':'

/-- The characters before and after the first double colon. -/
def splitDouble? : List Char → Option (List Char × List Char)
  | ':' :: ':' :: rest => some ([], rest)
  | c :: rest => (splitDouble? rest).map fun (before, after) => (c :: before, after)
  | [] => none

/-- Whether a text is an address of eight groups, of which a double colon may leave some out. -/
def isIpv6 (cs : List Char) : Bool :=
  match splitDouble? cs with
  | none => groupsOf? true (side cs) == some 8
  | some (before, after) =>
    match groupsOf? false (side before), groupsOf? true (side after) with
    | some n, some m => decide (n + m ≤ 7)
    | _, _ => false

/-! ## IPv4 as the web reads it -/

/-- Whether a character is a digit of a number to some base. -/
def isDigitOf (base : Nat) (c : Char) : Bool :=
  (Text.hexValue? c).any fun value => decide (value < base)

/-- The base of a number and its digits: `0x` is in front of hexadecimal ones, a zero in front of
    octal ones. -/
def baseAndDigits : List Char → Nat × List Char
  | '0' :: 'x' :: digits => (16, digits)
  | '0' :: 'X' :: digits => (16, digits)
  | '0' :: c :: digits => (8, c :: digits)
  | digits => (10, digits)

/-- The value of a number in one of the three bases; none of its digits have to be there after
    `0x`. -/
def number? (cs : List Char) : Option Nat :=
  let (base, digits) := baseAndDigits cs
  if cs ≠ [] ∧ digits.all (isDigitOf base) then
    some (digits.foldl (fun n d => base * n + (Text.hexValue? d).getD 0) 0)
  else none

/-- The parts between the dots; a dot at the end ends the last of them. -/
def dottedParts (cs : List Char) : List (List Char) :=
  let parts := cs.splitOn '.'
  if parts.getLast? = some [] then parts.dropLast else parts

/-- Whether the last part of a name is a number, so that the whole has to be an address. -/
def endsInNumber (cs : List Char) : Bool :=
  match (dottedParts cs).getLast? with
  | none => false
  | some last => (last ≠ [] && last.all Char.isDigit) || (number? last).isSome

/-- Whether numbers are the parts of an address: the last fills the bytes that the others, which
    have one each, leave. -/
def fillFourBytes (numbers : List Nat) : Bool :=
  match numbers.reverse with
  | [] => false
  | last :: others =>
    decide (numbers.length ≤ 4) && others.all (· < 256) &&
      decide (last < UInt32.size >>> (8 * others.length))

/-- Whether a text is an IPv4 address in a form that the web reads. -/
def isIpv4 (cs : List Char) : Bool := ((dottedParts cs).mapM number?).any fillFourBytes

/-! ## Hosts -/

/-- What is wrong with a host. -/
inductive Flaw where
  | empty
  | ipv6Address
  | ipv4Address
  | character
  deriving DecidableEq

def Flaw.message : Flaw → String
  | empty => "empty host"
  | ipv6Address => "invalid IPv6 address"
  | ipv4Address => "invalid IPv4 address"
  | character => "invalid domain character"

/-- Characters that no host has. -/
def isForbidden (c : Char) : Bool := c.toNat == 0 || c ∈ " #/:<>?@[\\]^|".toList

/-- Characters that no host of the web has. -/
def isForbiddenOnWeb (c : Char) : Bool :=
  isForbidden c || c.toNat < 0x20 || c.toNat == 0x7F || c == '%'

/-- What is wrong with an IPv6 address that begins with a bracket. -/
def bracketedFlaw? (host : List Char) : Option Flaw :=
  if host.getLast? = some ']' ∧ isIpv6 (host.drop 1).dropLast then none else some .ipv6Address

/-- What is wrong with a host. -/
def flaw? (host : List Char) : Option Flaw :=
  if host.head? = some '[' then bracketedFlaw? host
  else if host.any isForbidden then some .character
  else none

/-- What is wrong with a host of the web. -/
def webFlaw? (host : List Char) : Option Flaw :=
  if host.head? = some '[' then bracketedFlaw? host
  else
    match (Text.percentText? host).map String.toList with
    | none => some .character
    | some [] => some .empty
    | some name =>
      if name.any isForbiddenOnWeb then some .character
      else if endsInNumber name && !isIpv4 name then some .ipv4Address
      else none

end Tenancy.Postgres.Host
