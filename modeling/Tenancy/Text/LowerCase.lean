import Tenancy.Text.CaseTable

/-! # Full lower-casing

Lower-casing of a text by the Unicode rules.  Two of them go beyond one character at a time: the
dotted capital I becomes two characters, and a capital sigma becomes a final sigma at the end of a
word. -/

namespace Tenancy.Text

/-- The lower-case form of a character, without regard to its surroundings. -/
def lowerChar (c : Char) : List Char :=
  let n := c.toNat
  if n < 0x80 then [c.toLower]
  else if n = 0x130 then ['i', Char.ofNat 0x307]
  else match lowerRuns.find? (·.covers n) with
    | some run => [Char.ofNat (run.target + (n - run.first))]
    | none => [c]

/-- Whether a character has upper, lower or title case. -/
def isCased (c : Char) : Bool :=
  let n := c.toNat
  if n < 0x80 then c.isAlpha else inRanges casedRanges n

/-- Whether the sigma rule looks through a character. -/
def isCaseIgnorable (c : Char) : Bool := inRanges caseIgnorableRanges c.toNat

/-- Whether the first character that is not looked through is cased. -/
def meetsCased (cs : List Char) : Bool :=
  match cs.dropWhile isCaseIgnorable with
  | [] => false
  | c :: _ => isCased c

/-- The lower-case form of a capital sigma: the final form where a cased character stands before
    it and none after it. -/
def lowerSigma (before after : List Char) : Char :=
  if meetsCased before && !meetsCased after then 'ς' else 'σ'

/-- Lower-cases the characters of `cs`; `before` holds those already passed, nearest first. -/
def lowerCharsFrom (before : List Char) : (cs : List Char) → List Char
  | [] => []
  | c :: after =>
    (if c = 'Σ' then [lowerSigma before after] else lowerChar c) ++
      lowerCharsFrom (c :: before) after

/-- The full lower-case form of a run of characters. -/
def lowerChars (cs : List Char) : List Char := lowerCharsFrom [] cs

/-- The full lower-case form of a text. -/
def lowerCase (s : String) : String := String.ofList (lowerChars s.toList)

theorem toList_lowerCase (s : String) : (lowerCase s).toList = lowerChars s.toList := by
  simp [lowerCase]

end Tenancy.Text
