/-! # White space

Which characters count as white space, trimming a text at both ends and squeezing what is inside.
A text without anything else is *blank*; settings, schema names and header values treat blank as
absent. -/

namespace Tenancy.Text

/-- The characters with the Unicode property `White_Space`. -/
def isBlank (c : Char) : Bool :=
  let n := c.toNat
  (0x09 ≤ n && n ≤ 0x0D) || n == 0x20 || n == 0x85 || n == 0xA0 || n == 0x1680 ||
  (0x2000 ≤ n && n ≤ 0x200A) || n == 0x2028 || n == 0x2029 || n == 0x202F || n == 0x205F ||
  n == 0x3000

/-- The characters without those at the end that satisfy `p`. -/
def dropEnd (p : Char → Bool) (cs : List Char) : List Char :=
  (cs.reverse.dropWhile p).reverse

/-- The characters without the white space at either end. -/
def trimChars (cs : List Char) : List Char :=
  dropEnd isBlank (cs.dropWhile isBlank)

/-- The text without the white space at either end. -/
def trim (s : String) : String :=
  String.ofList (trimChars s.toList)

/-- The trimmed text, or nothing when the text is blank. -/
def nonBlank? (s : String) : Option String :=
  if trim s = "" then none else some (trim s)

/-- Every run of white space becomes one space. -/
def squeezeChars : List Char → List Char
  | [] => []
  | c :: rest =>
    if isBlank c then
      if rest.head?.any isBlank then squeezeChars rest else ' ' :: squeezeChars rest
    else c :: squeezeChars rest

/-- The text with one space for every run of white space, and none at either end. -/
def squeeze (s : String) : String := String.ofList (squeezeChars (trimChars s.toList))

theorem toList_trim (s : String) : (trim s).toList = trimChars s.toList := by
  simp [trim]

theorem nonBlank?_eq_some_iff {s t : String} : nonBlank? s = some t ↔ trim s = t ∧ t ≠ "" := by
  unfold nonBlank?
  split <;> grind

end Tenancy.Text
