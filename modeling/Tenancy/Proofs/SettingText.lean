import Tenancy.Config.Load
import Tenancy.Proofs.AsciiText

/-!
# How settings are written

A count is written in digits, perhaps behind a plus sign; a truth value is one of eight words in any
letter case; an address begins with one of two schemes; a module is named in any letter case; an
identifier that needs no quotes has letters, digits and underscores of ASCII, and is short enough in
bytes. The readers and checks of settings find just these.

## Key results

- `readCount?_eq_some_iff`, `readFlag?_eq_some_iff`: counts and truth values
- `isPostgresUrl_iff`, `isSome_ofName?_iff`, `isPlainIdentifier_iff`: addresses, names of modules and
  identifiers
-/

namespace Tenancy.Config

variable {raw url name : String}

/-- A count that fits in 32 bits: digits, perhaps behind a plus sign. -/
def IsCount (raw : String) (n : Nat) : Prop :=
  ∃ ds, (raw.toList = ds ∨ raw.toList = '+' :: ds) ∧ ds ≠ [] ∧ (∀ d ∈ ds, d.isDigit = true) ∧
    Text.digitsValue ds = n ∧ n < UInt32.size

theorem readCount?_eq_some_iff {n : Nat} : readCount? raw = some n ↔ IsCount raw n := by
  rw [readCount?, IsCount]
  split
  next ds hraw =>
    rw [Text.natBelow?_eq_some_iff]
    constructor
    · rintro ⟨hne, hdigits, hvalue⟩
      exact ⟨ds, .inr hraw, hne, hdigits, hvalue⟩
    · rintro ⟨ds', rfl | hds', hne, hdigits, hvalue⟩
      · -- a sign is no digit
        have hsign : '+' ∈ raw.toList := hraw ▸ List.mem_cons_self
        exact absurd (hdigits '+' hsign) (by decide)
      · obtain rfl : ds = ds' := (List.cons.inj (hraw.symm.trans hds')).2
        exact ⟨hne, hdigits, hvalue⟩
  next hplus =>
    rw [Text.natBelow?_eq_some_iff]
    constructor
    · rintro ⟨hne, hdigits, hvalue⟩
      exact ⟨_, .inl rfl, hne, hdigits, hvalue⟩
    · rintro ⟨ds', rfl | hds', hne, hdigits, hvalue⟩
      · exact ⟨hne, hdigits, hvalue⟩
      · exact absurd hds' (hplus ds')

/-- A word for a truth value, in any letter case. -/
def IsFlag (raw : String) (value : Bool) : Prop :=
  ∃ word ∈ if value then trueWords else falseWords, Text.equalsIgnoringCase raw word = true

private theorem lowerCase_mem_iff {words : List String} (h : words ⊆ trueWords ++ falseWords) :
    Text.lowerCase raw ∈ words ↔ ∃ word ∈ words, Text.equalsIgnoringCase raw word = true := by
  have hletters : ∀ word ∈ trueWords ++ falseWords,
      word.toList.all (fun d => d ≠ 'k' ∧ 0 < d.toNat ∧ d.toNat < 0x80) = true := by
    decide +kernel
  have hlower : ∀ word ∈ trueWords ++ falseWords,
      word.toList.map Char.toLower = word.toList := by
    decide +kernel
  have hspell : ∀ word ∈ words,
      (Text.lowerCase raw = word ↔ Text.equalsIgnoringCase raw word = true) := by
    intro word hword
    refine Text.lowerCase_eq_iff (fun d hd => ?_) (hlower word (h hword))
    simpa [Text.IsOwn] using List.all_eq_true.mp (hletters word (h hword)) d hd
  constructor
  · intro hmem
    exact ⟨_, hmem, (hspell _ hmem).mp rfl⟩
  · rintro ⟨word, hword, hequal⟩
    rwa [(hspell word hword).mpr hequal]

theorem readFlag?_eq_some_iff {value : Bool} : readFlag? raw = some value ↔ IsFlag raw value := by
  have hdisjoint : ∀ word ∈ trueWords, word ∉ falseWords := by decide +kernel
  have htrue : Text.lowerCase raw ∈ trueWords ↔ IsFlag raw true :=
    lowerCase_mem_iff (List.subset_append_left _ _)
  have hfalse : Text.lowerCase raw ∈ falseWords ↔ IsFlag raw false :=
    lowerCase_mem_iff (List.subset_append_right _ _)
  rw [readFlag?]
  cases value with
  | true =>
    rw [← htrue]
    by_cases h : Text.lowerCase raw ∈ trueWords <;> simp [h]
  | false =>
    rw [← hfalse]
    by_cases h : Text.lowerCase raw ∈ trueWords
    · simp [h, hdisjoint _ h]
    · simp [h]

/-- An address that begins with one of the two schemes. -/
def IsPostgresUrl (url : String) : Prop :=
  ∃ rest, url = "postgres://" ++ rest ∨ url = "postgresql://" ++ rest

theorem isPostgresUrl_iff : isPostgresUrl url = true ↔ IsPostgresUrl url := by
  have hbegins : ∀ scheme : String,
      scheme.toList.isPrefixOf url.toList = true ↔ ∃ rest, url = scheme ++ rest := by
    intro scheme
    rw [List.isPrefixOf_iff_prefix]
    constructor
    · rintro ⟨rest, hrest⟩
      refine ⟨String.ofList rest, ?_⟩
      rw [← String.toList_inj, String.toList_append, String.toList_ofList, hrest]
    · rintro ⟨rest, rfl⟩
      exact ⟨rest.toList, String.toList_append.symm⟩
  rw [isPostgresUrl, Bool.or_eq_true, hbegins, hbegins, IsPostgresUrl, exists_or]

/-- A text that is the name of a module in lower case and without the white space around it. -/
def IsModuleName (name : String) : Prop :=
  ∃ m : ServiceModule, Text.lowerCase (Text.trim name) = m.name

theorem isSome_ofName?_iff : (ServiceModule.ofName? name).isSome = true ↔ IsModuleName name := by
  simp only [Option.isSome_iff_exists, ServiceModule.ofName?_eq_some_iff, IsModuleName]

/-- A name that needs no quotes: a letter of ASCII or an underscore, then letters, digits and
    underscores, with at most 63 bytes. -/
def IsIdentifier (name : String) : Prop :=
  ∃ c rest, name.toList = c :: rest ∧ (c.isAlpha = true ∨ c = '_') ∧
    (∀ d ∈ rest, d.isAlpha = true ∨ d.isDigit = true ∨ d = '_') ∧ name.utf8ByteSize ≤ 63

private theorem toNat_lt_of_isAlpha {c : Char} (h : c.isAlpha = true) : c.toNat < 0x80 := by
  cases Bool.or_eq_true_iff.mp h with
  | inl hupper =>
    have hle : c.toNat ≤ 'Z'.toNat := UInt32.le_iff_toNat_le.mp (of_decide_eq_true hupper).2
    exact Nat.lt_of_le_of_lt hle (by decide)
  | inr hlower =>
    have hbelow := of_decide_eq_true (Bool.and_eq_true_iff.mp hlower).2
    have hle : c.toNat ≤ 'z'.toNat := UInt32.le_iff_toNat_le.mp hbelow
    exact Nat.lt_of_le_of_lt hle (by decide)

private theorem toNat_lt_of_isIdentifierChar {c : Char} {first : Bool}
    (h : isIdentifierChar first c = true) : c.toNat < 0x80 := by
  simp only [isIdentifierChar, Bool.or_eq_true, Bool.and_eq_true, beq_iff_eq,
    Char.isDigit_iff_toNat] at h
  rcases h with (halpha | rfl) | ⟨-, -, hdigit⟩
  · exact toNat_lt_of_isAlpha halpha
  · decide
  · exact Nat.lt_of_le_of_lt hdigit (by decide)

theorem isPlainIdentifier_iff : isPlainIdentifier name = true ↔ IsIdentifier name := by
  rw [isPlainIdentifier, IsIdentifier]
  split
  next hnil => simp [hnil]
  next c rest hname =>
    -- all characters are one byte long
    have hsize : isIdentifierChar true c = true → (∀ d ∈ rest, isIdentifierChar false d = true) →
        name.utf8ByteSize = rest.length + 1 := by
      intro hc hrest
      rw [← String.ofList_toList (s := name), hname, Text.utf8ByteSize_ofList_ascii,
        List.length_cons]
      intro d hd
      cases List.mem_cons.mp hd with
      | inl heq => exact toNat_lt_of_isIdentifierChar (heq ▸ hc)
      | inr hmem => exact toNat_lt_of_isIdentifierChar (hrest d hmem)
    have hfirst : isIdentifierChar true c = true ↔ c.isAlpha = true ∨ c = '_' := by
      simp [isIdentifierChar]
    have hlater : ∀ d, isIdentifierChar false d = true ↔
        d.isAlpha = true ∨ d.isDigit = true ∨ d = '_' := by
      intro d
      simp [isIdentifierChar, or_assoc, or_comm (a := d = '_')]
    simp only [Bool.and_eq_true, List.all_eq_true, decide_eq_true_eq, hname, List.cons.injEq]
    constructor
    · rintro ⟨⟨hc, hrest⟩, hlength⟩
      refine ⟨c, rest, ⟨rfl, rfl⟩, hfirst.mp hc, fun d hd => (hlater d).mp (hrest d hd), ?_⟩
      rw [hsize hc hrest]
      exact hlength
    · rintro ⟨c, rest, ⟨rfl, rfl⟩, hc, hrest, hbytes⟩
      have hrest : ∀ d ∈ rest, isIdentifierChar false d = true := fun d hd =>
        (hlater d).mpr (hrest d hd)
      refine ⟨⟨hfirst.mpr hc, hrest⟩, ?_⟩
      rw [← hsize (hfirst.mpr hc) hrest]
      exact hbytes

end Tenancy.Config
