import Mathlib.Data.List.DropRight
import Tenancy.ServiceModule
import Tenancy.Text.Ascii

/-!
# Names of modules as they are written

A module's name may be written in any letter case and between white space. Such a spelling has
characters of ASCII only between the white space, so lower-casing it by the rules for all of Unicode
is lower-casing it letter by letter.

## Key results

- `ServiceModule.ofName?_eq_some_iff`: what is read as a module's name
- `ServiceModule.ofName?_of_spelled`: every spelling of a module's name is read as that module
-/

namespace Tenancy

namespace Text

/-- White space around a text that has none at its ends is what trimming takes away. -/
theorem trimChars_append {before cs after : List Char} (hbefore : ∀ c ∈ before, isBlank c = true)
    (hafter : ∀ c ∈ after, isBlank c = true) (hcs : ∀ c ∈ cs, isBlank c = false) :
    trimChars (before ++ cs ++ after) = cs := by
  have hfront : (cs ++ after).dropWhile isBlank = if cs = [] then [] else cs ++ after := by
    cases cs with
    | nil => simpa using hafter
    | cons c rest => simp [hcs c List.mem_cons_self]
  have hback : ∀ rest, (∀ c ∈ rest, isBlank c = true) →
      (cs ++ rest).rdropWhile isBlank = cs := by
    intro rest hrest
    have hkeep : cs.rdropWhile isBlank = cs :=
      List.rdropWhile_eq_self_iff.mpr fun hl => by simp [hcs _ (List.getLast_mem hl)]
    rw [List.rdropWhile, List.reverse_append,
      List.dropWhile_append_of_pos (by simpa using hrest), ← List.rdropWhile, hkeep]
  -- trimming at the front stops before the text, or eats everything where there is none
  rw [trimChars, List.append_assoc, List.dropWhile_append_of_pos hbefore, hfront]
  split
  · next hnil => rw [hnil]; rfl
  · exact hback after hafter

/-- Lower-casing a text of ASCII is lower-casing it letter by letter. -/
theorem lowerCharsFrom_of_ascii (before : List Char) {cs : List Char}
    (h : ∀ c ∈ cs, c.toNat < 0x80) : lowerCharsFrom before cs = cs.map Char.toLower := by
  induction cs generalizing before with
  | nil => rfl
  | cons c rest ih =>
    have hc := h c List.mem_cons_self
    have hsigma : c ≠ 'Σ' := by
      rintro rfl
      exact absurd hc (by decide)
    rw [lowerCharsFrom, if_neg hsigma, lowerChar, if_pos hc,
      ih _ fun c' hc' => h c' (List.mem_cons_of_mem c hc')]
    rfl

/-- A letter of ASCII. -/
def IsLetter (c : Char) : Prop :=
  (0x61 ≤ c.toNat ∧ c.toNat ≤ 0x7A) ∨ (0x41 ≤ c.toNat ∧ c.toNat ≤ 0x5A)

variable {c : Char}

theorem IsLetter.lt (h : IsLetter c) : c.toNat < 0x80 := by
  unfold IsLetter at h
  omega

theorem IsLetter.isBlank_eq (h : IsLetter c) : isBlank c = false := by
  unfold IsLetter at h
  simp only [isBlank, Bool.or_eq_false_iff, Bool.and_eq_false_iff, decide_eq_false_iff_not,
    beq_eq_false_iff_ne, ne_eq]
  omega

/-- A character that becomes a letter in lower case is one. -/
theorem isLetter_of_toLower (h : 0x61 ≤ c.toLower.toNat ∧ c.toLower.toNat ≤ 0x7A) :
    IsLetter c := by
  by_cases hupper : c.val ≥ 'A'.val ∧ c.val ≤ 'Z'.val
  · exact .inr hupper
  · have hkept : c.toLower = c := dif_neg hupper
    rw [hkept] at h
    exact .inl h

end Text

namespace ServiceModule

variable {m : ServiceModule} {service : String}

theorem ofName?_eq_some_iff :
    ofName? service = some m ↔ Text.lowerCase (Text.trim service) = m.name := by
  rw [ofName?]
  constructor
  · intro h
    simpa using List.find?_some h
  · intro h
    rw [h]
    cases m <;> decide

theorem ofName?_eq_none_iff :
    ofName? service = none ↔ ∀ m : ServiceModule, Text.lowerCase (Text.trim service) ≠ m.name := by
  simp only [Option.eq_none_iff_forall_ne_some, ne_eq, ofName?_eq_some_iff]

/-- A module's name in any letter case and between white space. -/
def Spelled (m : ServiceModule) (s : String) : Prop :=
  ∃ before name after : String, s = before ++ name ++ after ∧
    (∀ c ∈ before.toList, Text.isBlank c = true) ∧ (∀ c ∈ after.toList, Text.isBlank c = true) ∧
    Text.equalsIgnoringCase name m.name = true

/-- The names of modules are lower-case letters. -/
private theorem name_letters (m : ServiceModule) :
    m.name.toList.map Char.toLower = m.name.toList ∧
      ∀ c ∈ m.name.toList, 0x61 ≤ c.toNat ∧ c.toNat ≤ 0x7A := by
  have hletters : m.name.toList.all (fun c => 0x61 ≤ c.toNat ∧ c.toNat ≤ 0x7A) = true := by
    cases m <;> rfl
  exact ⟨by cases m <;> rfl, by simpa using hletters⟩

/-- Every spelling of a module's name is read as that module. -/
theorem ofName?_of_spelled {s : String} (h : m.Spelled s) :
    ofName? s = some m := by
  obtain ⟨before, name, after, rfl, hbefore, hafter, hname⟩ := h
  obtain ⟨hlower, hletters⟩ := name_letters m
  have hsame : name.toList.map Char.toLower = m.name.toList := by
    rw [← hlower]
    simpa [Text.equalsIgnoringCase] using hname
  have hname : ∀ c ∈ name.toList, Text.IsLetter c := fun c hc =>
    Text.isLetter_of_toLower (hletters _ (hsame ▸ List.mem_map_of_mem hc))
  have htrim : Text.trim (before ++ name ++ after) = name := by
    rw [Text.trim, String.toList_append, String.toList_append,
      Text.trimChars_append hbefore hafter fun c hc => (hname c hc).isBlank_eq,
      String.ofList_toList]
  have hread : Text.lowerCase name = m.name := by
    rw [Text.lowerCase, Text.lowerChars,
      Text.lowerCharsFrom_of_ascii [] fun c hc => (hname c hc).lt, hsame, String.ofList_toList]
  rw [ofName?_eq_some_iff, htrim, hread]

end ServiceModule

end Tenancy
