import Tenancy.Proofs.ModuleName
import Tenancy.Proofs.TextBytes

/-!
# Texts of ASCII

A number is written in digits of ASCII, and a word is compared in lower case. Lower-casing follows the
rules for all of Unicode. Of the characters outside ASCII only the sign of the unit Kelvin becomes one
of ASCII alone, the letter `k`. So a word without that letter is spelled by its own letters only, in
either case. A text of ASCII has as many bytes as characters.

## Key results

- `natBelow?_eq_some_iff`: what is read as a number
- `lowerCase_eq_iff`: which texts become a word in lower case
- `utf8ByteSize_ofList_ascii`: the bytes of a text of ASCII
-/

namespace Tenancy.Text

variable {c : Char} {cs ds : List Char} {s word : String} {bound n : Nat}

/-! ## Digits -/

theorem natBelow?_eq_some_iff : natBelow? bound ds = some n ↔
    ds ≠ [] ∧ (∀ d ∈ ds, d.isDigit = true) ∧ digitsValue ds = n ∧ n < bound := by
  simp only [natBelow?, Option.ite_none_right_eq_some, List.all_eq_true, Option.some.injEq]
  constructor
  · rintro ⟨⟨hne, hdigits, hlt⟩, rfl⟩
    exact ⟨hne, hdigits, rfl, hlt⟩
  · rintro ⟨hne, hdigits, rfl, hlt⟩
    exact ⟨⟨hne, hdigits, hlt⟩, rfl⟩

/-! ## Words in any letter case -/

/-- A character of ASCII that no other character becomes in lower case. -/
def IsOwn (c : Char) : Prop := c ≠ 'k' ∧ 0 < c.toNat ∧ c.toNat < 0x80

/-- A number that no character has stands for the character with the number zero. -/
private theorem toNat_ofNat (n : Nat) : (Char.ofNat n).toNat = n ∨ (Char.ofNat n).toNat = 0 := by
  by_cases h : n.isValidChar
  · exact .inl (toNat_ofNat_of_isValidChar h)
  · exact .inr (congrArg Char.toNat (dif_neg h : Char.ofNat n = _))

/-- A character outside ASCII leaves something in lower case that is not such a character. -/
private theorem exists_not_isOwn (h : 0x80 ≤ c.toNat) : ∃ d ∈ lowerChar c, ¬IsOwn d := by
  have htable : ∀ run ∈ lowerRuns, 0x80 ≤ run.target ∨
      (run.target = 'k'.toNat ∧ run.first = run.last) := by decide +kernel
  have hascii : ¬c.toNat < 0x80 := by omega
  rw [lowerChar, if_neg hascii]
  by_cases hdotted : c.toNat = 0x130
  · rw [if_pos hdotted]
    exact ⟨Char.ofNat 0x307, by simp, fun hown => absurd hown.2.2 (by decide)⟩
  · rw [if_neg hdotted]
    cases hrun : lowerRuns.find? (·.covers c.toNat) with
    | none => exact ⟨c, List.mem_singleton.mpr rfl, fun hown => hascii hown.2.2⟩
    | some run =>
      refine ⟨_, List.mem_singleton.mpr rfl, ?_⟩
      rcases htable run (List.mem_of_find?_eq_some hrun) with hfar | ⟨hkelvin, hone⟩
      · rintro ⟨-, hpos, hlt⟩
        have hnumber := toNat_ofNat (run.target + (c.toNat - run.first))
        omega
      · have hcovers := List.find?_some hrun
        simp only [CaseRun.covers, Bool.and_eq_true, decide_eq_true_eq] at hcovers
        have hfirst : run.target + (c.toNat - run.first) = 'k'.toNat := by omega
        rw [hfirst]
        exact fun hown => hown.1 (Char.ofNat_toNat 'k')

/-- What has only such characters in lower case is of ASCII. -/
theorem ascii_of_lowerCharsFrom {before : List Char}
    (h : ∀ d ∈ lowerCharsFrom before cs, IsOwn d) : ∀ c ∈ cs, c.toNat < 0x80 := by
  induction cs generalizing before with
  | nil => simp
  | cons first rest ih =>
    rw [lowerCharsFrom] at h
    have hfirst : first.toNat < 0x80 := by
      by_contra hlarge
      by_cases hsigma : first = 'Σ'
      · -- both forms of the small sigma are outside ASCII
        have hown := h (lowerSigma before rest) (by simp [hsigma])
        have hform : lowerSigma before rest = 'ς' ∨ lowerSigma before rest = 'σ' := by
          rw [lowerSigma]
          split <;> simp
        rcases hform with hform | hform <;>
          exact absurd (hform ▸ hown).2.2 (by decide)
      · obtain ⟨d, hd, hnot⟩ := exists_not_isOwn (Nat.le_of_not_lt hlarge)
        rw [if_neg hsigma] at h
        exact hnot (h d (List.mem_append_left _ hd))
    intro c hc
    cases List.mem_cons.mp hc with
    | inl heq => exact heq ▸ hfirst
    | inr hrest => exact ih (fun d hd => h d (List.mem_append_right _ hd)) c hrest

private theorem toNat_lt_of_toLower (h : c.toLower.toNat < 0x80) : c.toNat < 0x80 := by
  by_cases hupper : c.val ≥ 'A'.val ∧ c.val ≤ 'Z'.val
  · have hle : c.toNat ≤ 0x5A := UInt32.le_iff_toNat_le.mp hupper.2
    omega
  · rwa [show c.toLower = c from dif_neg hupper] at h

/-- A text becomes a word in lower case if it is the word in some letter case of ASCII. -/
theorem lowerCase_eq_iff (hown : ∀ d ∈ word.toList, IsOwn d)
    (hlower : word.toList.map Char.toLower = word.toList) :
    lowerCase s = word ↔ equalsIgnoringCase s word = true := by
  have hascii : (∀ c ∈ s.toList, c.toNat < 0x80) →
      (lowerCase s).toList = s.toList.map Char.toLower := by
    intro hs
    rw [toList_lowerCase, lowerChars, lowerCharsFrom_of_ascii [] hs]
  rw [equalsIgnoringCase, beq_iff_eq, hlower]
  constructor
  · intro h
    have hs : ∀ c ∈ s.toList, c.toNat < 0x80 := by
      have hchars : ∀ d ∈ lowerCharsFrom [] s.toList, IsOwn d := fun d hd =>
        hown d (by rwa [← h, toList_lowerCase])
      exact ascii_of_lowerCharsFrom hchars
    rw [← hascii hs, h]
  · intro h
    have hs : ∀ c ∈ s.toList, c.toNat < 0x80 := by
      intro c hc
      have hmem : c.toLower ∈ word.toList := h ▸ List.mem_map_of_mem hc
      exact toNat_lt_of_toLower (hown _ hmem).2.2
    rw [← String.toList_inj, hascii hs, h]

/-! ## Bytes -/

theorem utf8ByteSize_ofList_ascii (h : ∀ c ∈ cs, c.toNat < 0x80) :
    (String.ofList cs).utf8ByteSize = cs.length := by
  induction cs with
  | nil => rfl
  | cons c rest ih =>
    have hone : (String.ofList [c]).utf8ByteSize = 1 := by
      rw [← String.singleton_eq_ofList, String.utf8ByteSize_singleton]
      exact Bytes.utf8Size_of_ascii (h c List.mem_cons_self)
    have hrest := ih fun d hd => h d (List.mem_cons_of_mem c hd)
    rw [← List.singleton_append, String.ofList_append, String.utf8ByteSize_append, hone, hrest]
    simp [Nat.add_comm]

end Tenancy.Text
