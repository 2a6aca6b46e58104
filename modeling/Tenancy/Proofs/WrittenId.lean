import Mathlib.Algebra.Ring.Nat
import Tenancy.Proofs.SlugWords

/-!
# Written identifiers in slugs

A tenant is written as 32 hexadecimal digits with four hyphens between. The digits are characters of
words and the hyphens are not, so the words of a written identifier are its five groups of digits,
and its slug has underscores where the hyphens were. Nothing else is lost: the digits can be taken
out of the slug, and they are read back as the identifier.

## Key results

- `Text.hexDigitsValue?_hexDigits`: digits are read back as the number that they were written for
- `TenantId.digits_injective`: different identifiers have different digits
- `SchemaName.slugChars_text`: the slug of an identifier is the list of its groups, joined
- `SchemaName.slugChars_text_injective`: different identifiers have different slugs
-/

namespace Tenancy

namespace Text

theorem length_hexDigits (n width : Nat) : (hexDigits n width).length = width := by
  induction width generalizing n with
  | zero => rfl
  | succ width ih => simp [hexDigits, ih]

theorem exists_of_mem_hexDigits {c : Char} {n width : Nat} (h : c ∈ hexDigits n width) :
    ∃ value < 16, c = hexDigit value := by
  induction width generalizing n with
  | zero => simp [hexDigits] at h
  | succ width ih =>
    rw [hexDigits] at h
    cases List.mem_append.mp h with
    | inl hfront => exact ih hfront
    | inr hlast => exact ⟨n % 16, Nat.mod_lt n (by decide), List.mem_singleton.mp hlast⟩

/-- Digits are read back as the number that they were written for, as far as they reach. -/
theorem hexDigitsValue?_hexDigits (n width : Nat) :
    hexDigitsValue? (hexDigits n width) = some (n % 16 ^ width) := by
  have hdigit : ∀ value < 16, hexValue? (hexDigit value) = some value := by decide
  induction width generalizing n with
  | zero => simp [hexDigits, hexDigitsValue?, Nat.mod_one]
  | succ width ih =>
    have hfront : List.foldlM (fun n d => (hexValue? d).map (16 * n + ·)) 0
        (hexDigits (n / 16) width) = some (n / 16 % 16 ^ width) := ih (n / 16)
    have hlast := hdigit (n % 16) (Nat.mod_lt n (by decide))
    have hvalue : n % 16 ^ (width + 1) = 16 * (n / 16 % 16 ^ width) + n % 16 := by
      rw [Nat.pow_succ, Nat.mul_comm, Nat.mod_mul]
      omega
    simp [hexDigits, hexDigitsValue?, List.foldlM_append, hfront, hlast, hvalue]

end Text

namespace TenantId

/-- The five groups of digits. -/
def groups (t : TenantId) : List (List Char) :=
  [t.digits.take 8, (t.digits.drop 8).take 4, (t.digits.drop 12).take 4, (t.digits.drop 16).take 4,
    t.digits.drop 20]

theorem length_digits (t : TenantId) : t.digits.length = 32 := Text.length_hexDigits t.toNat 32

theorem ofDigits?_digits (t : TenantId) : ofDigits? t.digits = some t := by
  have hlt : t.toNat < 16 ^ 32 := t.bits.isLt
  have hvalue : Text.hexDigitsValue? t.digits = some t.toNat := by
    rw [digits, Text.hexDigitsValue?_hexDigits, Nat.mod_eq_of_lt hlt]
  rw [ofDigits?, if_pos t.length_digits, hvalue, Option.map_some, toNat, BitVec.ofNat_toNat,
    BitVec.setWidth_eq]

/-- Different identifiers have different digits. -/
theorem digits_injective : Function.Injective digits := by
  intro t t' h
  have hread := t.ofDigits?_digits
  rw [h, ofDigits?_digits] at hread
  exact (Option.some.inj hread).symm

theorem flatten_groups (t : TenantId) : t.groups.flatten = t.digits := by
  have hparts : ∀ ds : List Char, ds = ds.take 8 ++ ((ds.drop 8).take 4 ++ ((ds.drop 12).take 4 ++
      ((ds.drop 16).take 4 ++ ds.drop 20))) := by
    intro ds
    have hlater : ∀ n, ds.drop n = (ds.drop n).take 4 ++ ds.drop (n + 4) := fun n => by
      rw [← List.drop_drop, List.take_append_drop]
    rw [← hlater 16, ← hlater 12, ← hlater 8, List.take_append_drop]
  simpa [groups] using (hparts t.digits).symm

theorem ne_nil_of_mem_groups {t : TenantId} {group : List Char} (h : group ∈ t.groups) :
    group ≠ [] := by
  have hall : ∀ group ∈ t.groups, 0 < group.length := by simp [groups, length_digits]
  exact List.ne_nil_of_length_pos (hall group h)

end TenantId

namespace SchemaName

variable {t t' : TenantId}

/-- A digit of an identifier is a character of a word, and stays in the slug. -/
private theorem word_of_mem_digits {c : Char} (h : c ∈ t.digits) :
    isWordChar c = true ∧ slugPart c = [c] := by
  have hall : ∀ value < 16, isWordChar (Text.hexDigit value) = true ∧
      slugPart (Text.hexDigit value) = [Text.hexDigit value] := by decide
  obtain ⟨value, hvalue, rfl⟩ := Text.exists_of_mem_hexDigits h
  exact hall value hvalue

private theorem words_groups (t : TenantId) :
    ∀ group ∈ t.groups, group ≠ [] ∧ ∀ c ∈ group, isWordChar c = true := by
  refine fun group hgroup => ⟨TenantId.ne_nil_of_mem_groups hgroup, fun c hc => ?_⟩
  have hdigit : c ∈ t.digits := by
    rw [← t.flatten_groups]
    exact List.mem_flatten_of_mem hgroup hc
  exact (word_of_mem_digits hdigit).1

/-- The slug of an identifier is the list of its groups, joined. -/
theorem slugChars_text (t : TenantId) : slugChars t.text.toList = join t.groups := by
  have hkeep : ∀ {part : List Char}, (∀ c ∈ part, c ∈ t.digits) → part.flatMap slugPart = part := by
    intro part hpart
    induction part with
    | nil => rfl
    | cons c rest ih =>
      rw [List.flatMap_cons, (word_of_mem_digits (hpart c List.mem_cons_self)).2,
        ih fun d hd => hpart d (List.mem_cons_of_mem c hd)]
      rfl
  have hhyphen : slugPart '-' = ['_'] := by decide
  have hjoin : t.text.toList.flatMap slugPart = join t.groups := by
    simp only [TenantId.text, TenantId.group, String.toList_ofList, List.flatMap_append,
      List.flatMap_cons, hhyphen, TenantId.groups, join_cons_cons]
    rw [hkeep fun c => List.mem_of_mem_take, hkeep fun c hc => List.mem_of_mem_drop hc,
      hkeep fun c hc => List.mem_of_mem_drop (List.mem_of_mem_take hc),
      hkeep fun c hc => List.mem_of_mem_drop (List.mem_of_mem_take hc),
      hkeep fun c hc => List.mem_of_mem_drop (List.mem_of_mem_take hc)]
    simp [join]
  rw [slugChars_eq_join, wordsOf_lowerChars, hjoin, wordsOf_join (words_groups t)]

/-- Different identifiers have different slugs. -/
theorem slugChars_text_injective (h : slugChars t.text.toList = slugChars t'.text.toList) :
    t = t' := by
  have hgroups : t.groups = t'.groups := by
    rw [← wordsOf_join (words_groups t), ← slugChars_text, h, slugChars_text,
      wordsOf_join (words_groups t')]
  apply TenantId.digits_injective
  rw [← t.flatten_groups, hgroups, t'.flatten_groups]

theorem length_slugChars_text (t : TenantId) : (slugChars t.text.toList).length = 36 := by
  rw [slugChars_text, TenantId.groups]
  simp [join_cons, TenantId.length_digits]

end SchemaName

end Tenancy
