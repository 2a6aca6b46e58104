import Mathlib.Data.List.DropRight
import Tenancy.Tenant

/-!
# Trimming

A trimmed text has no white space at either end, so trimming it again changes nothing. The names
that `nonBlank?` gives back are its fixed points: a name read from a column, written to the column
again and read once more is the same name.

## Key results

- `trimChars_trimChars`: trimming is idempotent
- `exists_eq_append_trimChars`: trimming takes away white space only
- `nonBlank?_of_nonBlank?`: what `nonBlank?` gives back is kept by `nonBlank?`
- `nonBlank?_eq_self`: a non-empty text without white space is kept by `nonBlank?`
-/

namespace Tenancy.Text

/-- What `dropEnd` keeps is a beginning of the list. -/
theorem dropEnd_prefix (p : Char → Bool) (cs : List Char) : dropEnd p cs <+: cs :=
  List.rdropWhile_prefix p cs

/-- Dropping at the end brings nothing to the beginning that could be dropped there. -/
private theorem dropWhile_dropEnd_dropWhile (p : Char → Bool) (cs : List Char) :
    (dropEnd p (cs.dropWhile p)).dropWhile p = dropEnd p (cs.dropWhile p) := by
  cases hd : dropEnd p (cs.dropWhile p) with
  | nil => rfl
  | cons c rest =>
    obtain ⟨tail, htail⟩ := dropEnd_prefix p (cs.dropWhile p)
    rw [hd, List.cons_append] at htail
    have hc : p c = false := by
      have hnot := List.head?_dropWhile_not p cs
      rw [← htail] at hnot
      simpa using hnot
    simp [hc]

/-- Trimming is idempotent. -/
theorem trimChars_trimChars (cs : List Char) : trimChars (trimChars cs) = trimChars cs := by
  unfold trimChars
  rw [dropWhile_dropEnd_dropWhile]
  exact List.rdropWhile_idempotent isBlank (cs.dropWhile isBlank)

/-- Trimming takes away white space on both sides. -/
theorem exists_eq_append_trimChars (cs : List Char) :
    ∃ before after, cs = before ++ trimChars cs ++ after ∧ (∀ c ∈ before, isBlank c = true) ∧
      ∀ c ∈ after, isBlank c = true := by
  have hfront := List.takeWhile_append_dropWhile (p := isBlank) (l := cs)
  have hback := List.rdropWhile_append_rtakeWhile (p := isBlank) (l := cs.dropWhile isBlank)
  refine ⟨cs.takeWhile isBlank, (cs.dropWhile isBlank).rtakeWhile isBlank, ?_,
    fun c hc => List.mem_takeWhile_imp hc, fun c hc => List.mem_rtakeWhile_imp hc⟩
  rw [List.append_assoc, trimChars]
  exact hfront.symm.trans (congrArg _ hback.symm)

theorem trim_trim (s : String) : trim (trim s) = trim s := by
  simp only [trim, String.toList_ofList, trimChars_trimChars]

/-- A text without white space is trimmed. -/
theorem trimChars_eq_self {cs : List Char} (h : ∀ c ∈ cs, isBlank c = false) :
    trimChars cs = cs := by
  have hfront : cs.dropWhile isBlank = cs := by
    rw [List.dropWhile_eq_self_iff]
    intro hl
    simp [h _ (List.getElem_mem hl)]
  have hback : cs.rdropWhile isBlank = cs := by
    rw [List.rdropWhile_eq_self_iff]
    intro hl
    simp [h _ (List.getLast_mem hl)]
  rw [trimChars, hfront]
  exact hback

/-- What `nonBlank?` gives back is trimmed and not blank, so `nonBlank?` keeps it. -/
theorem nonBlank?_of_nonBlank? {s t : String} (h : nonBlank? s = some t) :
    nonBlank? t = some t := by
  rw [nonBlank?_eq_some_iff] at h ⊢
  obtain ⟨htrim, hne⟩ := h
  exact ⟨by rw [← htrim, trim_trim], hne⟩

/-- A non-empty text without white space is kept by `nonBlank?`. -/
theorem nonBlank?_eq_self {s : String} (hne : s ≠ "") (h : ∀ c ∈ s.toList, isBlank c = false) :
    nonBlank? s = some s := by
  rw [nonBlank?_eq_some_iff]
  refine ⟨?_, hne⟩
  rw [trim, trimChars_eq_self h, String.ofList_toList]

end Tenancy.Text

namespace Tenancy.ModuleSchemas

/-- A module's schema is kept by `nonBlank?`: it is read from the column trimmed. -/
theorem nonBlank?_get {s : ModuleSchemas} {m : ServiceModule} {name : String}
    (h : s.get m = some name) : Text.nonBlank? name = some name := by
  obtain ⟨raw, -, hraw⟩ := Option.bind_eq_some_iff.mp h
  exact Text.nonBlank?_of_nonBlank? hraw

/-- The schema read after a column was written is the text that was written, trimmed. -/
theorem get_set_self (s : ModuleSchemas) (m : ServiceModule) (schema : String) :
    (s.set m schema).get m = Text.nonBlank? schema := by
  simp [get]

/-- Writing one module's column leaves the schemas of the others. -/
theorem get_set_of_ne (s : ModuleSchemas) {m k : ServiceModule} (schema : String) (h : k ≠ m) :
    (s.set m schema).get k = s.get k := by
  simp [get, column_set_of_ne s schema h]

end Tenancy.ModuleSchemas
