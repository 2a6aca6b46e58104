import Tenancy.Proofs.Trim
import Tenancy.Provisioning

/-!
# Characters of schema names

A derived schema name is made of lower-case letters, digits and underscores, and it is not empty
since its stem begins with a letter. So it is a name as the registry holds it: reading it back from
a column gives it unchanged.

## Key results

- `isNameChar_of_mem_forTenant`: which characters a derived name has
- `nonBlank?_forTenant`: a derived name is read back unchanged
- `nonBlank?_schemaFor`: so is the schema of every attempt
-/

namespace Tenancy.SchemaName

/-- The characters of a schema name. -/
def isNameChar (c : Char) : Bool := isWordChar c || c == '_'

theorem isNameChar_of_mem_replaceOthers {cs : List Char} {c : Char} (h : c ∈ replaceOthers cs) :
    isNameChar c = true := by
  obtain ⟨d, -, rfl⟩ := List.mem_map.mp h
  split <;> simp_all [isNameChar]

theorem mem_of_mem_collapse {cs : List Char} {c : Char} (h : c ∈ collapse cs) : c ∈ cs := by
  induction cs with
  | nil => exact h
  | cons d rest ih =>
    rw [collapse] at h
    split at h
    · exact List.mem_cons_of_mem _ (ih h)
    · cases List.mem_cons.mp h with
      | inl heq => exact heq ▸ List.mem_cons_self
      | inr hmem => exact List.mem_cons_of_mem _ (ih hmem)

theorem mem_of_mem_trimUnderscores {cs : List Char} {c : Char} (h : c ∈ trimUnderscores cs) :
    c ∈ cs :=
  (List.dropWhile_sublist _).mem ((Text.dropEnd_prefix _ _).mem h)

theorem isNameChar_of_mem_slugChars {cs : List Char} {c : Char} (h : c ∈ slugChars cs) :
    isNameChar c = true :=
  isNameChar_of_mem_replaceOthers (mem_of_mem_collapse (mem_of_mem_trimUnderscores h))

theorem isNameChar_of_mem_tenantSlug {t : TenantId} {d : Option String} {c : Char}
    (h : c ∈ tenantSlug t d) : isNameChar c = true := by
  unfold tenantSlug at h
  split at h
  · next head rest hslug =>
    obtain ⟨name, -, hname⟩ := Option.map_eq_some_iff.mp hslug
    exact isNameChar_of_mem_slugChars (hname ▸ h)
  · exact isNameChar_of_mem_slugChars h

theorem mem_of_mem_cut {cs : List Char} {c : Char} (h : c ∈ cut cs) : c ∈ cs := by
  unfold cut at h
  split at h
  · exact h
  · exact List.mem_of_mem_take ((Text.dropEnd_prefix _ _).mem h)

theorem isNameChar_of_mem_stem {m : ServiceModule} {c : Char} (h : c ∈ m.schemaStem.toList) :
    isNameChar c = true := by
  have hall : m.schemaStem.toList.all isNameChar = true := by cases m <;> decide
  exact List.all_eq_true.mp hall c h

/-- A derived name is made of lower-case letters, digits and underscores. -/
theorem isNameChar_of_mem_forTenant {m : ServiceModule} {t : TenantId} {d : Option String}
    {c : Char} (h : c ∈ (forTenant m t d).toList) : isNameChar c = true := by
  rw [forTenant, String.toList_ofList] at h
  cases List.mem_append.mp (mem_of_mem_cut h) with
  | inl hstem => exact isNameChar_of_mem_stem hstem
  | inr hslug => exact isNameChar_of_mem_tenantSlug hslug

/-- Every stem begins with a letter. -/
theorem stem_eq_cons (m : ServiceModule) :
    ∃ c rest, m.schemaStem.toList = c :: rest ∧ c ≠ '_' := by
  cases m <;> exact ⟨_, _, rfl, by decide⟩

/-- A cut keeps the first character unless it is an underscore. -/
theorem cut_cons_ne_nil {c : Char} (h : c ≠ '_') (rest : List Char) : cut (c :: rest) ≠ [] := by
  unfold cut
  split
  · exact List.cons_ne_nil c rest
  · intro hnil
    have hall := List.rdropWhile_eq_nil_iff.mp hnil
    have hc := hall c (by simp [maxLength])
    exact h (by simpa using hc)

theorem forTenant_ne_empty (m : ServiceModule) (t : TenantId) (d : Option String) :
    forTenant m t d ≠ "" := by
  obtain ⟨c, rest, hstem, hc⟩ := stem_eq_cons m
  intro hempty
  have hnil : cut (m.schemaStem.toList ++ tenantSlug t d) = [] := by
    simpa [forTenant] using congrArg String.toList hempty
  rw [hstem, List.cons_append] at hnil
  exact cut_cons_ne_nil hc _ hnil

/-- The characters of a schema name are an underscore, digits and lower-case letters of ASCII. -/
theorem toNat_of_isNameChar {c : Char} (h : isNameChar c = true) :
    c.toNat = 0x5F ∨ (0x30 ≤ c.toNat ∧ c.toNat ≤ 0x39) ∨ (0x61 ≤ c.toNat ∧ c.toNat ≤ 0x7A) := by
  simp only [isNameChar, isWordChar, Char.isDigit, Bool.or_eq_true, Bool.and_eq_true,
    decide_eq_true_eq, beq_iff_eq, ge_iff_le, Char.le_def, UInt32.le_iff_toNat_le] at h
  rcases h with (⟨hlow, hhigh⟩ | ⟨hlow, hhigh⟩) | rfl
  · exact .inr (.inr ⟨hlow, hhigh⟩)
  · exact .inr (.inl ⟨hlow, hhigh⟩)
  · exact .inl rfl

/-- No character of a schema name is white space. -/
theorem isBlank_eq_false_of_isNameChar {c : Char} (h : isNameChar c = true) :
    Text.isBlank c = false := by
  have hrange := toNat_of_isNameChar h
  simp only [Text.isBlank, Bool.or_eq_false_iff, Bool.and_eq_false_iff, decide_eq_false_iff_not,
    beq_eq_false_iff_ne, ne_eq]
  omega

/-- A derived name is read back from a column unchanged. -/
theorem nonBlank?_forTenant (m : ServiceModule) (t : TenantId) (d : Option String) :
    Text.nonBlank? (forTenant m t d) = some (forTenant m t d) :=
  Text.nonBlank?_eq_self (forTenant_ne_empty m t d) fun _ h =>
    isBlank_eq_false_of_isNameChar (isNameChar_of_mem_forTenant h)

end Tenancy.SchemaName

namespace Tenancy.Provisioning

variable {m : ServiceModule} {record : TenantRecord}

/-- A registered name is used again. -/
theorem schemaFor_of_get {name : String} (h : record.schemas.get m = some name) (t : TenantId)
    (displayName : Option String) : schemaFor m record t displayName = name := by
  rw [schemaFor, h, Option.getD_some]

/-- The schema of an attempt is read back from a column unchanged. -/
theorem nonBlank?_schemaFor (m : ServiceModule) (record : TenantRecord) (t : TenantId)
    (displayName : Option String) :
    Text.nonBlank? (schemaFor m record t displayName) =
      some (schemaFor m record t displayName) := by
  unfold schemaFor
  cases hget : record.schemas.get m with
  | none => exact SchemaName.nonBlank?_forTenant m t displayName
  | some name => exact ModuleSchemas.nonBlank?_get hget

end Tenancy.Provisioning
