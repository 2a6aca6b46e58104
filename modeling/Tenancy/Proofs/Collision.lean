import Tenancy.Proofs.NameForm

/-!
# Where schema names collide

Two schema names can be the same for different tenants: a slug forgets letter case, punctuation and
what stands behind the cut. They are never the same for different modules, since the four stems
begin with different letters and the cut leaves the stem. They are the same for different tenants
only through display names: the slug of an identifier is short enough to be kept whole, and no digit
of it is lost. And names that are not cut have the same slug.

## Key results

- `stem_injective_of_append`: what begins with two stems begins with one
- `toList_forTenant_of_fits`: a name that needs no cut
- `eq_of_forTenant_eq`: what two names that are the same have in common
-/

namespace Tenancy.SchemaName

variable {m m' : ServiceModule} {t t' : TenantId} {d d' : Option String}

/-- The stems of different modules begin with different letters. -/
theorem stem_injective_of_append {rest rest' : List Char}
    (h : m.schemaStem.toList ++ rest = m'.schemaStem.toList ++ rest') : m = m' := by
  have hfirst : ∀ k k' : ServiceModule,
      k.schemaStem.toList.head? = k'.schemaStem.toList.head? → k = k' := by
    intro k k'
    cases k <;> cases k' <;> decide
  have hne : ∀ k : ServiceModule, k.schemaStem.toList ≠ [] := by
    intro k
    cases k <;> decide
  apply hfirst
  rw [← List.head?_append_of_ne_nil _ (hne m), h, List.head?_append_of_ne_nil _ (hne m')]

/-- A name needs no cut: stem and slug are short enough together. -/
def Fits (m : ServiceModule) (t : TenantId) (d : Option String) : Prop :=
  (String.ofList (m.schemaStem.toList ++ tenantSlug t d)).utf8ByteSize ≤ maxLength

instance : Decidable (Fits m t d) := inferInstanceAs (Decidable (_ ≤ _))

theorem toList_forTenant_of_fits (h : Fits m t d) :
    (forTenant m t d).toList = m.schemaStem.toList ++ tenantSlug t d := by
  rw [Fits, utf8ByteSize_ofList fun c hc => isNameChar_of_mem_whole hc] at h
  rw [forTenant, String.toList_ofList, cut, if_pos h]

/-- Where the display name leaves nothing, the slug is that of the identifier. -/
theorem tenantSlug_of_blank (h : ∀ name ∈ d, slug name = "") :
    tenantSlug t d = slugChars t.text.toList := by
  cases d with
  | none => rfl
  | some name =>
    have hnil : slugChars name.toList = [] := by
      simpa [slug] using congrArg String.toList (h name rfl)
    rw [tenantSlug, Option.map_some, hnil]

/-- The slug of an identifier is short enough behind every stem. -/
theorem fits_of_blank (h : ∀ name ∈ d, slug name = "") : Fits m t d := by
  have hstem : m.schemaStem.toList.length ≤ 5 := by cases m <;> decide
  rw [Fits, utf8ByteSize_ofList fun c hc => isNameChar_of_mem_whole hc, List.length_append,
    tenantSlug_of_blank h, length_slugChars_text, maxLength]
  omega

/-- Two schema names that are the same are for one module. If neither display name leaves anything,
    they are for one tenant. If neither name needs a cut, the slugs are the same. -/
theorem eq_of_forTenant_eq (m m' : ServiceModule) (t t' : TenantId) (d d' : Option String)
    (h : forTenant m t d = forTenant m' t' d') :
    m = m' ∧
      ((∀ name ∈ d, slug name = "") → (∀ name ∈ d', slug name = "") → t = t') ∧
      (Fits m t d → Fits m' t' d' → tenantSlug t d = tenantSlug t' d') := by
  have hmodule : m = m' := by
    obtain ⟨rest, hrest, -⟩ := exists_cut_eq m (tidy_tenantSlug t d) (tenantSlug_ne_nil t d)
    obtain ⟨rest', hrest', -⟩ := exists_cut_eq m' (tidy_tenantSlug t' d') (tenantSlug_ne_nil t' d')
    have hname : m.schemaStem.toList ++ rest = m'.schemaStem.toList ++ rest' := by
      rw [← hrest, ← hrest']
      simpa [forTenant] using congrArg String.toList h
    exact stem_injective_of_append hname
  subst hmodule
  have hslug : Fits m t d → Fits m t' d' → tenantSlug t d = tenantSlug t' d' := by
    intro hfits hfits'
    have hname : m.schemaStem.toList ++ tenantSlug t d = m.schemaStem.toList ++ tenantSlug t' d' := by
      rw [← toList_forTenant_of_fits hfits, h, toList_forTenant_of_fits hfits']
    exact List.append_cancel_left hname
  refine ⟨rfl, fun hblank hblank' => ?_, hslug⟩
  have hsame := hslug (fits_of_blank hblank) (fits_of_blank hblank')
  rw [tenantSlug_of_blank hblank, tenantSlug_of_blank hblank'] at hsame
  exact slugChars_text_injective hsame

/-- Two spellings of a display name collide, with the same slug. Two tenants without a usable one do
    not, nor do two modules. -/
theorem eq_of_forTenant_eq_spellings :
    forTenant .operations ⟨2⟩ (some "Acme & Co.") = forTenant .operations ⟨3⟩ (some "ACME, Co") ∧
      tenantSlug ⟨2⟩ (some "Acme & Co.") = tenantSlug ⟨3⟩ (some "ACME, Co") ∧
      forTenant .operations ⟨2⟩ none ≠ forTenant .operations ⟨3⟩ (some " - ") ∧
      forTenant .hrms ⟨2⟩ (some "Acme") ≠ forTenant .finance ⟨2⟩ (some "Acme") := by
  have hsame : forTenant .operations ⟨2⟩ (some "Acme & Co.") =
      forTenant .operations ⟨3⟩ (some "ACME, Co") := by decide +kernel
  have hslug := (eq_of_forTenant_eq _ _ _ _ _ _ hsame).2.2
  have hblank : ∀ name ∈ some " - ", slug name = "" := by
    rintro name ⟨⟩
    decide +kernel
  refine ⟨hsame, hslug (by decide +kernel) (by decide +kernel), ?_, ?_⟩
  · intro h
    have htenant := (eq_of_forTenant_eq _ _ _ _ _ _ h).2.1 nofun hblank
    exact absurd htenant (by decide)
  · intro h
    exact absurd (eq_of_forTenant_eq _ _ _ _ _ _ h).1 (by decide)

end Tenancy.SchemaName
