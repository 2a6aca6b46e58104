import Mathlib.Data.List.Chain
import Tenancy.Proofs.AsciiText
import Tenancy.Proofs.WrittenId

/-!
# The form of schema names

A schema name is the stem of its module and a slug behind it, cut to what the database keeps. The
slug is a list of words joined by single underscores (`slugChars_eq_join`), so it is tidy: it has no
underscore at either end and no two side by side. The stem ends with an underscore and the slug
begins with none, so nothing comes together at the join. A cut leaves at most one underscore at the
end, which is dropped, and every beginning of the slug with a character of a word at its end is tidy
again.

Storage counts bytes and not characters. All characters of a name are one byte long, so a cut by
bytes never falls inside a character and is the cut by characters.

## Key results

- `tidy_tenantSlug`, `tenantSlug_ne_nil`: the slug that a name is made from
- `exists_cut_eq`: what stands behind the stem after the cut
- `prefix_cut`: the cut keeps as much as it can
- `cutBytes?_eq`: the cut by bytes
- `forTenant_form`: all of it, for every module, tenant and display name
-/

namespace Tenancy

namespace Text

/-- Dropping at the end keeps every beginning that ends with a character that is kept. -/
theorem prefix_dropEnd {p : Char → Bool} {kept cs : List Char} (hkept : kept <+: cs)
    (hlast : ∀ c ∈ kept.getLast?, p c = false) : kept <+: dropEnd p cs := by
  have hfront : dropEnd p cs <+: cs := dropEnd_prefix p cs
  by_cases hle : kept.length ≤ (dropEnd p cs).length
  · exact List.prefix_of_prefix_length_le hkept hfront hle
  · -- a longer beginning ends with one of the characters that are dropped
    exfalso
    have hlt : (dropEnd p cs).length ≤ kept.length := by omega
    obtain ⟨more, hmore⟩ := List.prefix_of_prefix_length_le hfront hkept hlt
    have hne : more ≠ [] := by
      rintro rfl
      rw [← hmore, List.append_nil] at hle
      exact hle (Nat.le_refl _)
    have hdropped : more <+: cs.rtakeWhile p := by
      have hall : dropEnd p cs ++ cs.rtakeWhile p = cs := List.rdropWhile_append_rtakeWhile
      refine (List.prefix_append_right_inj (dropEnd p cs)).mp ?_
      rw [hmore, hall]
      exact hkept
    have hend : kept.getLast? = some (more.getLast hne) := by
      rw [← hmore, List.getLast?_append_of_ne_nil _ hne, List.getLast?_eq_some_getLast hne]
    have hp : p (more.getLast hne) = true :=
      List.mem_rtakeWhile_imp (hdropped.mem (List.getLast_mem hne))
    rw [hlast _ hend] at hp
    cases hp

theorem getLast?_dropEnd {p : Char → Bool} {cs : List Char} {c : Char}
    (h : c ∈ (dropEnd p cs).getLast?) : p c = false := by
  have hne : dropEnd p cs ≠ [] := by
    intro hnil
    rw [hnil] at h
    cases h
  have hlast := List.rdropWhile_last_not p cs hne
  rw [List.getLast?_eq_some_getLast hne] at h
  obtain rfl := Option.some.inj h
  exact eq_false_of_ne_true hlast

end Text

namespace SchemaName

variable {c : Char} {cs as bs kept : List Char} {words : List (List Char)} {m : ServiceModule}
  {t : TenantId} {d : Option String}

/-! ## Tidy slugs -/

/-- A text without an underscore at either end and without two side by side. -/
structure Tidy (cs : List Char) : Prop where
  head : cs.head? ≠ some '_'
  last : cs.getLast? ≠ some '_'
  spaced : cs.IsChain fun a b => ¬(a = '_' ∧ b = '_')

theorem tidy_of_word (h : ∀ c ∈ cs, isWordChar c = true) : Tidy cs := by
  have hne : '_' ∉ cs := fun hmem => absurd (h _ hmem) (by decide)
  refine ⟨fun hhead => hne (List.mem_of_head? hhead), fun hlast => hne (List.mem_of_getLast? hlast), ?_⟩
  refine (List.pairwise_of_forall_mem_list fun a ha b _ => ?_).isChain
  rintro ⟨rfl, -⟩
  exact hne ha

theorem Tidy.append (has : Tidy as) (hne : as ≠ []) (hbs : Tidy bs) (hne' : bs ≠ []) :
    Tidy (as ++ '_' :: bs) where
  head := by
    rw [List.head?_append_of_ne_nil _ hne]
    exact has.head
  last := by
    rw [List.getLast?_append_of_ne_nil _ (List.cons_ne_nil _ _), List.getLast?_cons_of_ne_nil hne']
    exact hbs.last
  spaced := by
    have hbehind : ('_' :: bs).IsChain fun a b => ¬(a = '_' ∧ b = '_') :=
      List.isChain_cons.mpr ⟨fun b hb hboth => hbs.head (hboth.2 ▸ hb), hbs.spaced⟩
    refine List.isChain_append.mpr ⟨has.spaced, hbehind, fun a ha b _ hboth => ?_⟩
    exact has.last (hboth.1 ▸ ha)

theorem join_ne_nil (hne : words ≠ []) (h : ∀ word ∈ words, word ≠ []) : join words ≠ [] := by
  cases words with
  | nil => exact absurd rfl hne
  | cons word words =>
    rw [join_cons]
    exact List.append_ne_nil_of_left_ne_nil (h word List.mem_cons_self) _

/-- Joined words are tidy. -/
theorem tidy_join (h : ∀ word ∈ words, word ≠ [] ∧ ∀ c ∈ word, isWordChar c = true) :
    Tidy (join words) := by
  induction words with
  | nil => exact tidy_of_word nofun
  | cons word words ih =>
    obtain ⟨hne, hword⟩ := h word List.mem_cons_self
    have hrest : ∀ w ∈ words, w ≠ [] ∧ ∀ c ∈ w, isWordChar c = true :=
      fun w hw => h w (List.mem_cons_of_mem _ hw)
    cases words with
    | nil =>
      have halone : join [word] = word := by simp [join]
      rw [halone]
      exact tidy_of_word hword
    | cons next words =>
      rw [join_cons_cons]
      exact (tidy_of_word hword).append hne (ih hrest)
        (join_ne_nil (List.cons_ne_nil _ _) fun w hw => (hrest w hw).1)

theorem tidy_slugChars (cs : List Char) : Tidy (slugChars cs) := by
  rw [slugChars_eq_join]
  exact tidy_join fun _ hword => of_mem_wordsOf hword

theorem tidy_tenantSlug (t : TenantId) (d : Option String) : Tidy (tenantSlug t d) := by
  unfold tenantSlug
  split
  · next hslug =>
    obtain ⟨name, -, hname⟩ := Option.map_eq_some_iff.mp hslug
    exact hname ▸ tidy_slugChars name.toList
  · exact tidy_slugChars _

/-- An identifier has digits, so there is something left of it. -/
theorem slugChars_text_ne_nil (t : TenantId) : slugChars t.text.toList ≠ [] := by
  rw [slugChars_text]
  exact join_ne_nil (List.cons_ne_nil _ _) fun _ h => TenantId.ne_nil_of_mem_groups h

theorem tenantSlug_ne_nil (t : TenantId) (d : Option String) : tenantSlug t d ≠ [] := by
  unfold tenantSlug
  split
  · exact List.cons_ne_nil _ _
  · exact slugChars_text_ne_nil t

/-! ## The cut -/

theorem cut_begins (cs : List Char) : cut cs <+: cs := by
  unfold cut
  split
  · exact List.prefix_refl cs
  · have hfront := Text.dropEnd_prefix (fun c => c == '_') (cs.take maxLength)
    exact hfront.trans (List.take_prefix maxLength cs)

theorem length_cut_le (cs : List Char) : (cut cs).length ≤ maxLength := by
  unfold cut
  split
  · assumption
  · have hfront := Text.dropEnd_prefix (fun c => c == '_') (cs.take maxLength)
    exact hfront.length_le.trans (List.length_take_le maxLength cs)

/-- A cut keeps every beginning that is short enough and does not end with an underscore. -/
theorem prefix_cut (hkept : kept <+: cs) (hlength : kept.length ≤ maxLength)
    (hlast : kept.getLast? ≠ some '_') : kept <+: cut cs := by
  unfold cut
  split
  · exact hkept
  · refine Text.prefix_dropEnd (List.prefix_take_iff.mpr ⟨hkept, hlength⟩) fun c hc => ?_
    have hne : c ≠ '_' := fun heq => hlast (heq ▸ hc)
    simpa using hne

theorem getLast?_cut (hlast : cs.getLast? ≠ some '_') : (cut cs).getLast? ≠ some '_' := by
  unfold cut
  split
  · exact hlast
  · intro hend
    have hfalse := Text.getLast?_dropEnd hend
    simp at hfalse

private theorem length_stem_lt (m : ServiceModule) : m.schemaStem.toList.length < maxLength := by
  cases m <;> decide

/-- Behind the stem stands a beginning of the slug that is tidy. -/
theorem exists_cut_eq (m : ServiceModule) {slug : List Char} (hslug : Tidy slug) (hne : slug ≠ []) :
    ∃ rest, cut (m.schemaStem.toList ++ slug) = m.schemaStem.toList ++ rest ∧ rest ≠ [] ∧
      rest <+: slug ∧ Tidy rest := by
  obtain ⟨c, more, rfl⟩ := List.exists_cons_of_ne_nil hne
  have hc : c ≠ '_' := fun heq => hslug.head (heq ▸ rfl)
  -- the first character of the slug is within the length, and stays
  have hfirst : m.schemaStem.toList ++ [c] <+: cut (m.schemaStem.toList ++ c :: more) := by
    refine prefix_cut ?_ ?_ ?_
    · exact (List.prefix_append_right_inj _).mpr ⟨more, rfl⟩
    · have hlt := length_stem_lt m
      simp only [List.length_append, List.length_cons, List.length_nil]
      omega
    · simpa using hc
  obtain ⟨tail, htail⟩ := hfirst
  rw [List.append_assoc, List.singleton_append] at htail
  have hbegins : c :: tail <+: c :: more := by
    have hcut := cut_begins (m.schemaStem.toList ++ c :: more)
    rw [← htail] at hcut
    exact (List.prefix_append_right_inj _).mp hcut
  refine ⟨c :: tail, htail.symm, List.cons_ne_nil c tail, hbegins, ?_, ?_, ?_⟩
  · simpa using hc
  · have hend : (m.schemaStem.toList ++ c :: more).getLast? ≠ some '_' := by
      rw [List.getLast?_append_of_ne_nil _ hne]
      exact hslug.last
    have hcut := getLast?_cut hend
    rw [← htail] at hcut
    rwa [List.getLast?_append_of_ne_nil _ (List.cons_ne_nil c tail)] at hcut
  · exact hslug.spaced.prefix hbegins

/-- Stem and slug do not bring underscores together. -/
theorem spaced_append (m : ServiceModule) (hslug : Tidy cs) :
    (m.schemaStem.toList ++ cs).IsChain fun a b => ¬(a = '_' ∧ b = '_') := by
  have hstem : m.schemaStem.toList.IsChain fun a b => ¬(a = '_' ∧ b = '_') := by
    cases m <;> decide
  refine List.isChain_append.mpr ⟨hstem, hslug.spaced, fun a _ b hb hboth => ?_⟩
  exact hslug.head (hboth.2 ▸ hb)

/-! ## Bytes -/

/-- A name cut by bytes, as storage counts them, and then without underscores at its end. Nothing
    comes of a cut that falls inside a character. -/
def cutBytes? (s : String) : Option String :=
  if s.utf8ByteSize ≤ maxLength then some s
  else (String.fromUTF8? (s.toUTF8.extract 0 maxLength)).map fun kept =>
    String.ofList (Text.dropEnd (· == '_') kept.toList)

theorem utf8ByteSize_ofList (h : ∀ c ∈ cs, isNameChar c = true) :
    (String.ofList cs).utf8ByteSize = cs.length := by
  refine Text.utf8ByteSize_ofList_ascii fun c hc => ?_
  have hrange := toNat_of_isNameChar (h c hc)
  omega

/-- The bytes of a beginning of a text are a text. -/
private theorem fromUTF8?_extract (s rest : String) :
    String.fromUTF8? ((s ++ rest).toUTF8.extract 0 s.utf8ByteSize) = some s := by
  have hbytes : (s ++ rest).toUTF8.extract 0 s.utf8ByteSize = s.toByteArray := by
    rw [String.toUTF8, String.toByteArray_append]
    exact ByteArray.extract_append_eq_left rfl
  rw [hbytes, String.fromUTF8?, dif_pos s.isValidUTF8]
  rfl

/-- The cut by bytes falls on the end of a character, and is the cut by characters. -/
theorem cutBytes?_eq (h : ∀ c ∈ cs, isNameChar c = true) :
    cutBytes? (String.ofList cs) = some (String.ofList (cut cs)) := by
  rw [cutBytes?, cut, utf8ByteSize_ofList h]
  by_cases hle : cs.length ≤ maxLength
  · rw [if_pos hle, if_pos hle]
  · have hsize : (String.ofList (cs.take maxLength)).utf8ByteSize = maxLength := by
      rw [utf8ByteSize_ofList fun c hc => h c (List.mem_of_mem_take hc), List.length_take]
      omega
    have hparts : String.ofList cs =
        String.ofList (cs.take maxLength) ++ String.ofList (cs.drop maxLength) := by
      rw [← String.ofList_append, List.take_append_drop]
    have hkept := fromUTF8?_extract (String.ofList (cs.take maxLength))
      (String.ofList (cs.drop maxLength))
    rw [hsize, ← hparts] at hkept
    rw [if_neg hle, if_neg hle, hkept, Option.map_some, String.toList_ofList]

/-! ## Names -/

theorem isNameChar_of_mem_whole (hc : c ∈ m.schemaStem.toList ++ tenantSlug t d) :
    isNameChar c = true := by
  cases List.mem_append.mp hc with
  | inl hstem => exact isNameChar_of_mem_stem hstem
  | inr hslug => exact isNameChar_of_mem_tenantSlug hslug

/-- For every module, tenant and display name there is a schema name, which storage cuts by bytes
    where it cuts it at all. Behind the stem of the module it is not empty, it has lower-case letters,
    digits and underscores of ASCII only, and it begins and ends with none of the underscores. It has
    at most 63 bytes and no two underscores side by side. Where the stem and the slug are longer, it
    is the longest beginning of both that is short enough and does not end with an underscore. -/
theorem forTenant_form (m : ServiceModule) (t : TenantId) (d : Option String) :
    let whole := String.ofList (m.schemaStem.toList ++ tenantSlug t d)
    let name := forTenant m t d
    cutBytes? whole = some name ∧
      (∃ rest, name.toList = m.schemaStem.toList ++ rest ∧ rest ≠ [] ∧
        (∀ c ∈ rest, isNameChar c = true) ∧ rest.head? ≠ some '_' ∧ rest.getLast? ≠ some '_') ∧
      name.utf8ByteSize ≤ maxLength ∧ ¬['_', '_'] <:+: name.toList ∧
      (whole.utf8ByteSize ≤ maxLength → name = whole) ∧
      (maxLength < whole.utf8ByteSize →
        name.toList <+: whole.toList ∧ name.toList.getLast? ≠ some '_' ∧
          ∀ kept, kept <+: whole.toList → (String.ofList kept).utf8ByteSize ≤ maxLength →
            kept.getLast? ≠ some '_' → kept <+: name.toList) := by
  intro whole name
  have hslug := tidy_tenantSlug t d
  have hne := tenantSlug_ne_nil t d
  have hchars : ∀ c ∈ m.schemaStem.toList ++ tenantSlug t d, isNameChar c = true :=
    fun c hc => isNameChar_of_mem_whole hc
  have hname : name.toList = cut (m.schemaStem.toList ++ tenantSlug t d) := String.toList_ofList
  have hwhole : whole.toList = m.schemaStem.toList ++ tenantSlug t d := String.toList_ofList
  have hkept : ∀ {kept : List Char}, kept <+: whole.toList →
      (String.ofList kept).utf8ByteSize = kept.length := by
    intro kept hbegins
    refine utf8ByteSize_ofList fun c hc => hchars c ?_
    rw [← hwhole]
    exact hbegins.mem hc
  obtain ⟨rest, hcut, hrest, hbeginning, htidy⟩ := exists_cut_eq m hslug hne
  have hbegins : name.toList <+: whole.toList := by
    rw [hname, hwhole]
    exact cut_begins _
  have hend : (m.schemaStem.toList ++ tenantSlug t d).getLast? ≠ some '_' := by
    rw [List.getLast?_append_of_ne_nil _ hne]
    exact hslug.last
  refine ⟨cutBytes?_eq hchars, ⟨rest, hname.trans hcut, hrest, fun c hc => ?_, htidy.head,
    htidy.last⟩, ?_, ?_, fun hle => ?_, fun _ => ⟨hbegins, ?_, fun kept hkeep hlength hlast => ?_⟩⟩
  · exact isNameChar_of_mem_tenantSlug (hbeginning.mem hc)
  · have hsize := hkept hbegins
    rw [String.ofList_toList] at hsize
    rw [hsize, hname]
    exact length_cut_le _
  · intro hpair
    rw [hname, hcut] at hpair
    have hchain := List.IsChain.infix (spaced_append m htidy) hpair
    exact List.isChain_pair.mp hchain ⟨rfl, rfl⟩
  · have hlength : (m.schemaStem.toList ++ tenantSlug t d).length ≤ maxLength := by
      rwa [← utf8ByteSize_ofList hchars]
    exact congrArg String.ofList (if_pos hlength)
  · rw [hname]
    exact getLast?_cut hend
  · rw [hname]
    rw [hkept hkeep] at hlength
    exact prefix_cut (hwhole ▸ hkeep) hlength hlast

/-- A name whose cut falls behind an underscore: that one goes too, and no longer beginning would
    do. -/
theorem forTenant_form_long :
    let displayName := String.ofList (List.replicate 58 'A') ++ " İnc."
    let whole := ServiceModule.operations.schemaStem.toList ++ tenantSlug ⟨3⟩ (some displayName)
    maxLength < (String.ofList whole).utf8ByteSize ∧
      forTenant .operations ⟨3⟩ (some displayName) =
        "ops_" ++ String.ofList (List.replicate 58 'a') ∧
      ∀ kept, kept <+: whole → (String.ofList kept).utf8ByteSize ≤ maxLength →
        kept.getLast? ≠ some '_' → kept.length ≤ 62 := by
  intro displayName whole
  have hlong : maxLength < (String.ofList whole).utf8ByteSize := by decide +kernel
  have hname : forTenant .operations ⟨3⟩ (some displayName) =
      "ops_" ++ String.ofList (List.replicate 58 'a') := by decide +kernel
  obtain ⟨-, -, -, -, -, hlongest⟩ := forTenant_form .operations ⟨3⟩ (some displayName)
  refine ⟨hlong, hname, fun kept hkept hsize hlast => ?_⟩
  have hwhole : (String.ofList whole).toList = whole := String.toList_ofList
  have hbegins := (hlongest hlong).2.2 kept (hwhole.symm ▸ hkept) hsize hlast
  rw [hname] at hbegins
  exact hbegins.length_le.trans (by decide)

end SchemaName

end Tenancy
