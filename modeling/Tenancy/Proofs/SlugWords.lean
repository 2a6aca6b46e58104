import Tenancy.Proofs.ModuleName
import Tenancy.Proofs.SchemaName

/-!
# Slugs as lists of words

A slug is made in three passes over the lower-cased text: what belongs to no word becomes an
underscore, runs of underscores become one, and those at the ends go. The result is the list of the
words, that is of the maximal runs of `a` to `z` and `0` to `9`, joined by single underscores.

White space is trimmed before the text is lower-cased. That changes how a capital sigma at the end
is lower-cased, but no lower-case sigma is a character of a word, and lower-casing takes each other
character by itself. So what a character leaves in a slug does not depend on its surroundings
(`replaceOthers_lowerCharsFrom`), and the words can be read off the untrimmed text.

## Key results

- `wordsOf_cons_of_word`, `wordsOf_cons_of_not`: the words of a text are its maximal runs
- `trimUnderscores_collapse`: the three passes leave the joined words
- `wordsOf_lowerChars_trimChars`: trimming first does not change the words
- `wordsOf_join`: joined words have these words again
- `slug_eq_join`: the slug of a text, and what follows
-/

namespace Tenancy.SchemaName

variable {c : Char} {cs before after : List Char} {words : List (List Char)}

/-- Words joined by single underscores. -/
def join (words : List (List Char)) : List Char := ['_'].intercalate words

theorem join_cons_cons (word next : List Char) (words : List (List Char)) :
    join (word :: next :: words) = word ++ '_' :: join (next :: words) := by
  simp [join, List.intercalate_cons_cons]

theorem join_cons (word : List Char) (words : List (List Char)) :
    join (word :: words) = word ++ words.flatMap ('_' :: ·) := by
  induction words generalizing word with
  | nil => simp [join]
  | cons next words ih => rw [join_cons_cons, ih next, List.flatMap_cons, List.cons_append]

/-! ## Words -/

/-- A word that has begun goes on to the end of its run. -/
private theorem wordsFrom_eq {word : List Char} (hword : word ≠ []) (cs : List Char) :
    wordsFrom word cs =
      (word.reverse ++ cs.takeWhile isWordChar) :: wordsOf (cs.dropWhile isWordChar) := by
  induction cs generalizing word with
  | nil => simp [wordsFrom, wordsOf, hword]
  | cons c rest ih =>
    by_cases hc : isWordChar c = true
    · simp [wordsFrom, hc, ih]
    · simp [wordsFrom, wordsOf, hc, hword]

theorem wordsOf_cons_of_word (hc : isWordChar c = true) (cs : List Char) :
    wordsOf (c :: cs) = (c :: cs.takeWhile isWordChar) :: wordsOf (cs.dropWhile isWordChar) := by
  have hstep : wordsOf (c :: cs) = wordsFrom [c] cs := by simp [wordsOf, wordsFrom, hc]
  rw [hstep, wordsFrom_eq (List.cons_ne_nil c [])]
  rfl

theorem wordsOf_cons_of_not (hc : isWordChar c = false) (cs : List Char) :
    wordsOf (c :: cs) = wordsOf cs := by
  simp [wordsOf, wordsFrom, hc]

/-- A character in front of a word belongs to it. -/
private theorem wordsOf_cons_cons {d : Char} (hc : isWordChar c = true) (hd : isWordChar d = true)
    (cs : List Char) : ∃ word words, wordsOf (d :: cs) = word :: words ∧
      wordsOf (c :: d :: cs) = (c :: word) :: words := by
  refine ⟨_, _, wordsOf_cons_of_word hd cs, ?_⟩
  rw [wordsOf_cons_of_word hc, List.takeWhile_cons_of_pos hd, List.dropWhile_cons_of_pos hd]

/-- Words are not empty, and have characters of words only. -/
theorem of_mem_wordsOf {word : List Char} (h : word ∈ wordsOf cs) :
    word ≠ [] ∧ ∀ c ∈ word, isWordChar c = true := by
  -- what follows the first word is shorter than the text
  induction hn : cs.length using Nat.strong_induction_on generalizing cs with
  | _ n ih =>
    cases cs with
    | nil => simp [wordsOf, wordsFrom] at h
    | cons c rest =>
      by_cases hc : isWordChar c = true
      · have hshorter : (rest.dropWhile isWordChar).length < n := by
          have hle := (List.dropWhile_suffix isWordChar (l := rest)).length_le
          simp only [List.length_cons] at hn
          omega
        rw [wordsOf_cons_of_word hc] at h
        cases List.mem_cons.mp h with
        | inl hfirst =>
          subst hfirst
          refine ⟨List.cons_ne_nil _ _, fun d hd => ?_⟩
          cases List.mem_cons.mp hd with
          | inl heq => exact heq ▸ hc
          | inr hmem => exact List.mem_takeWhile_imp hmem
        | inr hlater => exact ih _ hshorter hlater rfl
      · have hshorter : rest.length < n := by simp [← hn]
        rw [wordsOf_cons_of_not (by simpa using hc)] at h
        exact ih _ hshorter h rfl

/-! ## The three passes -/

private theorem dropEnd_cons_of_ne_nil {p : Char → Bool} (h : Text.dropEnd p cs ≠ []) :
    Text.dropEnd p (c :: cs) = c :: Text.dropEnd p cs := by
  have hne : cs.reverse.dropWhile p ≠ [] := by simpa [Text.dropEnd] using h
  simp [Text.dropEnd, List.dropWhile_append, hne]

private theorem dropEnd_cons_of_not {p : Char → Bool} (hc : p c = false) :
    Text.dropEnd p (c :: cs) = c :: Text.dropEnd p cs := by
  by_cases h : Text.dropEnd p cs = []
  · have hnil : cs.reverse.dropWhile p = [] := by simpa [Text.dropEnd] using h
    simp [Text.dropEnd, List.dropWhile_append, hnil, hc]
  · exact dropEnd_cons_of_ne_nil h

private theorem ne_underscore_of_word (hc : isWordChar c = true) : c ≠ '_' := by
  rintro rfl
  exact absurd hc (by decide)

/-- After the second pass and the trimming at the end: the joined words, behind an underscore where
    the text does not begin with a word. -/
private theorem dropEnd_collapse (cs : List Char) :
    Text.dropEnd (· == '_') (collapse (replaceOthers cs)) =
      if cs.head?.any isWordChar then join (wordsOf cs) else (wordsOf cs).flatMap ('_' :: ·) := by
  induction cs with
  | nil => rfl
  | cons c rest ih =>
    by_cases hc : isWordChar c = true
    · -- a character of a word is kept, and what follows it is known
      have hne := ne_underscore_of_word hc
      have hkeep : Text.dropEnd (· == '_') (collapse (replaceOthers (c :: rest))) =
          c :: Text.dropEnd (· == '_') (collapse (replaceOthers rest)) := by
        rw [← dropEnd_cons_of_not (by simpa using hne)]
        simp [replaceOthers, collapse, hc, hne]
      rw [hkeep, ih]
      cases rest with
      | nil => simp [wordsOf, wordsFrom, hc, join]
      | cons d rest =>
        by_cases hd : isWordChar d = true
        · obtain ⟨word, words, hrest, hall⟩ := wordsOf_cons_cons hc hd rest
          simp [hc, hd, hrest, hall, join_cons]
        · have halone : wordsOf (c :: d :: rest) = [c] :: wordsOf (d :: rest) := by
            rw [wordsOf_cons_of_word hc, List.takeWhile_cons_of_neg hd,
              List.dropWhile_cons_of_neg hd]
          simp [hc, hd, halone, join_cons]
    · have hc' : isWordChar c = false := by simpa using hc
      simp only [List.head?_cons, Option.any_some, hc', wordsOf_cons_of_not hc',
        Bool.false_eq_true, if_false]
      cases rest with
      | nil => simp [replaceOthers, collapse, hc', Text.dropEnd, wordsOf, wordsFrom]
      | cons d rest =>
        by_cases hd : isWordChar d = true
        · -- the underscore stays, since a word follows it
          have hne := ne_underscore_of_word hd
          have hfirst : collapse (replaceOthers (c :: d :: rest)) =
              '_' :: collapse (replaceOthers (d :: rest)) := by
            rw [replaceOthers, List.map_cons, ← replaceOthers, collapse]
            simp [replaceOthers, hc', hd, hne]
          have hwords := wordsOf_cons_of_word hd rest
          simp only [List.head?_cons, Option.any_some, hd, if_true] at ih
          rw [hfirst, dropEnd_cons_of_ne_nil, ih, hwords, join_cons, List.flatMap_cons]
          · rfl
          · rw [ih, hwords, join_cons]
            simp
        · -- the underscore goes, since another one follows it
          have hd' : isWordChar d = false := by simpa using hd
          have hfirst : collapse (replaceOthers (c :: d :: rest)) =
              collapse (replaceOthers (d :: rest)) := by
            rw [replaceOthers, List.map_cons, ← replaceOthers, collapse]
            simp [replaceOthers, hc', hd']
          rw [hfirst, ih]
          simp [hd']

/-- Trimming at the front leaves the text from its first word on. -/
private theorem dropWhile_collapse (cs : List Char) :
    (collapse (replaceOthers cs)).dropWhile (· == '_') =
      collapse (replaceOthers (cs.dropWhile (!isWordChar ·))) := by
  induction cs with
  | nil => rfl
  | cons c rest ih =>
    by_cases hc : isWordChar c = true
    · have hne := ne_underscore_of_word hc
      simp [replaceOthers, collapse, hc, hne]
    · have hskip : (collapse (replaceOthers (c :: rest))).dropWhile (· == '_') =
          (collapse (replaceOthers rest)).dropWhile (· == '_') := by
        rw [replaceOthers, List.map_cons, ← replaceOthers, if_neg hc, collapse]
        split
        · rfl
        · simp
      rw [hskip, ih]
      simp [hc]

private theorem wordsOf_dropWhile (cs : List Char) :
    wordsOf (cs.dropWhile (!isWordChar ·)) = wordsOf cs := by
  induction cs with
  | nil => rfl
  | cons c rest ih =>
    by_cases hc : isWordChar c = true
    · simp [hc]
    · rw [wordsOf_cons_of_not (by simpa using hc), ← ih]
      simp [hc]

/-- The three passes leave the joined words. -/
theorem trimUnderscores_collapse (cs : List Char) :
    trimUnderscores (collapse (replaceOthers cs)) = join (wordsOf cs) := by
  rw [trimUnderscores, dropWhile_collapse, dropEnd_collapse, wordsOf_dropWhile]
  cases hrest : cs.dropWhile (!isWordChar ·) with
  | nil =>
    have hnone : wordsOf cs = [] := by rw [← wordsOf_dropWhile, hrest]; rfl
    simp [hnone, join]
  | cons c rest =>
    have hc := List.head?_dropWhile_not (!isWordChar ·) cs
    rw [hrest] at hc
    have hword : isWordChar c = true := by simpa using hc
    simp [hword]

/-! ## What is not part of a word -/

/-- The first pass does not change the words. -/
theorem wordsOf_replaceOthers (cs : List Char) : wordsOf (replaceOthers cs) = wordsOf cs := by
  suffices h : ∀ word, wordsFrom word (replaceOthers cs) = wordsFrom word cs from h []
  induction cs with
  | nil => exact fun _ => rfl
  | cons c rest ih =>
    intro word
    have hstep : replaceOthers (c :: rest) =
        (if isWordChar c then c else '_') :: replaceOthers rest := rfl
    by_cases hc : isWordChar c = true
    · rw [hstep, if_pos hc, wordsFrom, wordsFrom, if_pos hc, if_pos hc, ih]
    · have hunderscore : ¬isWordChar '_' = true := by decide
      rw [hstep, if_neg hc, wordsFrom, wordsFrom, if_neg hc, if_neg hunderscore, ih]

theorem wordsOf_eq_nil (h : ∀ c ∈ cs, isWordChar c = false) : wordsOf cs = [] := by
  induction cs with
  | nil => rfl
  | cons c rest ih =>
    rw [wordsOf_cons_of_not (h c List.mem_cons_self)]
    exact ih fun d hd => h d (List.mem_cons_of_mem c hd)

/-- What stands before the first word or after the last does not matter. -/
theorem wordsOf_append (hbefore : ∀ c ∈ before, isWordChar c = false)
    (hafter : ∀ c ∈ after, isWordChar c = false) (cs : List Char) :
    wordsOf (before ++ cs ++ after) = wordsOf cs := by
  have hend : ∀ word, wordsFrom word (cs ++ after) = wordsFrom word cs := by
    induction cs with
    | nil =>
      intro word
      by_cases hword : word = []
      · subst hword
        exact wordsOf_eq_nil hafter
      · have hstop : after.takeWhile isWordChar = [] ∧ after.dropWhile isWordChar = after := by
          cases after with
          | nil => simp
          | cons c rest => simp [hafter c List.mem_cons_self]
        rw [List.nil_append, wordsFrom_eq hword, hstop.1, hstop.2, wordsOf_eq_nil hafter]
        simp [wordsFrom, hword]
    | cons c rest ih =>
      intro word
      rw [List.cons_append, wordsFrom, wordsFrom, ih, ih]
  rw [List.append_assoc]
  induction before with
  | nil => exact hend []
  | cons c rest ih =>
    rw [List.cons_append, wordsOf_cons_of_not (hbefore c List.mem_cons_self)]
    exact ih fun d hd => hbefore d (List.mem_cons_of_mem c hd)

/-! ## Lower-casing -/

/-- What a character leaves in a slug before underscores are collapsed. -/
def slugPart (c : Char) : List Char :=
  if c = 'Σ' then ['_'] else replaceOthers (Text.lowerChar c)

/-- What is left of a text is what each character leaves by itself. -/
theorem replaceOthers_lowerCharsFrom (before cs : List Char) :
    replaceOthers (Text.lowerCharsFrom before cs) = cs.flatMap slugPart := by
  induction cs generalizing before with
  | nil => rfl
  | cons c rest ih =>
    have happend : ∀ as bs, replaceOthers (as ++ bs) = replaceOthers as ++ replaceOthers bs :=
      fun _ _ => List.map_append
    rw [Text.lowerCharsFrom, happend, ih, List.flatMap_cons, slugPart]
    by_cases hc : c = 'Σ'
    · -- neither form of the small sigma is a character of a word
      have hsigma : replaceOthers [Text.lowerSigma before rest] = ['_'] := by
        rw [Text.lowerSigma]
        split <;> decide
      rw [if_pos hc, if_pos hc, hsigma]
    · rw [if_neg hc, if_neg hc]

theorem wordsOf_lowerChars (cs : List Char) :
    wordsOf (Text.lowerChars cs) = wordsOf (cs.flatMap slugPart) := by
  rw [← wordsOf_replaceOthers, Text.lowerChars, replaceOthers_lowerCharsFrom]

/-- Characters that are no part of a word in lower case do not matter at the ends of a text. -/
theorem wordsOf_lowerChars_append (hbefore : ∀ c ∈ Text.lowerChars before, isWordChar c = false)
    (hafter : ∀ c ∈ Text.lowerChars after, isWordChar c = false) (cs : List Char) :
    wordsOf (Text.lowerChars (before ++ cs ++ after)) = wordsOf (Text.lowerChars cs) := by
  have hothers : ∀ {part : List Char}, (∀ c ∈ Text.lowerChars part, isWordChar c = false) →
      ∀ c ∈ part.flatMap slugPart, isWordChar c = false := by
    intro part hpart c hc
    rw [← replaceOthers_lowerCharsFrom [] part] at hc
    obtain ⟨d, hd, rfl⟩ := List.mem_map.mp hc
    simp only [hpart d hd, Bool.false_eq_true, if_false]
    decide
  rw [wordsOf_lowerChars, wordsOf_lowerChars, List.flatMap_append, List.flatMap_append]
  exact wordsOf_append (hothers hbefore) (hothers hafter) _

/-- The numbers of the characters that are white space. -/
private def blankCodes : List Nat :=
  [0x09, 0x0A, 0x0B, 0x0C, 0x0D, 0x20, 0x85, 0xA0, 0x1680, 0x2000, 0x2001, 0x2002, 0x2003, 0x2004,
    0x2005, 0x2006, 0x2007, 0x2008, 0x2009, 0x200A, 0x2028, 0x2029, 0x202F, 0x205F, 0x3000]

/-- White space is no part of a word in lower case. -/
private theorem slugPart_of_isBlank (h : Text.isBlank c = true) : slugPart c = ['_'] := by
  have hcode : c.toNat ∈ blankCodes := by
    simp only [Text.isBlank, Bool.or_eq_true, Bool.and_eq_true, decide_eq_true_eq, beq_iff_eq] at h
    simp only [blankCodes, List.mem_cons, List.not_mem_nil]
    omega
  have hall : ∀ n ∈ blankCodes, slugPart (Char.ofNat n) = ['_'] := by decide +kernel
  rw [← Char.ofNat_toNat c]
  exact hall _ hcode

/-- Trimming first does not change the words. -/
theorem wordsOf_lowerChars_trimChars (cs : List Char) :
    wordsOf (Text.lowerChars (Text.trimChars cs)) = wordsOf (Text.lowerChars cs) := by
  have hblank : ∀ {part : List Char}, (∀ c ∈ part, Text.isBlank c = true) →
      ∀ c ∈ part.flatMap slugPart, isWordChar c = false := by
    intro part hpart c hc
    obtain ⟨d, hd, hc⟩ := List.mem_flatMap.mp hc
    rw [slugPart_of_isBlank (hpart d hd)] at hc
    rw [List.mem_singleton.mp hc]
    decide
  obtain ⟨before, after, hparts, hbefore, hafter⟩ := Text.exists_eq_append_trimChars cs
  conv => rhs; rw [hparts]
  rw [wordsOf_lowerChars, wordsOf_lowerChars, List.flatMap_append, List.flatMap_append,
    wordsOf_append (hblank hbefore) (hblank hafter)]

/-! ## Slugs -/

/-- The slug of a text is the list of its words in lower case, joined. -/
theorem slugChars_eq_join (cs : List Char) :
    slugChars cs = join (wordsOf (Text.lowerChars cs)) := by
  rw [slugChars, trimUnderscores_collapse, wordsOf_lowerChars_trimChars]

private theorem wordsOf_word_append {word : List Char} (hne : word ≠ [])
    (hword : ∀ c ∈ word, isWordChar c = true) (hcs : cs.head?.any isWordChar = false) :
    wordsOf (word ++ cs) = word :: wordsOf cs := by
  obtain ⟨c, rest, rfl⟩ := List.exists_cons_of_ne_nil hne
  have hrest : ∀ d ∈ rest, isWordChar d = true := fun d hd => hword d (List.mem_cons_of_mem c hd)
  have hstop : cs.takeWhile isWordChar = [] ∧ cs.dropWhile isWordChar = cs := by
    cases cs with
    | nil => simp
    | cons d _ =>
      have hd : isWordChar d = false := by simpa using hcs
      simp [hd]
  rw [List.cons_append, wordsOf_cons_of_word (hword c List.mem_cons_self),
    List.takeWhile_append_of_pos hrest, List.dropWhile_append_of_pos hrest, hstop.1, hstop.2,
    List.append_nil]

/-- Joined words have these words again. -/
theorem wordsOf_join (h : ∀ word ∈ words, word ≠ [] ∧ ∀ c ∈ word, isWordChar c = true) :
    wordsOf (join words) = words := by
  have htail : ∀ {words : List (List Char)},
      (∀ word ∈ words, word ≠ [] ∧ ∀ c ∈ word, isWordChar c = true) →
      wordsOf (words.flatMap ('_' :: ·)) = words := by
    intro words h
    induction words with
    | nil => rfl
    | cons word words ih =>
      obtain ⟨hne, hword⟩ := h word List.mem_cons_self
      have hhead : (words.flatMap ('_' :: ·)).head?.any isWordChar = false := by
        cases words with
        | nil => rfl
        | cons next words => exact (by decide : isWordChar '_' = false)
      rw [List.flatMap_cons, List.cons_append, wordsOf_cons_of_not (by decide),
        wordsOf_word_append hne hword hhead, ih fun w hw => h w (List.mem_cons_of_mem _ hw)]
  cases words with
  | nil => rfl
  | cons word words =>
    have hwords := htail h
    rwa [List.flatMap_cons, List.cons_append, wordsOf_cons_of_not (by decide), ← join_cons] at hwords

/-- A slug is its own lower-case form. -/
private theorem lowerChars_slugChars (cs : List Char) :
    Text.lowerChars (slugChars cs) = slugChars cs := by
  have hrange : ∀ c ∈ slugChars cs, _ := fun c hc =>
    toNat_of_isNameChar (isNameChar_of_mem_slugChars hc)
  have hlower : ∀ c ∈ slugChars cs, c.toLower = c := by
    intro c hc
    -- none of these characters is a capital letter
    refine dif_neg fun hupper : 'A'.val ≤ c.val ∧ c.val ≤ 'Z'.val => ?_
    have hfrom : 0x41 ≤ c.toNat := UInt32.le_iff_toNat_le.mp hupper.1
    have hto : c.toNat ≤ 0x5A := UInt32.le_iff_toNat_le.mp hupper.2
    have hname := hrange c hc
    omega
  have hascii : ∀ c ∈ slugChars cs, c.toNat < 0x80 := by
    intro c hc
    have hname := hrange c hc
    omega
  rw [Text.lowerChars, Text.lowerCharsFrom_of_ascii [] hascii]
  exact (List.map_congr_left hlower).trans (List.map_id _)

theorem slugChars_slugChars (cs : List Char) : slugChars (slugChars cs) = slugChars cs := by
  rw [slugChars_eq_join (slugChars cs), lowerChars_slugChars, slugChars_eq_join cs,
    wordsOf_join fun _ hword => of_mem_wordsOf hword]

/-- The slug of a text is the list of its words in lower case, joined by single underscores. So a
    slug is its own slug, texts with the same words in lower case have the same slug, and it does
    not matter what stands before the first word and after the last, whether it is looked for in
    the lower-case form or put around the text itself. -/
theorem slug_eq_join (s : String) :
    slug s = String.ofList (join (wordsOf (Text.lowerCase s).toList)) ∧
      (wordsOf (Text.lowerCase s).toList = [] → slug s = "") ∧
      slug (slug s) = slug s ∧
      (∀ s', wordsOf (Text.lowerCase s').toList = wordsOf (Text.lowerCase s).toList →
        slug s' = slug s) ∧
      (∀ s' before after, (∀ c ∈ before ++ after, isWordChar c = false) →
        (Text.lowerCase s').toList = before ++ (Text.lowerCase s).toList ++ after →
        slug s' = slug s) ∧
      ∀ before after : String,
        (∀ c ∈ (Text.lowerCase before).toList ++ (Text.lowerCase after).toList,
          isWordChar c = false) →
        slug (before ++ s ++ after) = slug s := by
  have hslug : ∀ s, slug s = String.ofList (join (wordsOf (Text.lowerCase s).toList)) := by
    intro s
    rw [slug, slugChars_eq_join, Text.toList_lowerCase]
  have hsame : ∀ s', wordsOf (Text.lowerCase s').toList = wordsOf (Text.lowerCase s).toList →
      slug s' = slug s := by
    intro s' hwords
    rw [hslug, hslug, hwords]
  refine ⟨hslug s, fun hnone => ?_, ?_, hsame, fun s' before after hothers hlower => ?_,
    fun before after hothers => ?_⟩
  · rw [hslug, hnone]
    rfl
  · rw [slug, slug, String.toList_ofList, slugChars_slugChars]
  · apply hsame
    rw [hlower]
    exact wordsOf_append (fun c hc => hothers c (List.mem_append_left _ hc))
      (fun c hc => hothers c (List.mem_append_right _ hc)) _
  · apply hsame
    simp only [Text.toList_lowerCase, String.toList_append] at hothers ⊢
    exact wordsOf_lowerChars_append (fun c hc => hothers c (List.mem_append_left _ hc))
      (fun c hc => hothers c (List.mem_append_right _ hc)) _

/-- The dotted capital I becomes two characters of which one belongs to a word; so does the sign of
    the unit Kelvin, which becomes a letter of ASCII. Neither a text with the same words nor Greek
    around it changes the slug, and the slug is its own slug. -/
theorem slug_eq_join_izmir :
    slug "__İzmir\u2003 273\u212A" = "i_zmir_273k" ∧ slug "i_zmir_273k" = "i_zmir_273k" ∧
      slug "I ZMIR, 273K" = "i_zmir_273k" ∧
      slug ("ΟΔΟΣ " ++ "__İzmir\u2003 273\u212A" ++ " ΟΔΟΣ!") = "i_zmir_273k" := by
  obtain ⟨-, -, hagain, hwords, -, hends⟩ := slug_eq_join "__İzmir\u2003 273\u212A"
  have hslug : slug "__İzmir\u2003 273\u212A" = "i_zmir_273k" := by decide +kernel
  have hothers : ((Text.lowerCase "ΟΔΟΣ ").toList ++ (Text.lowerCase " ΟΔΟΣ!").toList).any
      isWordChar = false := by decide +kernel
  rw [hslug] at hagain hwords hends
  refine ⟨hslug, hagain, hwords "I ZMIR, 273K" (by decide +kernel), ?_⟩
  exact hends "ΟΔΟΣ " " ΟΔΟΣ!" fun c hc =>
    Bool.eq_false_iff.mpr (List.any_eq_false.mp hothers c hc)

end Tenancy.SchemaName
