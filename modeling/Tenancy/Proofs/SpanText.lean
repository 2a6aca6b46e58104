import Tenancy.Duration
import Tenancy.Proofs.AsciiText
import Tenancy.Proofs.Trim

/-!
# How spans of time are written

A span is written in digits and a unit, with white space around both and nowhere else. The number must
fit in 64 bits, and so must the seconds that it stands for. What is read is then exact, and what is
written in any other way is not read at all.

## Key results

- `withUnit?_eq_some_iff`: a number of a unit
- `ofText?_eq_some_iff`: the reader finds just what is written in this way
- `ofText?_exact`: and the seconds of what it finds fit in 64 bits
-/

namespace Tenancy.Duration

open Text (isBlank digitsValue)

variable {raw unit : String} {n : Nat} {d : Duration}

/-- What a number of a unit comes to; a number without a unit counts seconds. Minutes and hours are no
    span where their seconds do not fit in 64 bits. -/
inductive Amounts (n : Nat) : String → Duration → Prop
  | millis : Amounts n "ms" (ofMillis n)
  | bare : Amounts n "" (ofSecs n)
  | seconds : Amounts n "s" (ofSecs n)
  | minutes (h : n * 60 < UInt64.size) : Amounts n "m" (ofSecs (n * 60))
  | hours (h : n * 3600 < UInt64.size) : Amounts n "h" (ofSecs (n * 3600))

/-- A text writes a span: between white space it has digits for a number that fits in 64 bits, and
    right behind them a unit. -/
def Writes (raw : String) (d : Duration) : Prop :=
  ∃ before digits unit after, raw.toList = before ++ (digits ++ unit.toList) ++ after ∧
    (∀ c ∈ before, isBlank c = true) ∧ (∀ c ∈ after, isBlank c = true) ∧
    digits ≠ [] ∧ (∀ c ∈ digits, c.isDigit = true) ∧ digitsValue digits < UInt64.size ∧
    Amounts (digitsValue digits) unit d

/-! ## Units -/

theorem ofUnits?_eq_some_iff {secsPerUnit : Nat} : ofUnits? n secsPerUnit = some d ↔
    n * secsPerUnit < UInt64.size ∧ ofSecs (n * secsPerUnit) = d := by
  rw [ofUnits?, Option.ite_none_right_eq_some, Option.some.injEq, wordBound]

/-- The reader of units knows just these. -/
theorem withUnit?_eq_some_iff (hn : n < UInt64.size) :
    withUnit? n unit.toList = some d ↔ Amounts n unit d := by
  have hone : ofUnits? n 1 = some d ↔ ofSecs n = d := by
    rw [ofUnits?_eq_some_iff, Nat.mul_one, and_iff_right hn]
  constructor
  · intro h
    unfold withUnit? at h
    split at h
    next hunit =>
      obtain rfl : unit = "ms" := String.toList_inj.mp hunit
      cases h
      exact .millis
    next hunit =>
      obtain rfl : unit = "" := String.toList_inj.mp hunit
      exact hone.mp h ▸ .bare
    next hunit =>
      obtain rfl : unit = "s" := String.toList_inj.mp hunit
      exact hone.mp h ▸ .seconds
    next hunit =>
      obtain rfl : unit = "m" := String.toList_inj.mp hunit
      obtain ⟨hfits, rfl⟩ := ofUnits?_eq_some_iff.mp h
      exact .minutes hfits
    next hunit =>
      obtain rfl : unit = "h" := String.toList_inj.mp hunit
      obtain ⟨hfits, rfl⟩ := ofUnits?_eq_some_iff.mp h
      exact .hours hfits
    · cases h
  · intro h
    cases h with
    | millis => rfl
    | bare => exact hone.mpr rfl
    | seconds => exact hone.mpr rfl
    | minutes hfits => exact ofUnits?_eq_some_iff.mpr ⟨hfits, rfl⟩
    | hours hfits => exact ofUnits?_eq_some_iff.mpr ⟨hfits, rfl⟩

/-- A unit is spelled in letters. -/
theorem Amounts.letters (h : Amounts n unit d) :
    ∀ c ∈ unit.toList, c.isDigit = false ∧ isBlank c = false := by
  have hletters : unit.toList.all (fun c => !c.isDigit && !isBlank c) = true := by
    cases h <;> decide +kernel
  intro c hc
  simpa using List.all_eq_true.mp hletters c hc

theorem secs_ofSecs (n : Nat) : (ofSecs n).secs = n :=
  Nat.mul_div_cancel n (by decide)

theorem secs_ofMillis (n : Nat) : (ofMillis n).secs = n / 1000 := by
  simp only [ofMillis, secs, nanosPerSec]
  omega

/-- The seconds of a number of a unit fit in 64 bits if the number does. -/
theorem Amounts.secs_lt (h : Amounts n unit d) (hn : n < UInt64.size) : d.secs < UInt64.size := by
  cases h with
  | millis =>
    rw [secs_ofMillis]
    exact Nat.lt_of_le_of_lt (Nat.div_le_self n 1000) hn
  | bare => rwa [secs_ofSecs]
  | seconds => rwa [secs_ofSecs]
  | minutes hfits => rwa [secs_ofSecs]
  | hours hfits => rwa [secs_ofSecs]

/-! ## The reader -/

theorem isBlank_of_isDigit {c : Char} (h : c.isDigit = true) : isBlank c = false := by
  obtain ⟨hlow, hhigh⟩ : 0x30 ≤ c.toNat ∧ c.toNat ≤ 0x39 := Char.isDigit_iff_toNat.mp h
  simp only [isBlank, Bool.or_eq_false_iff, Bool.and_eq_false_iff, decide_eq_false_iff_not,
    beq_eq_false_iff_ne, ne_eq]
  omega

/-- Reading a span is reading its digits and its unit. -/
theorem ofText?_eq_some_iff_trimChars : ofText? raw = some d ↔
    ∃ digits unit, Text.trimChars raw.toList = digits ++ unit.toList ∧ digits ≠ [] ∧
      (∀ c ∈ digits, c.isDigit = true) ∧ digitsValue digits < UInt64.size ∧
      Amounts (digitsValue digits) unit d := by
  simp only [ofText?, Option.bind_eq_some_iff, Text.natBelow?_eq_some_iff, wordBound]
  generalize Text.trimChars raw.toList = cs
  constructor
  · rintro ⟨n, ⟨hne, hdigits, rfl, hn⟩, hunit⟩
    rw [← String.toList_ofList (l := cs.dropWhile Char.isDigit), withUnit?_eq_some_iff hn] at hunit
    refine ⟨_, _, ?_, hne, hdigits, hn, hunit⟩
    rw [String.toList_ofList, List.takeWhile_append_dropWhile]
  · rintro ⟨digits, unit, rfl, hne, hdigits, hn, hunit⟩
    -- the digits end where the unit begins
    have hdrop : unit.toList.dropWhile Char.isDigit = unit.toList := by
      refine List.dropWhile_eq_self_iff.mpr fun hl => ?_
      simp [(hunit.letters _ (List.getElem_mem hl)).1]
    have htake : unit.toList.takeWhile Char.isDigit = [] := by
      simpa [hdrop] using List.takeWhile_append_dropWhile (p := Char.isDigit) (l := unit.toList)
    rw [List.takeWhile_append_of_pos hdigits, List.dropWhile_append_of_pos hdigits, htake, hdrop,
      List.append_nil]
    exact ⟨_, ⟨hne, hdigits, rfl, hn⟩, (withUnit?_eq_some_iff hn).mpr hunit⟩

/-- The reader finds just the spans that a text writes. -/
theorem ofText?_eq_some_iff : ofText? raw = some d ↔ Writes raw d := by
  rw [ofText?_eq_some_iff_trimChars]
  constructor
  · rintro ⟨digits, unit, htrim, hspan⟩
    obtain ⟨before, after, hraw, hbefore, hafter⟩ := Text.exists_eq_append_trimChars raw.toList
    rw [htrim] at hraw
    exact ⟨before, digits, unit, after, hraw, hbefore, hafter, hspan⟩
  · rintro ⟨before, digits, unit, after, hraw, hbefore, hafter, hne, hdigits, hn, hunit⟩
    refine ⟨digits, unit, ?_, hne, hdigits, hn, hunit⟩
    rw [hraw, Text.trimChars_append hbefore hafter]
    intro c hc
    cases List.mem_append.mp hc with
    | inl hdigit => exact isBlank_of_isDigit (hdigits c hdigit)
    | inr hletter => exact (hunit.letters c hletter).2

/-- Reading is exact: a span is found in a text if and only if the text writes it, and then its seconds
    fit in 64 bits. -/
theorem ofText?_exact (raw : String) :
    (∀ d, ofText? raw = some d ↔ Writes raw d) ∧
      ∀ d, ofText? raw = some d → d.secs < UInt64.size := by
  refine ⟨fun d => ofText?_eq_some_iff, fun d h => ?_⟩
  obtain ⟨before, digits, unit, after, -, -, -, -, -, hn, hunit⟩ := ofText?_eq_some_iff.mp h
  exact hunit.secs_lt hn

-- signs, inner blanks and one minute too many are not read
example : ofText? "+5s" = none ∧ ofText? "5 s" = none ∧ ofText? "307445734561825861m" = none := by
  decide +kernel

/-- The greatest number of minutes that fits, with a no-break space before it and a line break after
    it. -/
theorem ofText?_exact_minutes :
    Writes "\u00a0307445734561825860m\n" (ofSecs 18446744073709551600) ∧
      ofText? "\u00a0307445734561825860m\n" = some (ofSecs 18446744073709551600) ∧
      (ofSecs 18446744073709551600).secs < UInt64.size := by
  have hwrites : Writes "\u00a0307445734561825860m\n" (ofSecs 18446744073709551600) :=
    ⟨['\u00a0'], "307445734561825860".toList, "m", ['\n'], by decide +kernel,
      List.all_eq_true.mp (by decide), List.all_eq_true.mp (by decide), by decide +kernel,
      List.all_eq_true.mp (by decide +kernel), by decide +kernel, .minutes (by decide +kernel)⟩
  have hread := ((ofText?_exact _).1 _).mpr hwrites
  exact ⟨hwrites, hread, (ofText?_exact _).2 _ hread⟩

end Tenancy.Duration
