import Mathlib.Data.List.TakeWhile
import Tenancy.Auth
import Tenancy.Http.Message

/-!
# What is read of a request's headers

Of the headers with a name the first one counts, and only if its value is readable. Two headers are
read further: the one that brings a token, which stands behind the scheme `Bearer`, and the one that
names a tenant. What each of them brings is said here by how the header is made up, and the readers
find just that.

## Key results

- `header?_eq_some_iff`: the value of a header
- `headerText?_eq_some_iff`: the text of a header
- `bearerToken_eq_ok_iff`: the token of a request
- `tenantHeader?_eq_some_iff`: the tenant that a request names
-/

namespace Tenancy

namespace Http

/-- A value is a text: it has nothing but visible ASCII, blanks and tabs, and they are the text's
    characters. -/
def IsText (value : Bytes) (text : String) : Prop :=
  (∀ b ∈ value, (0x20 ≤ b ∧ b < 0x7F) ∨ b = 0x09) ∧
    text.toList = value.map fun b => Char.ofNat b.toNat

/-- The first of the headers with a name has a value. -/
def Carries (headers : List Header) (name : String) (value : Bytes) : Prop :=
  ∃ before given after, headers = before ++ (given, value) :: after ∧
    Text.equalsIgnoringCase given name = true ∧
    ∀ h ∈ before, Text.equalsIgnoringCase h.1 name = false

/-- The first of the headers with a name has a text for its value. -/
def Shows (headers : List Header) (name text : String) : Prop :=
  ∃ before given value after, headers = before ++ (given, value) :: after ∧
    Text.equalsIgnoringCase given name = true ∧
    (∀ h ∈ before, Text.equalsIgnoringCase h.1 name = false) ∧ IsText value text

theorem readable?_eq_some_iff {value : Bytes} {text : String} :
    readable? value = some text ↔ IsText value text := by
  have hvisible : value.all isReadable = true ↔ ∀ b ∈ value, (0x20 ≤ b ∧ b < 0x7F) ∨ b = 0x09 := by
    simp [isReadable]
  rw [readable?, Option.ite_none_right_eq_some, hvisible, IsText, Option.some.injEq,
    ← String.toList_inj, String.toList_ofList, eq_comm]

theorem header?_eq_some_iff {headers : List Header} {name : String} {value : Bytes} :
    header? headers name = some value ↔ Carries headers name value := by
  simp only [header?, Option.map_eq_some_iff, List.find?_eq_some_iff_append, Bool.not_eq_true',
    Carries]
  constructor
  · rintro ⟨⟨given, _⟩, ⟨hname, before, after, hheaders, hbefore⟩, rfl⟩
    exact ⟨before, given, after, hheaders, hname, hbefore⟩
  · rintro ⟨before, given, after, hheaders, hname, hbefore⟩
    exact ⟨(given, value), ⟨hname, before, after, hheaders, hbefore⟩, rfl⟩

theorem Carries.unique {headers : List Header} {name : String} {value value' : Bytes}
    (h : Carries headers name value) (h' : Carries headers name value') : value = value' :=
  Option.some.inj ((header?_eq_some_iff.mpr h).symm.trans (header?_eq_some_iff.mpr h'))

/-- The headers show a text if they carry a value that is the text. -/
theorem shows_iff_exists_carries {headers : List Header} {name text : String} :
    Shows headers name text ↔ ∃ value, Carries headers name value ∧ IsText value text := by
  constructor
  · rintro ⟨before, given, value, after, hheaders, hname, hbefore, htext⟩
    exact ⟨value, ⟨before, given, after, hheaders, hname, hbefore⟩, htext⟩
  · rintro ⟨value, ⟨before, given, after, hheaders, hname, hbefore⟩, htext⟩
    exact ⟨before, given, value, after, hheaders, hname, hbefore, htext⟩

theorem headerText?_eq_some_iff {headers : List Header} {name text : String} :
    headerText? headers name = some text ↔ Shows headers name text := by
  simp only [headerText?, Option.bind_eq_some_iff, header?_eq_some_iff, readable?_eq_some_iff,
    shows_iff_exists_carries]

end Http

namespace Auth

variable {header : Option String} {token : String} {e : AuthError}

/-- What stands before and after the first blank. -/
theorem splitAtBlank?_eq_some_iff {cs scheme rest : List Char} :
    splitAtBlank? cs = some (scheme, rest) ↔ cs = scheme ++ ' ' :: rest ∧ ' ' ∉ scheme := by
  have hparts := List.takeWhile_append_dropWhile (p := (· != ' ')) (l := cs)
  constructor
  · intro h
    rw [splitAtBlank?] at h
    cases hbehind : cs.dropWhile (· != ' ') with
    | nil => simp [hbehind] at h
    | cons blank behind =>
      -- what is left begins with the character that stopped the search
      have hblank : blank = ' ' := by
        have hstop := List.head?_dropWhile_not (· != ' ') cs
        rw [hbehind] at hstop
        simpa using hstop
      subst hblank
      simp only [hbehind, Option.some.injEq, Prod.mk.injEq] at h
      obtain ⟨rfl, rfl⟩ := h
      rw [hbehind] at hparts
      refine ⟨hparts.symm, fun hmem => ?_⟩
      simpa using List.mem_takeWhile_imp hmem
  · rintro ⟨rfl, hscheme⟩
    have hbefore : ∀ c ∈ scheme, (c != ' ') = true := fun c hc => by
      rw [bne_iff_ne]
      rintro rfl
      exact hscheme hc
    rw [splitAtBlank?, List.dropWhile_append_of_pos hbefore, List.takeWhile_append_of_pos hbefore]
    simp

/-- The only failure to find a token is that there is none. -/
theorem bearerToken_eq_error (h : bearerToken header = .error e) : e = .missingToken := by
  unfold bearerToken at h
  split at h
  · simpa using h.symm
  · split at h
    · split at h
      · cases h
      · simpa using h.symm
    · simpa using h.symm

/-- A header brings a token behind the scheme `Bearer` and a blank, up to white space around it. -/
theorem bearerToken_eq_ok_iff : bearerToken header = .ok token ↔
    ∃ text scheme rest, header = some text ∧ text.toList = scheme ++ ' ' :: rest ∧ ' ' ∉ scheme ∧
      Text.equalsIgnoringCase (String.ofList scheme) "bearer" = true ∧
      Text.trim (String.ofList rest) = token ∧ token ≠ "" := by
  constructor
  · intro h
    unfold bearerToken at h
    split at h
    · cases h
    next scheme rest hsplit =>
      obtain ⟨text, rfl, hparts⟩ := Option.bind_eq_some_iff.mp hsplit
      obtain ⟨htext, hscheme⟩ := splitAtBlank?_eq_some_iff.mp hparts
      split at h
      next hbearer =>
        split at h
        next found hfound =>
          cases h
          obtain ⟨htrim, hne⟩ := Text.nonBlank?_eq_some_iff.mp hfound
          exact ⟨text, scheme, rest, rfl, htext, hscheme, hbearer, htrim, hne⟩
        · cases h
      · cases h
  · rintro ⟨text, scheme, rest, rfl, htext, hscheme, hbearer, htrim, hne⟩
    have hsplit : (some text).bind (fun h => splitAtBlank? h.toList) = some (scheme, rest) :=
      splitAtBlank?_eq_some_iff.mpr ⟨htext, hscheme⟩
    rw [bearerToken, hsplit]
    simp only [hbearer, if_true, Text.nonBlank?_eq_some_iff.mpr ⟨htrim, hne⟩]

end Auth

namespace Http

/-- A request brings a token: the first `Authorization` header has a text that begins with the
    scheme `Bearer`, in any letter case, and a blank. What follows, without white space around it,
    is the token, unless it is empty. -/
def Request.Bears (r : Request) (token : String) : Prop :=
  ∃ text scheme rest, Shows r.headers "authorization" text ∧ text.toList = scheme ++ ' ' :: rest ∧
    ' ' ∉ scheme ∧ Text.equalsIgnoringCase (String.ofList scheme) "bearer" = true ∧
    Text.trim (String.ofList rest) = token ∧ token ≠ ""

/-- A request names a tenant: the first `X-Tenant-ID` header has a text that is not blank, and that
    is an identifier without the white space around it. -/
def Request.Names (r : Request) (t : TenantId) : Prop :=
  ∃ text, Shows r.headers "X-Tenant-ID" text ∧ Text.trim text ≠ "" ∧
    TenantId.ofText? (Text.trim text) = some t

variable {r : Request} {token : String} {t : TenantId}

theorem bearerToken_headerText?_eq_ok_iff :
    Auth.bearerToken (headerText? r.headers "authorization") = .ok token ↔ r.Bears token := by
  simp only [Auth.bearerToken_eq_ok_iff, headerText?_eq_some_iff, Request.Bears]

/-- A request without a token has none for the one reason. -/
theorem bearerToken_headerText?_of_not_bears (h : ∀ token, ¬r.Bears token) :
    Auth.bearerToken (headerText? r.headers "authorization") = .error .missingToken := by
  cases htoken : Auth.bearerToken (headerText? r.headers "authorization") with
  | error e => rw [Auth.bearerToken_eq_error htoken]
  | ok token => exact absurd (bearerToken_headerText?_eq_ok_iff.mp htoken) (h token)

theorem tenantHeader?_eq_some_iff : tenantHeader? r.headers = some t ↔ r.Names t := by
  simp only [tenantHeader?, Option.bind_eq_some_iff, headerText?_eq_some_iff,
    Text.nonBlank?_eq_some_iff, Request.Names]
  constructor
  · rintro ⟨trimmed, ⟨text, htext, rfl, hne⟩, ht⟩
    exact ⟨text, htext, hne, ht⟩
  · rintro ⟨text, htext, hne, ht⟩
    exact ⟨_, ⟨text, htext, rfl, hne⟩, ht⟩

end Http

end Tenancy
