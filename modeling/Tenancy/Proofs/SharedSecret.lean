import Tenancy.Proofs.Acceptance
import Tenancy.Proofs.Secrecy
import Tenancy.Proofs.TextBytes

/-!
# The secret at both doors

A deployment has one secret. The internal endpoints ask for it in a header of its own, and where the
caller's token is compared with it, it stands behind the scheme. Loading trims the secret, and both
checks read headers as texts, the second one taken apart and trimmed again. A secret of ASCII comes
through all of this as it is, blanks inside of it too. A value with other bytes is no text for either
check, so any other secret shuts both doors.

## Key results

- `isText_iff`, `shows_iff`: which values are texts
- `bears_iff_of_carries`: the token behind the scheme
- `caller_of_bears`, `exists_caller_eq_error`: which tokens are the secret
- `secret_opens_both`: both doors, for every accepted secret that can be sent
-/

namespace Tenancy

namespace Http

/-! ## Values and texts -/

variable {headers : List Header} {name text : String} {value : Bytes}

private theorem toNat_ofNat_toNat (b : UInt8) : (Char.ofNat b.toNat).toNat = b.toNat :=
  Text.toNat_ofNat_of_isValidChar (.inl (Nat.lt_trans b.toNat_lt (by decide)))

private theorem toNat_toUInt8 {c : Char} (h : c.toNat < 0x80) : c.toUInt8.toNat = c.toNat :=
  (UInt32.toNat_toUInt8 c.val).trans (Nat.mod_eq_of_lt (Nat.lt_trans h (by decide)))

private theorem toUInt8_ofNat_toNat (b : UInt8) : (Char.ofNat b.toNat).toUInt8 = b := by
  rw [← UInt8.toNat_inj]
  refine (UInt32.toNat_toUInt8 _).trans ?_
  exact (congrArg (· % 256) (toNat_ofNat_toNat b)).trans (Nat.mod_eq_of_lt b.toNat_lt)

/-- The readable bytes are those of ASCII that can be sent. -/
private theorem isReadable_iff {b : UInt8} : (0x20 ≤ b ∧ b < 0x7F) ∨ b = 0x09 ↔
    ((0x20 ≤ b && b != 0x7F) || b == 0x09) = true ∧ b.toNat < 0x80 := by
  simp only [Bool.or_eq_true, Bool.and_eq_true, decide_eq_true_eq, bne_iff_ne, beq_iff_eq, ne_eq,
    UInt8.le_iff_toNat_le, UInt8.lt_iff_toNat_lt, ← UInt8.toNat_inj, UInt8.reduceToNat]
  omega

/-- A value is a text if it is the text's bytes, all of ASCII, and can be sent. -/
theorem isText_iff :
    IsText value text ↔ value = Bytes.ofText text ∧ Text.IsAscii text ∧ isSendable text = true := by
  constructor
  · rintro ⟨hreadable, htext⟩
    have hascii : Text.IsAscii text := by
      intro c hc
      rw [htext] at hc
      obtain ⟨b, hb, rfl⟩ := List.mem_map.mp hc
      rw [toNat_ofNat_toNat]
      exact (isReadable_iff.mp (hreadable b hb)).2
    have hvalue : value = Bytes.ofText text := by
      rw [Bytes.ofText_of_isAscii hascii, htext, List.map_map]
      exact (List.map_id'' toUInt8_ofNat_toNat value).symm
    refine ⟨hvalue, hascii, ?_⟩
    rw [isSendable, ← hvalue, List.all_eq_true]
    exact fun b hb => (isReadable_iff.mp (hreadable b hb)).1
  · rintro ⟨rfl, hascii, hsendable⟩
    rw [isSendable, List.all_eq_true] at hsendable
    constructor
    · intro b hb
      refine isReadable_iff.mpr ⟨hsendable b hb, ?_⟩
      rw [Bytes.ofText_of_isAscii hascii] at hb
      obtain ⟨c, hc, rfl⟩ := List.mem_map.mp hb
      rw [toNat_toUInt8 (hascii c hc)]
      exact hascii c hc
    · have hchar : ∀ c ∈ text.toList, Char.ofNat c.toUInt8.toNat = c := fun c hc => by
        rw [toNat_toUInt8 (hascii c hc), Char.ofNat_toNat]
      rw [Bytes.ofText_of_isAscii hascii, List.map_map]
      exact ((List.map_congr_left hchar).trans (List.map_id' text.toList)).symm

/-- A header shows a text if it carries the text's bytes, all of ASCII, and they can be sent. -/
theorem shows_iff : Shows headers name text ↔
    Carries headers name (Bytes.ofText text) ∧ Text.IsAscii text ∧ isSendable text = true := by
  simp only [shows_iff_exists_carries, isText_iff]
  constructor
  · rintro ⟨_, hcarries, rfl, htext⟩
    exact ⟨hcarries, htext⟩
  · rintro ⟨hcarries, htext⟩
    exact ⟨_, hcarries, rfl, htext⟩

theorem Shows.unique {text' : String} (h : Shows headers name text)
    (h' : Shows headers name text') : text = text' :=
  Bytes.ofText_injective ((shows_iff.mp h).1.unique (shows_iff.mp h').1)

/-! ## The token behind the scheme -/

variable {r : Request} {secret token : String}

theorem isSendable_append (s t : String) : isSendable (s ++ t) = (isSendable s && isSendable t) := by
  rw [isSendable, Bytes.ofText_append, List.all_append, isSendable, isSendable]

/-- A value of the scheme, a blank and a text is a text if what follows the blank is one. -/
theorem shows_bearer_iff (hsendable : isSendable secret = true)
    (hvalue : Carries r.headers "authorization" (Bytes.ofText "Bearer " ++ Bytes.ofText secret)) :
    Shows r.headers "authorization" text ↔ text = "Bearer " ++ secret ∧ Text.IsAscii secret := by
  have hscheme : Text.IsAscii "Bearer " ∧ isSendable "Bearer " = true := by decide +kernel
  rw [← Bytes.ofText_append] at hvalue
  rw [shows_iff]
  constructor
  · rintro ⟨hcarries, hascii, -⟩
    obtain rfl := Bytes.ofText_injective (hcarries.unique hvalue)
    exact ⟨rfl, (Text.isAscii_append_iff.mp hascii).2⟩
  · rintro ⟨rfl, hascii⟩
    refine ⟨hvalue, Text.isAscii_append_iff.mpr ⟨hscheme.1, hascii⟩, ?_⟩
    rw [isSendable_append, hscheme.2, hsendable]
    rfl

/-- Such a value brings the text behind the scheme, if it is of ASCII, and nothing else. -/
theorem bears_iff_of_carries (htrim : Text.trim secret = secret) (hne : secret ≠ "")
    (hsendable : isSendable secret = true)
    (hvalue : Carries r.headers "authorization" (Bytes.ofText "Bearer " ++ Bytes.ofText secret)) :
    r.Bears token ↔ token = secret ∧ Text.IsAscii secret := by
  have hsplit : ("Bearer " ++ secret).toList = "Bearer".toList ++ ' ' :: secret.toList := by
    rw [String.toList_append]
    rfl
  have hscheme : ' ' ∉ "Bearer".toList := by decide
  simp only [Request.Bears, shows_bearer_iff hsendable hvalue]
  constructor
  · rintro ⟨_, scheme, rest, ⟨rfl, hascii⟩, hparts, hblank, -, htoken, -⟩
    -- both are split at the first blank
    have hfirst := Auth.splitAtBlank?_eq_some_iff.mpr ⟨hsplit, hscheme⟩
    rw [Auth.splitAtBlank?_eq_some_iff.mpr ⟨hparts, hblank⟩, Option.some.injEq, Prod.mk.injEq]
      at hfirst
    rw [hfirst.2, String.ofList_toList, htrim] at htoken
    exact ⟨htoken.symm, hascii⟩
  · rintro ⟨rfl, hascii⟩
    refine ⟨_, _, _, ⟨rfl, hascii⟩, hsplit, hscheme, by decide, ?_, hne⟩
    rw [String.ofList_toList, htrim]

/-- A token is of ASCII, as is the text that it stands in. -/
theorem isAscii_of_bears (h : r.Bears token) : Text.IsAscii token := by
  obtain ⟨text, scheme, rest, hshows, hparts, -, -, rfl, -⟩ := h
  obtain ⟨before, after, hrest, -⟩ := Text.exists_eq_append_trimChars rest
  intro ch hch
  rw [Text.trim, String.toList_ofList, String.toList_ofList] at hch
  refine (shows_iff.mp hshows).2.1 ch ?_
  rw [hparts, hrest]
  simp [hch]

namespace Site

variable {site : Site}

theorem isAscii_of_trusts (h : site.Trusts r) (hsecret : site.secret = some secret) :
    Text.IsAscii secret := by
  obtain ⟨given, hgiven, hshows⟩ := h
  obtain rfl := Option.some.inj (hgiven.symm.trans hsecret)
  exact (shows_iff.mp hshows).2.1

/-- Where the token is compared with the secret, it must be the secret. -/
theorem caller_of_bears (h : r.Bears token) (hsecret : site.authenticator = .sharedSecret secret) :
    site.caller r = .done
      (if token = secret then .ok Auth.internalPrincipal
        else .error (.unauthorized "invalid bearer token")) := by
  rw [caller, bearerToken_headerText?_eq_ok_iff.mpr h, hsecret]
  by_cases htoken : token = secret
  · simp only [Service.authenticate, Auth.Authenticator.decide?, if_pos htoken]
    rfl
  · simp only [Service.authenticate, Auth.Authenticator.decide?, if_neg htoken]
    rfl

/-- A request that does not bring the secret for its token is refused, with another one or without. -/
theorem exists_caller_eq_error (hsecret : site.authenticator = .sharedSecret secret)
    (h : ¬r.Bears secret) : ∃ cause, site.caller r = .done (.error cause) := by
  by_cases hany : ∃ token, r.Bears token
  · obtain ⟨token, htoken⟩ := hany
    have hne : token ≠ secret := fun heq => h (heq ▸ htoken)
    exact ⟨_, by rw [caller_of_bears htoken hsecret, if_neg hne]⟩
  · exact ⟨_, caller_of_not_bears (not_exists.mp hany)⟩

end Site

end Http

/-! ## Accepted secrets -/

namespace Config

open Http

variable {env : Environment} {c : ServiceConfig} {secret : String}

/-- The secret of an accepted configuration is trimmed, and there is something of it. -/
theorem trim_internalSecret (h : load env = .ok c) (hsecret : c.internalSecret = some secret) :
    Text.trim secret = secret ∧ secret ≠ "" := by
  cases gives_of_load h .internalSecret with
  | written hset hread =>
    have hraw : c.internalSecret = some _ := hread
    obtain rfl := Option.some.inj (hsecret.symm.trans hraw)
    obtain ⟨text, -, rfl, hne⟩ := hset
    exact ⟨Text.trim_trim text, hne⟩
  | unset _ hdefault =>
    have hnone : c.internalSecret = none := (Option.some.inj hdefault).symm
    rw [hnone] at hsecret
    cases hsecret

/-- **The secret opens both doors, and nothing else does.** Let the secret of an accepted
    configuration be one that can be sent, and let a deployment have it for both checks. If it is of
    ASCII, the header of its own with just its bytes passes the first check, and the scheme, a blank
    and its bytes pass the second one. If it has another character, neither check is ever passed. No
    other text in the header passes, and no other token. -/
theorem secret_opens_both (env : Environment) (c : ServiceConfig) (secret : String)
    (h : load env = .ok c) (hsecret : c.internalSecret = some secret)
    (hsendable : isSendable secret = true) (site : Site) (hheader : site.secret = c.internalSecret)
    (htoken : site.authenticator = .sharedSecret secret) (r : Request) :
    (Text.IsAscii secret →
      (Carries r.headers "secret" (Bytes.ofText secret) → site.checkSecret r = .ok ()) ∧
      (Carries r.headers "authorization" (Bytes.ofText "Bearer " ++ Bytes.ofText secret) →
        site.caller r = .done (.ok Auth.internalPrincipal))) ∧
    (¬Text.IsAscii secret → (∃ cause, site.checkSecret r = .error cause) ∧
      ∃ cause, site.caller r = .done (.error cause)) ∧
    (∀ text, Shows r.headers "secret" text → text ≠ secret →
      ∃ cause, site.checkSecret r = .error cause) ∧
    ∀ token, r.Bears token → token ≠ secret → ∃ cause, site.caller r = .done (.error cause) := by
  obtain ⟨htrim, hne⟩ := trim_internalSecret h hsecret
  rw [hsecret] at hheader
  refine ⟨fun hascii => ⟨fun hcarries => ?_, fun hcarries => ?_⟩, fun hascii => ⟨?_, ?_⟩,
    fun text hshows hother => ?_, fun token hbears hother => ?_⟩
  · exact Site.checkSecret_eq_ok_iff.mpr
      ⟨secret, hheader, shows_iff.mpr ⟨hcarries, hascii, hsendable⟩⟩
  · have hbears := (bears_iff_of_carries htrim hne hsendable hcarries).mpr ⟨rfl, hascii⟩
    rw [Site.caller_of_bears hbears htoken, if_pos rfl]
  · exact Site.exists_checkSecret_eq_error fun htrusts =>
      hascii (Site.isAscii_of_trusts htrusts hheader)
  · exact Site.exists_caller_eq_error htoken fun hbears => hascii (isAscii_of_bears hbears)
  · refine Site.exists_checkSecret_eq_error fun ⟨given, hgiven, hshows'⟩ => ?_
    obtain rfl := Option.some.inj (hgiven.symm.trans hheader)
    exact hother (hshows.unique hshows')
  · exact Site.exists_caller_eq_error htoken fun hbears' =>
      hother (Site.bears_unique hbears hbears')

/-- A site that has a secret for both checks. -/
def siteBehind (secret : String) : Site :=
  { Site.behindSecret with secret := some secret, authenticator := .sharedSecret secret }

/-- A request with a secret in both headers. -/
def requestWith (secret : String) : Request :=
  { Site.contextRequest with
    headers := [("Secret", Bytes.ofText secret),
      ("Authorization", Bytes.ofText "Bearer " ++ Bytes.ofText secret)] }

/-- Blanks around what is set are not of the secret, a blank inside is. -/
theorem secret_opens_both_blank :
    ((siteBehind "correct horse").checkSecret (requestWith "correct horse") = .ok () ∧
      (siteBehind "correct horse").caller (requestWith "correct horse") =
        .done (.ok Auth.internalPrincipal)) ∧
      ∃ cause, (siteBehind "correct horse").checkSecret (requestWith "correct  horse") =
        .error cause := by
  obtain ⟨c, h, hsecret⟩ : ∃ c, load (settingWith .internalSecret " correct horse ") = .ok c ∧
      c.internalSecret = some "correct horse" := ⟨_, rfl, by decide +kernel⟩
  have hboth := secret_opens_both _ c _ h hsecret (by decide +kernel) (siteBehind "correct horse")
    hsecret.symm rfl
  have hopens := (hboth (requestWith "correct horse")).1 (by decide +kernel)
  have hshut := (hboth (requestWith "correct  horse")).2.2.1 "correct  horse"
  exact ⟨⟨hopens.1 ⟨[], _, _, rfl, by decide, by simp⟩,
      hopens.2 ⟨[("Secret", _)], _, _, rfl, by decide, by decide⟩⟩,
    hshut (headerText?_eq_some_iff.mp (by decide +kernel)) (by decide)⟩

/-- Not every accepted secret that can be sent opens the doors: one with a letter outside ASCII does
    not. -/
theorem not_forall_secret_opens_both :
    ¬∀ env c secret, load env = .ok c → c.internalSecret = some secret → isSendable secret = true →
      ∀ site : Site, site.secret = c.internalSecret → site.authenticator = .sharedSecret secret →
      ∀ r : Request,
        (Carries r.headers "secret" (Bytes.ofText secret) → site.checkSecret r = .ok ()) ∧
        (Carries r.headers "authorization" (Bytes.ofText "Bearer " ++ Bytes.ofText secret) →
          site.caller r = .done (.ok Auth.internalPrincipal)) ∧
        (∀ text, Shows r.headers "secret" text → text ≠ secret →
          ∃ cause, site.checkSecret r = .error cause) ∧
        ∀ token, r.Bears token → token ≠ secret →
          ∃ cause, site.caller r = .done (.error cause) := by
  intro hall
  obtain ⟨c, h, hsecret⟩ : ∃ c, load (settingWith .internalSecret "sécret") = .ok c ∧
      c.internalSecret = some "sécret" := ⟨_, rfl, by decide +kernel⟩
  have hopens := (hall _ c _ h hsecret (by decide +kernel) (siteBehind "sécret") hsecret.symm rfl
    (requestWith "sécret")).1 ⟨[], _, _, rfl, by decide, by simp⟩
  have hascii := Site.isAscii_of_trusts (Site.checkSecret_eq_ok_iff.mp hopens) rfl
  exact absurd hascii (by decide +kernel)

end Config

end Tenancy
