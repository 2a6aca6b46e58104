import Tenancy.Http.Cors
import Tenancy.Proofs.Acceptance
import Tenancy.Proofs.TextBytes
import Tenancy.Ticker

/-!
# Which accepted settings can be served

Before a service answers its first request, its layers are put together and the ticker of
reconciliation starts. There is no ticker without an interval, and there is no rule for browsers with
the wildcard among its origins. Loading asks for an interval. It does not ask anything of the origins:
whatever stands between two commas is one, the wildcard too.

## Key results

- `mem_readOrigins_iff`: the origins in a list
- `exists_ofOrigins?_iff`: which origins there is a rule for
- `servable_iff`: an accepted configuration can be served unless the wildcard is listed
-/

namespace Tenancy

namespace Config

variable {env : Environment} {c : ServiceConfig} {raw origin : String}

/-! ## Listed origins -/

/-- A text lists an origin: the text is made up of pieces with commas between them, and one of the
    pieces is the origin without the white space around it. -/
def Lists (raw origin : String) : Prop :=
  ∃ pieces, raw.toList = [','].intercalate pieces ∧ (∀ piece ∈ pieces, ',' ∉ piece) ∧
    ∃ piece ∈ pieces, Text.trim (String.ofList piece) = origin ∧ origin ≠ ""

/-- No piece has the mark at which a list was taken apart. -/
theorem not_mem_of_mem_splitOn {mark : Char} {piece cs : List Char} (h : piece ∈ cs.splitOn mark) :
    mark ∉ piece := by
  induction cs generalizing piece with
  | nil =>
    rw [List.splitOn_nil, List.mem_singleton] at h
    exact h ▸ List.not_mem_nil
  | cons c rest ih =>
    rw [List.splitOn_cons_eq_if_modifyHead] at h
    split at h
    next =>
      cases List.mem_cons.mp h with
      | inl hempty => exact hempty ▸ List.not_mem_nil
      | inr hlater => exact ih hlater
    next hc =>
      -- another character belongs to the first piece of the rest
      obtain ⟨first, others, hrest⟩ := List.exists_cons_of_ne_nil (List.splitOn_ne_nil mark rest)
      rw [hrest] at h ih
      cases List.mem_cons.mp h with
      | inl hfirst =>
        rw [hfirst, List.mem_cons, not_or]
        exact ⟨fun hmark => hc (beq_iff_eq.mpr hmark.symm), ih List.mem_cons_self⟩
      | inr hlater => exact ih (List.mem_cons_of_mem first hlater)

/-- The origins in a list are those that it lists. -/
theorem mem_readOrigins_iff : origin ∈ readOrigins raw ↔ Lists raw origin := by
  simp only [readOrigins, List.mem_filterMap, Text.nonBlank?_eq_some_iff, Lists]
  constructor
  · intro hpiece
    exact ⟨_, (List.intercalate_splitOn ',').symm, fun piece h => not_mem_of_mem_splitOn h, hpiece⟩
  · rintro ⟨pieces, hraw, hcommas, piece, hmem, horigin⟩
    -- what lies between the commas can be read off the text
    have hsplit : raw.toList.splitOn ',' = pieces := by
      rw [hraw]
      exact List.splitOn_intercalate ',' hcommas (List.ne_nil_of_mem hmem)
    exact ⟨piece, hsplit ▸ hmem, horigin⟩

/-- An environment lists an origin. -/
def Environment.ListsOrigin (env : Environment) (origin : String) : Prop :=
  ∃ raw, env.Sets Setting.allowedOrigins.key raw ∧ Lists raw origin

theorem Environment.listsOrigin_iff : env.ListsOrigin origin ↔
    ∃ raw, env.get Setting.allowedOrigins.key = some raw ∧ origin ∈ readOrigins raw := by
  simp only [ListsOrigin, get_eq_some_iff, mem_readOrigins_iff]

/-- The wildcard is among the origins of an accepted configuration only where it is listed. -/
theorem wildcard_mem_allowedOrigins_iff (h : load env = .ok c) :
    "*" ∈ c.allowedOrigins ↔ env.ListsOrigin "*" := by
  cases gives_of_load h .allowedOrigins with
  | written hset hread =>
    have horigins : c.allowedOrigins = readOrigins _ := hread
    rw [horigins, mem_readOrigins_iff]
    exact ⟨fun hlists => ⟨_, hset, hlists⟩, fun ⟨_, hset', hlists⟩ => hset.unique hset' ▸ hlists⟩
  | unset hunset hdefault =>
    have horigins : c.allowedOrigins = [defaultOrigin] := (Option.some.inj hdefault).symm
    rw [horigins]
    exact ⟨fun hmem => absurd hmem (by decide), fun ⟨raw, hset, _⟩ => absurd hset (hunset raw)⟩

end Config

/-! ## What is put together -/

namespace Http.Cors

variable {origins : List String}

theorem wildcard_mem_sendable_iff : Bytes.ofText "*" ∈ sendable origins ↔ "*" ∈ origins := by
  have hsendable : isSendable "*" = true := by decide +kernel
  rw [sendable, List.mem_map_of_injective Bytes.ofText_injective, List.mem_filter,
    and_iff_left hsendable]

/-- There is a rule for all origins but the wildcard. -/
theorem exists_ofOrigins?_iff : (∃ cors, ofOrigins? origins = some cors) ↔ "*" ∉ origins := by
  rw [← wildcard_mem_sendable_iff, ofOrigins?]
  split
  next h => simp [h]
  next h => simp [h]

end Http.Cors

namespace Config

/-- What serving begins with can be put together: the rule for browsers, and a ticker for
    reconciliation whenever it starts. -/
def ServiceConfig.Servable (c : ServiceConfig) : Prop :=
  (∃ cors, Http.Cors.ofOrigins? c.allowedOrigins = some cors) ∧
    ∀ now, ∃ ticker, Ticker.start? c.reconcileInterval now = some ticker

/-- Loading asks for an interval. -/
theorem exists_start?_of_load (h : load env = .ok c) (now : Nat) :
    ∃ ticker, Ticker.start? c.reconcileInterval now = some ticker := by
  have hdemand : Demand.fits .reconcileInterval (fun _ interval => interval ≠ ⟨0⟩) ∈ demands := by
    simp [demands, checkDemands]
  have hinterval := met_of_load h _ hdemand _ (gives_of_load h .reconcileInterval)
  exact Option.isSome_iff_exists.mp (Ticker.isSome_start?_iff.mpr hinterval)

/-- An accepted configuration can be served unless the wildcard is listed as an origin. -/
theorem servable_iff (h : load env = .ok c) : c.Servable ↔ ¬env.ListsOrigin "*" := by
  rw [ServiceConfig.Servable, Http.Cors.exists_ofOrigins?_iff, wildcard_mem_allowedOrigins_iff h]
  exact and_iff_left (exists_start?_of_load h)

/-- A pattern with an asterisk in it is an origin like others, an asterisk alone is not. -/
theorem servable_iff_listed :
    (∃ c, load (settingWith .allowedOrigins "https://*.example.com,") = .ok c ∧ c.Servable) ∧
      ∃ c, load (settingWith .allowedOrigins "https://example.com, * ,") = .ok c ∧ ¬c.Servable := by
  obtain ⟨c, h⟩ : ∃ c, load (settingWith .allowedOrigins "https://*.example.com,") = .ok c := ⟨_, rfl⟩
  obtain ⟨c', h'⟩ : ∃ c, load (settingWith .allowedOrigins "https://example.com, * ,") = .ok c :=
    ⟨_, rfl⟩
  refine ⟨⟨c, h, (servable_iff h).mpr ?_⟩, c', h', fun hservable => (servable_iff h').mp hservable ?_⟩
  · rw [Environment.listsOrigin_iff]
    rintro ⟨raw, hraw, hmem⟩
    obtain rfl := Option.some.inj
      (hraw.symm.trans (show _ = some "https://*.example.com," by decide +kernel))
    revert hmem
    decide +kernel
  · exact Environment.listsOrigin_iff.mpr
      ⟨"https://example.com, * ,", by decide +kernel, by decide +kernel⟩

/-- Not everything that is accepted can be served: the wildcard alone is accepted. -/
theorem not_forall_servable : ¬∀ env c, load env = .ok c → c.Servable := by
  intro hall
  obtain ⟨c, h⟩ : ∃ c, load (settingWith .allowedOrigins "*") = .ok c := ⟨_, rfl⟩
  have hwildcard : "*" ∈ c.allowedOrigins := (wildcard_mem_allowedOrigins_iff h).mpr
    (Environment.listsOrigin_iff.mpr ⟨"*", by decide +kernel, by decide +kernel⟩)
  exact Http.Cors.exists_ofOrigins?_iff.mp (hall _ c h).1 hwildcard

end Config

end Tenancy
