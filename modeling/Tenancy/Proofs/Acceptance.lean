import Tenancy.Proofs.Settings

/-!
# Which environments are accepted

Loading first reads one setting after the other and then checks what it has read. Each of these steps
asks one thing of one setting, a demand, so what loading asks is a list of demands, in the order of the
steps. A step that follows another is only reached where the demands of the first are met, so the first
demand that is not met is the one that loading reports.

## Key results

- `Judges.bind`: the demands of two steps one after the other
- `judges_loadDatabase`, `judges_read`, `judges_validate`: the demands of each stage
- `gives_of_load`: an accepted configuration has what the environment gives
- `met_of_load`: an accepted environment meets all demands
- `load_decides`: loading accepts what meets all demands and else reports the first unmet one
-/

namespace Tenancy.Config

/-! ## Demands -/

/-- What a step of loading asks of an environment about one setting. -/
inductive Demand where
  /-- The setting's key is set. -/
  | present (s : Setting)
  /-- What the key is set to writes a value. -/
  | readable (s : Setting)
  /-- The value that the environment gives the setting passes a check. -/
  | fits (s : Setting) (check : Environment → s.kind.Value → Prop)

namespace Demand

/-- The setting that a demand is about. -/
def setting : Demand → Setting
  | present s => s
  | readable s => s
  | fits s _ => s

/-- An environment meets a demand. -/
def Met (env : Environment) : Demand → Prop
  | present s => ∃ raw, env.Sets s.key raw
  | readable s => ∀ raw, env.Sets s.key raw → ∃ value, s.kind.Reads raw value
  | fits s check => ∀ value, env.Gives s value → check env value

/-- How a demand that is not met is reported: a key that is not set as missing, and everything else as
    an invalid setting. -/
def Reports : Demand → ConfigError → Prop
  | present s, e => e = .missing s.key
  | d, e => ∃ problem, e = .invalid d.setting.key problem

end Demand

/-- A failure reports the first of the demands that is not met. -/
def FirstUnmet (env : Environment) (ds : List Demand) (e : ConfigError) : Prop :=
  ∃ before d after, ds = before ++ d :: after ∧ (∀ d ∈ before, d.Met env) ∧ ¬d.Met env ∧ d.Reports e

/-- The demands of reading the settings of a connection. -/
def poolDemands (cluster : Cluster) : List Demand :=
  [.present (.pool cluster .url), .readable (.pool cluster .maxOpen),
    .readable (.pool cluster .minIdle), .readable (.pool cluster .maxLifetime),
    .readable (.pool cluster .simpleProtocol), .readable (.pool cluster .acquireTimeout)]

/-- The demands of checking the settings of a connection: the address has one of the two schemes, the
    pool has a connection, and no more connections are kept idle than there may be. -/
def poolChecks (cluster : Cluster) : List Demand :=
  [.fits (.pool cluster .url) fun _ url => IsPostgresUrl url,
    .fits (.pool cluster .maxOpen) fun _ maxOpen => 1 ≤ maxOpen,
    .fits (.pool cluster .minIdle) fun env minIdle =>
      ∀ maxOpen, env.Gives (.pool cluster .maxOpen) maxOpen → minIdle ≤ maxOpen]

/-- The demands of reading all settings. -/
def readDemands : List Demand :=
  .readable .defaultTenant :: .readable .gracefulDelay :: .readable .requestTimeout ::
    (poolDemands .registry ++ (poolDemands .operations ++
      [.readable .reconcileInterval, .readable .reconcileStaleAfter]))

/-- The demands of checking what was read. -/
def checkDemands : List Demand :=
  poolChecks .registry ++ (poolChecks .operations ++
    [.fits .serviceName fun _ name => IsModuleName name,
      .fits .ownerRole fun _ role => IsIdentifier role,
      .fits .registrySchema fun _ schema => IsIdentifier schema,
      .fits .requestTimeout fun _ timeout => timeout ≠ ⟨0⟩,
      .fits .reconcileInterval fun _ interval => interval ≠ ⟨0⟩])

/-- The demands of loading, in the order of its steps. -/
def demands : List Demand := readDemands ++ checkDemands

/-! ## Steps and their demands -/

variable {α β : Type} {env : Environment} {ds ds' : List Demand} {d : Demand} {e : ConfigError}

theorem FirstUnmet.not_met (h : FirstUnmet env ds e) : ¬∀ d ∈ ds, d.Met env := by
  obtain ⟨before, d, after, rfl, -, hunmet, -⟩ := h
  exact fun hmet => hunmet (hmet d (by simp))

theorem FirstUnmet.append (h : FirstUnmet env ds e) : FirstUnmet env (ds ++ ds') e := by
  obtain ⟨before, d, after, rfl, hbefore, hunmet, hreports⟩ := h
  exact ⟨before, d, after ++ ds', by simp, hbefore, hunmet, hreports⟩

theorem FirstUnmet.append_left (h : FirstUnmet env ds' e) (hmet : ∀ d ∈ ds, d.Met env) :
    FirstUnmet env (ds ++ ds') e := by
  obtain ⟨before, d, after, rfl, hbefore, hunmet, hreports⟩ := h
  refine ⟨ds ++ before, d, after, by simp, ?_, hunmet, hreports⟩
  exact List.forall_mem_append.mpr ⟨hmet, hbefore⟩

/-- A step decides by its demands: it has a result, about which something is known, where they are all
    met, and else it reports the first one that is not. -/
inductive Judges (env : Environment) (ds : List Demand) (post : α → Prop) :
    Except ConfigError α → Prop
  | ok {a : α} (hmet : ∀ d ∈ ds, d.Met env) (hpost : post a) : Judges env ds post (.ok a)
  | error {e : ConfigError} (hunmet : FirstUnmet env ds e) : Judges env ds post (.error e)

namespace Judges

variable {post : α → Prop} {a : α}

/-- A result that asks for nothing. -/
theorem pure (h : post a) : Judges env [] post (.ok a) :=
  .ok (by simp) h

/-- A demand that is met, and a result. -/
theorem met (hmet : d.Met env) (h : post a) : Judges env [d] post (.ok a) :=
  .ok (by simpa using hmet) h

/-- A demand that is not met, and its report. -/
theorem unmet (hunmet : ¬d.Met env) (h : d.Reports e) : Judges env [d] post (.error e) :=
  .error ⟨[], d, [], rfl, by simp, hunmet, h⟩

/-- Demands that are met go before those of a step. -/
theorem append_left {x : Except ConfigError α} (h : Judges env ds' post x)
    (hmet : ∀ d ∈ ds, d.Met env) : Judges env (ds ++ ds') post x := by
  cases h with
  | ok hmet' hpost => exact .ok (List.forall_mem_append.mpr ⟨hmet, hmet'⟩) hpost
  | error hunmet => exact .error (hunmet.append_left hmet)

/-- A step that follows another adds its demands. -/
theorem bind {post' : β → Prop} {x : Except ConfigError α} {f : α → Except ConfigError β}
    (hx : Judges env ds post x) (hf : ∀ a, post a → Judges env ds' post' (f a)) :
    Judges env (ds ++ ds') post' (x >>= f) := by
  cases hx with
  | ok hmet hpost => exact (hf _ hpost).append_left hmet
  | error hunmet => exact .error hunmet.append

end Judges

/-- Reading a setting with a default demands that what is written can be read. -/
theorem judges_getWith (s : Setting) {read? : String → Option s.kind.Value}
    {problem : String → Problem} {default : s.kind.Value}
    (hread : ∀ {raw value}, read? raw = some value ↔ s.kind.Reads raw value)
    (hdefault : s.default? = some default) :
    Judges env [.readable s] (env.Gives s) (env.getWith read? problem s.key default) := by
  rw [Environment.getWith]
  split
  next hunset =>
    have hunset := Environment.get_eq_none_iff.mp hunset
    exact .met (fun raw hset => absurd hset (hunset raw)) (.unset hunset hdefault)
  next raw hset =>
    have hset := Environment.get_eq_some_iff.mp hset
    split
    next value hvalue =>
      have hvalue := hread.mp hvalue
      exact .met (fun raw' hset' => ⟨value, hset.unique hset' ▸ hvalue⟩) (.written hset hvalue)
    next hnone =>
      refine .unmet (fun hmet => ?_) ⟨_, rfl⟩
      obtain ⟨value, hvalue⟩ := hmet raw hset
      rw [hread.mpr hvalue] at hnone
      cases hnone

/-- A check of a value that the environment gives demands that the value passes. -/
theorem judges_require (s : Setting) {check : Environment → s.kind.Value → Prop}
    {value : s.kind.Value} {condition : Prop} [Decidable condition] {problem : Problem}
    (hgives : env.Gives s value) (hcheck : condition ↔ check env value) :
    Judges env [.fits s check] (fun _ => True) (require condition s.key problem) := by
  rw [require]
  split
  next h => exact .met (fun value' hgives' => hgives.unique hgives' ▸ hcheck.mp h) trivial
  next h => exact .unmet (fun hmet => h (hcheck.mpr (hmet value hgives))) ⟨_, rfl⟩

/-! ## The stages of loading -/

theorem judges_loadDatabase (cluster : Cluster) :
    Judges env (poolDemands cluster)
      (fun db => ∀ part, env.Gives (.pool cluster part) (db.value part))
      (loadDatabase env cluster.stem) := by
  rw [loadDatabase]
  -- the address has no default: without it nothing else is read
  split
  next url hset =>
    have hset : env.Sets (Setting.pool cluster .url).key url := Environment.get_eq_some_iff.mp hset
    have hurl : env.Gives (.pool cluster .url) url := .written hset rfl
    refine Judges.bind (x := .ok url) (.met (d := .present _) ⟨url, hset⟩ hurl) fun url hurl => ?_
    refine (judges_getWith (.pool cluster .maxOpen) readCount?_eq_some_iff rfl).bind
      fun maxOpen hmaxOpen => ?_
    refine (judges_getWith (.pool cluster .minIdle) readCount?_eq_some_iff rfl).bind
      fun minIdle hminIdle => ?_
    refine (judges_getWith (.pool cluster .maxLifetime) .rfl rfl).bind fun lifetime hlifetime => ?_
    refine (judges_getWith (.pool cluster .simpleProtocol) readFlag?_eq_some_iff rfl).bind
      fun simple hsimple => ?_
    refine (judges_getWith (.pool cluster .acquireTimeout) .rfl rfl).bind fun timeout htimeout => ?_
    refine .pure fun part => ?_
    cases part
    · exact hurl
    · exact hmaxOpen
    · exact hminIdle
    · exact hlifetime
    · exact hsimple
    · exact htimeout
  next hunset =>
    have hunset := Environment.get_eq_none_iff.mp hunset
    exact .error ⟨[], _, _, rfl, by simp, fun ⟨raw, hset⟩ => hunset raw hset, rfl⟩

/-- The default origin is read as itself. -/
private theorem readOrigins_defaultOrigin : readOrigins defaultOrigin = [defaultOrigin] := by
  decide +kernel

theorem judges_read : Judges env readDemands (fun c => ∀ s, env.Gives s (c.value s)) (read env) := by
  rw [read]
  refine (judges_getWith .defaultTenant .rfl rfl).bind fun tenant htenant => ?_
  refine (judges_getWith .gracefulDelay .rfl rfl).bind fun delay hdelay => ?_
  refine (judges_getWith .requestTimeout .rfl rfl).bind fun timeout htimeout => ?_
  refine (judges_loadDatabase .registry).bind fun registry hregistry => ?_
  refine (judges_loadDatabase .operations).bind fun operations hoperations => ?_
  refine (judges_getWith .reconcileInterval .rfl rfl).bind fun interval hinterval => ?_
  refine (judges_getWith .reconcileStaleAfter .rfl rfl).bind fun stale hstale => ?_
  refine .pure fun s => ?_
  -- what can be written wrongly was read by a step of its own, any other text is taken as it is
  cases s with
  | defaultTenant => exact htenant
  | gracefulDelay => exact hdelay
  | requestTimeout => exact htimeout
  | pool cluster part =>
    cases cluster
    · exact hregistry part
    · exact hoperations part
  | reconcileInterval => exact hinterval
  | reconcileStaleAfter => exact hstale
  | allowedOrigins =>
    exact Environment.gives_of_get .allowedOrigins (fun text => readOrigins (text.getD _))
      (fun _ => rfl) (congrArg some readOrigins_defaultOrigin.symm)
  | internalSecret => exact Environment.gives_of_get .internalSecret id (fun _ => rfl) rfl
  | scriptPath => exact Environment.gives_of_get .scriptPath id (fun _ => rfl) rfl
  | environment => exact Environment.gives_of_get .environment (·.getD _) (fun _ => rfl) rfl
  | httpAddress => exact Environment.gives_of_get .httpAddress (·.getD _) (fun _ => rfl) rfl
  | serviceName => exact Environment.gives_of_get .serviceName (·.getD _) (fun _ => rfl) rfl
  | ownerRole => exact Environment.gives_of_get .ownerRole (·.getD _) (fun _ => rfl) rfl
  | registrySchema => exact Environment.gives_of_get .registrySchema (·.getD _) (fun _ => rfl) rfl

theorem judges_checkDatabase {c : ServiceConfig} (h : ∀ s, env.Gives s (c.value s))
    (cluster : Cluster) : Judges env (poolChecks cluster) (fun _ => True)
      (checkDatabase cluster.stem (c.databaseOf cluster)) := by
  refine (judges_require _ (h (.pool cluster .url)) isPostgresUrl_iff).bind fun _ _ => ?_
  refine (judges_require _ (h (.pool cluster .maxOpen)) Nat.one_le_iff_ne_zero.symm).bind
    fun _ _ => ?_
  refine judges_require _ (h (.pool cluster .minIdle)) ⟨fun hle maxOpen hgives => ?_, fun hall => ?_⟩
  · exact (h (.pool cluster .maxOpen)).unique hgives ▸ hle
  · exact hall _ (h (.pool cluster .maxOpen))

theorem judges_validate {c : ServiceConfig} (h : ∀ s, env.Gives s (c.value s)) :
    Judges env checkDemands (fun _ => True) (validate c) := by
  rw [validate]
  refine (judges_checkDatabase h .registry).bind fun _ _ => ?_
  refine (judges_checkDatabase h .operations).bind fun _ _ => ?_
  refine (judges_require _ (h .serviceName) isSome_ofName?_iff).bind fun _ _ => ?_
  refine (judges_require _ (h .ownerRole) isPlainIdentifier_iff).bind fun _ _ => ?_
  refine (judges_require _ (h .registrySchema) isPlainIdentifier_iff).bind fun _ _ => ?_
  refine (judges_require _ (h .requestTimeout) .rfl).bind fun _ _ => ?_
  exact judges_require _ (h .reconcileInterval) .rfl

theorem judges_load (env : Environment) :
    Judges env demands (fun c => ∀ s, env.Gives s (c.value s)) (load env) := by
  refine judges_read.bind fun c hc => ?_
  -- handing out the configuration is a step without demands
  rw [← List.append_nil checkDemands]
  exact (judges_validate hc).bind fun _ _ => .pure hc

/-- An accepted configuration has what the environment gives. -/
theorem gives_of_load {c : ServiceConfig} (h : load env = .ok c) (s : Setting) :
    env.Gives s (c.value s) := by
  have hload := judges_load env
  rw [h] at hload
  cases hload with
  | ok _ hgives => exact hgives s

/-- An accepted environment meets all demands. -/
theorem met_of_load {c : ServiceConfig} (h : load env = .ok c) : ∀ d ∈ demands, d.Met env := by
  have hload := judges_load env
  rw [h] at hload
  cases hload with
  | ok hmet => exact hmet

/-- An environment is accepted exactly where it meets all demands, and else the failure reports the
    first one that it does not meet. -/
theorem load_decides (env : Environment) :
    ((∃ c, load env = .ok c) ↔ ∀ d ∈ demands, d.Met env) ∧
      ∀ e, load env = .error e → FirstUnmet env demands e := by
  have hload := judges_load env
  cases h : load env with
  | ok c =>
    rw [h] at hload
    cases hload with
    | ok hmet => exact ⟨⟨fun _ => hmet, fun _ => ⟨c, rfl⟩⟩, fun _ he => nomatch he⟩
  | error e =>
    rw [h] at hload
    cases hload with
    | error hunmet =>
      refine ⟨⟨fun ⟨_, hc⟩ => (nomatch hc), fun hmet => absurd hmet hunmet.not_met⟩, fun e' he => ?_⟩
      cases he
      exact hunmet

/-- An environment that sets both addresses and one more setting. -/
def settingWith (s : Setting) (raw : String) : Environment :=
  .ofList [("TENANT_DB_URL", "postgres://registry"), ("DB_URL", "postgres://operations"), (s.key, raw)]

/-- An environment that sets both addresses and how many connections to the operations cluster there
    may be. -/
def poolOf (maxOpen : String) : Environment :=
  .ofList [("TENANT_DB_URL", " postgres://registry "), ("DB_URL", "postgresql://operations"),
    ("DB_MAX_OPEN_CONNS", maxOpen), ("REQUEST_TIMEOUT", "  ")]

/-- Five connections suffice for those that are kept idle by default, three do not. -/
theorem load_decides_pool : (∀ d ∈ demands, d.Met (poolOf "+5")) ∧
    FirstUnmet (poolOf "3") demands (.invalid "DB_MAX_IDLE_CONNS" (.idleAboveOpen 5 3)) := by
  have haccepted : ∃ c, load (poolOf "+5") = .ok c := ⟨_, rfl⟩
  have hrefused : load (poolOf "3") = .error (.invalid "DB_MAX_IDLE_CONNS" (.idleAboveOpen 5 3)) := by
    decide +kernel
  exact ⟨(load_decides (poolOf "+5")).1.mp haccepted,
    (load_decides (poolOf "3")).2 _ hrefused⟩

end Tenancy.Config
