import Mathlib.Data.List.Nodup
import Tenancy.Database
import Tenancy.Proofs.SettingText

/-!
# Settings and what an environment gives them

A setting has a key, a kind that says how its value is written, and a default, unless it is the address
of a database. An environment gives a setting what is written under its key, without the white space
around it, or the default where nothing is. A configuration has one field for every setting, and
nothing else.

## Key results

- `Setting.key_injective`: no two settings share a key
- `Environment.Gives.unique`: an environment gives a setting at most one value
- `ServiceConfig.eq_put`: two configurations that differ in one setting differ in its field
-/

namespace Tenancy

/-- What the keys of a cluster's settings begin with. -/
def Cluster.stem : Cluster → String
  | registry => Config.registryStem
  | operations => Config.databaseStem

namespace Config

/-! ## Kinds -/

/-- How the value of a setting is written. -/
inductive Kind where
  | text
  /-- A text that may be absent. -/
  | optionalText
  | count
  | flag
  | duration
  | tenant
  /-- Texts between commas. -/
  | origins

namespace Kind

/-- The values of settings of a kind. -/
abbrev Value : Kind → Type
  | text => String
  | optionalText => Option String
  | count => Nat
  | flag => Bool
  | duration => Duration
  | tenant => TenantId
  | origins => List String

/-- A text writes a value. -/
def Reads : (kind : Kind) → String → kind.Value → Prop
  | text, raw, value => value = raw
  | optionalText, raw, value => value = some raw
  | count, raw, value => IsCount raw value
  | flag, raw, value => IsFlag raw value
  | duration, raw, value => Duration.ofText? raw = some value
  | tenant, raw, value => TenantId.ofText? raw = some value
  | origins, raw, value => value = readOrigins raw

theorem Reads.unique {kind : Kind} {raw : String} {value value' : kind.Value}
    (h : kind.Reads raw value) (h' : kind.Reads raw value') : value = value' := by
  cases kind with
  | text => exact h.trans h'.symm
  | optionalText => exact h.trans h'.symm
  | count =>
    exact Option.some.inj ((readCount?_eq_some_iff.mpr h).symm.trans (readCount?_eq_some_iff.mpr h'))
  | flag =>
    exact Option.some.inj ((readFlag?_eq_some_iff.mpr h).symm.trans (readFlag?_eq_some_iff.mpr h'))
  | duration => exact Option.some.inj (Eq.trans (Eq.symm h) h')
  | tenant => exact Option.some.inj (Eq.trans (Eq.symm h) h')
  | origins => exact h.trans h'.symm

end Kind

/-! ## Settings -/

/-- The settings of the connection to one database cluster. -/
inductive PoolSetting where
  | url
  | maxOpen
  | minIdle
  | maxLifetime
  | simpleProtocol
  | acquireTimeout
  deriving DecidableEq

namespace PoolSetting

/-- The settings of a connection. -/
def all : List PoolSetting := [url, maxOpen, minIdle, maxLifetime, simpleProtocol, acquireTimeout]

/-- What the key has after the stem of its cluster. -/
def suffix : PoolSetting → String
  | url => "URL"
  | maxOpen => "MAX_OPEN_CONNS"
  | minIdle => "MAX_IDLE_CONNS"
  | maxLifetime => "CONN_MAX_LIFETIME"
  | simpleProtocol => "PREFER_SIMPLE_PROTO"
  | acquireTimeout => "ACQUIRE_TIMEOUT"

/-- How the setting is written. -/
abbrev kind : PoolSetting → Kind
  | url => .text
  | maxOpen | minIdle => .count
  | maxLifetime | acquireTimeout => .duration
  | simpleProtocol => .flag

/-- The value where the key is not set; an address has none. -/
def default? : (part : PoolSetting) → Option part.kind.Value
  | url => none
  | maxOpen => some (25 : Nat)
  | minIdle => some (5 : Nat)
  | maxLifetime => some (Duration.ofSecs 300)
  | simpleProtocol => some false
  | acquireTimeout => some (Duration.ofSecs 30)

end PoolSetting

/-- The settings of a service process. -/
inductive Setting where
  | environment
  | httpAddress
  | gracefulDelay
  | requestTimeout
  | serviceName
  | pool (cluster : Cluster) (part : PoolSetting)
  | ownerRole
  | registrySchema
  | defaultTenant
  | internalSecret
  | scriptPath
  | allowedOrigins
  | reconcileInterval
  | reconcileStaleAfter
  deriving DecidableEq

namespace Setting

/-- All settings. -/
def all : List Setting :=
  [environment, httpAddress, gracefulDelay, requestTimeout, serviceName] ++
    PoolSetting.all.map (pool .registry) ++ PoolSetting.all.map (pool .operations) ++
    [ownerRole, registrySchema, defaultTenant, internalSecret, scriptPath, allowedOrigins,
      reconcileInterval, reconcileStaleAfter]

/-- The key that a setting is read from. -/
def key : Setting → String
  | environment => "ENVIRONMENT"
  | httpAddress => "HTTP_ADDRESS"
  | gracefulDelay => "GRACEFUL_DELAY"
  | requestTimeout => "REQUEST_TIMEOUT"
  | serviceName => "SERVICE_NAME"
  | pool cluster part => cluster.stem ++ part.suffix
  | ownerRole => "DB_USER"
  | registrySchema => "REGISTRY_SCHEMA"
  | defaultTenant => "DEFAULT_TENANT"
  | internalSecret => "FREGO_INTERNAL_SECRET"
  | scriptPath => "PROVISION_SCRIPT_PATH"
  | allowedOrigins => "ALLOWED_ORIGINS"
  | reconcileInterval => "RECONCILE_INTERVAL"
  | reconcileStaleAfter => "RECONCILE_STALE_AFTER"

/-- How the setting is written. -/
abbrev kind : Setting → Kind
  | environment | httpAddress | serviceName | ownerRole | registrySchema => .text
  | gracefulDelay | requestTimeout | reconcileInterval | reconcileStaleAfter => .duration
  | pool _ part => part.kind
  | defaultTenant => .tenant
  | internalSecret | scriptPath => .optionalText
  | allowedOrigins => .origins

/-- The value where the key is not set; the address of a database has none. -/
def default? : (s : Setting) → Option s.kind.Value
  | environment => some "development"
  | httpAddress => some "0.0.0.0:8080"
  | gracefulDelay => some (Duration.ofSecs 5)
  | requestTimeout => some (Duration.ofSecs 30)
  | serviceName => some "operations"
  | pool _ part => part.default?
  | ownerRole => some "erp_user"
  | registrySchema => some "registry"
  | defaultTenant => some TenantId.nil
  | internalSecret => some (none : Option String)
  | scriptPath => some (none : Option String)
  | allowedOrigins => some [defaultOrigin]
  | reconcileInterval => some (Duration.ofSecs 300)
  | reconcileStaleAfter => some (Duration.ofSecs 600)

theorem mem_all (s : Setting) : s ∈ all := by
  have hpart : ∀ part, part ∈ PoolSetting.all := fun part => by cases part <;> decide
  cases s with
  | pool cluster part => cases cluster <;> simp [all, hpart]
  | _ => decide

/-- No two settings share a key. -/
theorem key_injective {s s' : Setting} (h : s.key = s'.key) : s = s' := by
  have hkeys : (all.map key).Nodup := by decide +kernel
  exact List.inj_on_of_nodup_map hkeys (mem_all s) (mem_all s') h

end Setting

/-! ## Environments -/

namespace Environment

variable {env : Environment} {key raw : String} {s : Setting}

/-- A key is set to a text: the text is what is there without the white space around it, and it is not
    empty. -/
def Sets (env : Environment) (key raw : String) : Prop :=
  ∃ text, env key = some text ∧ Text.trim text = raw ∧ raw ≠ ""

theorem get_eq_some_iff : env.get key = some raw ↔ env.Sets key raw := by
  simp only [get, Option.bind_eq_some_iff, Text.nonBlank?_eq_some_iff, Sets]

theorem get_eq_none_iff : env.get key = none ↔ ∀ raw, ¬env.Sets key raw := by
  simp only [Option.eq_none_iff_forall_ne_some, ne_eq, get_eq_some_iff]

/-- What an environment gives a setting: what is written under its key, or the default where the key is
    not set. -/
inductive Gives (env : Environment) (s : Setting) : s.kind.Value → Prop
  | written {raw : String} {value : s.kind.Value} (hset : env.Sets s.key raw)
    (hread : s.kind.Reads raw value) : Gives env s value
  | unset {value : s.kind.Value} (hunset : ∀ raw, ¬env.Sets s.key raw)
    (hdefault : s.default? = some value) : Gives env s value

theorem gives_of_get (s : Setting) (value : Option String → s.kind.Value)
    (hset : ∀ raw, s.kind.Reads raw (value (some raw))) (hunset : s.default? = some (value none)) :
    env.Gives s (value (env.get s.key)) := by
  cases h : env.get s.key with
  | some raw => exact .written (get_eq_some_iff.mp h) (hset raw)
  | none => exact .unset (get_eq_none_iff.mp h) hunset

theorem Sets.unique {raw' : String} (h : env.Sets key raw) (h' : env.Sets key raw') : raw = raw' :=
  Option.some.inj ((get_eq_some_iff.mpr h).symm.trans (get_eq_some_iff.mpr h'))

/-- An environment gives a setting at most one value. -/
theorem Gives.unique {value value' : s.kind.Value} (h : env.Gives s value)
    (h' : env.Gives s value') : value = value' := by
  cases h with
  | written hset hread =>
    cases h' with
    | written hset' hread' => exact hread.unique (hset.unique hset' ▸ hread')
    | unset hunset' => exact absurd hset (hunset' _)
  | unset hunset hdefault =>
    cases h' with
    | written hset' => exact absurd hset' (hunset _)
    | unset _ hdefault' => exact Option.some.inj (hdefault.symm.trans hdefault')

/-- Two environments agree on a key: what one of them sets it to, the other does. -/
def Agree (env env' : Environment) (key : String) : Prop := ∀ raw, env.Sets key raw ↔ env'.Sets key raw

theorem agree_iff {env' : Environment} : env.Agree env' key ↔ env.get key = env'.get key := by
  rw [Option.ext_iff]
  simp only [get_eq_some_iff, Agree]

/-- What an environment gives a setting depends on the setting's key only. -/
theorem Gives.of_agree {env' : Environment} {value : s.kind.Value} (h : env.Agree env' s.key)
    (hgives : env.Gives s value) : env'.Gives s value := by
  cases hgives with
  | written hset hread => exact .written ((h _).mp hset) hread
  | unset hunset hdefault => exact .unset (fun raw hset => hunset raw ((h raw).mpr hset)) hdefault

end Environment

/-! ## Configurations -/

/-- The value of one of a connection's settings. -/
def DatabaseSettings.value (db : DatabaseSettings) : (part : PoolSetting) → part.kind.Value
  | .url => db.url
  | .maxOpen => db.maxOpen
  | .minIdle => db.minIdle
  | .maxLifetime => db.maxLifetime
  | .simpleProtocol => db.simpleProtocol
  | .acquireTimeout => db.acquireTimeout

/-- The settings of a connection with one of them replaced. -/
def DatabaseSettings.put (db : DatabaseSettings) :
    (part : PoolSetting) → part.kind.Value → DatabaseSettings
  | .url, value => { db with url := value }
  | .maxOpen, value => { db with maxOpen := value }
  | .minIdle, value => { db with minIdle := value }
  | .maxLifetime, value => { db with maxLifetime := value }
  | .simpleProtocol, value => { db with simpleProtocol := value }
  | .acquireTimeout, value => { db with acquireTimeout := value }

namespace DatabaseSettings

variable {db db' : DatabaseSettings} {part other : PoolSetting}

/-- A connection has nothing but the values of its settings. -/
theorem eq_of_value (h : ∀ part, db.value part = db'.value part) : db = db' := by
  cases db
  cases db'
  simp only [mk.injEq]
  exact ⟨h .url, h .maxOpen, h .minIdle, h .maxLifetime, h .simpleProtocol, h .acquireTimeout⟩

@[simp] theorem value_put_self (value : part.kind.Value) : (db.put part value).value part = value := by
  cases part <;> rfl

theorem value_put_of_ne (h : other ≠ part) (value : part.kind.Value) :
    (db.put part value).value other = db.value other := by
  cases part <;> cases other <;> first | rfl | exact absurd rfl h

end DatabaseSettings

namespace ServiceConfig

/-- The settings of the connection to a cluster. -/
def databaseOf (c : ServiceConfig) : Cluster → DatabaseSettings
  | .registry => c.registryDatabase
  | .operations => c.database

/-- The value of a setting. -/
def value (c : ServiceConfig) : (s : Setting) → s.kind.Value
  | .environment => c.environment
  | .httpAddress => c.httpAddress
  | .gracefulDelay => c.gracefulDelay
  | .requestTimeout => c.requestTimeout
  | .serviceName => c.serviceName
  | .pool cluster part => (c.databaseOf cluster).value part
  | .ownerRole => c.ownerRole
  | .registrySchema => c.registrySchema
  | .defaultTenant => c.defaultTenant
  | .internalSecret => c.internalSecret
  | .scriptPath => c.scriptPath
  | .allowedOrigins => c.allowedOrigins
  | .reconcileInterval => c.reconcileInterval
  | .reconcileStaleAfter => c.reconcileStaleAfter

/-- The configuration with the field of one setting replaced. -/
def put (c : ServiceConfig) : (s : Setting) → s.kind.Value → ServiceConfig
  | .environment, value => { c with environment := value }
  | .httpAddress, value => { c with httpAddress := value }
  | .gracefulDelay, value => { c with gracefulDelay := value }
  | .requestTimeout, value => { c with requestTimeout := value }
  | .serviceName, value => { c with serviceName := value }
  | .pool .registry part, value => { c with registryDatabase := c.registryDatabase.put part value }
  | .pool .operations part, value => { c with database := c.database.put part value }
  | .ownerRole, value => { c with ownerRole := value }
  | .registrySchema, value => { c with registrySchema := value }
  | .defaultTenant, value => { c with defaultTenant := value }
  | .internalSecret, value => { c with internalSecret := value }
  | .scriptPath, value => { c with scriptPath := value }
  | .allowedOrigins, value => { c with allowedOrigins := value }
  | .reconcileInterval, value => { c with reconcileInterval := value }
  | .reconcileStaleAfter, value => { c with reconcileStaleAfter := value }

variable {c c' : ServiceConfig} {s other : Setting} {cluster : Cluster}

/-- A configuration has nothing but the values of its settings. -/
theorem eq_of_value (h : ∀ s, c.value s = c'.value s) : c = c' := by
  have hdatabase : ∀ cluster, c.databaseOf cluster = c'.databaseOf cluster := fun cluster =>
    DatabaseSettings.eq_of_value fun part => h (.pool cluster part)
  cases c
  cases c'
  simp only [mk.injEq]
  exact ⟨h .environment, h .httpAddress, h .gracefulDelay, h .requestTimeout, h .serviceName,
    hdatabase .registry, hdatabase .operations, h .ownerRole, h .registrySchema, h .defaultTenant,
    h .internalSecret, h .scriptPath, h .allowedOrigins, h .reconcileInterval,
    h .reconcileStaleAfter⟩

@[simp] theorem value_put_self (value : s.kind.Value) : (c.put s value).value s = value := by
  cases s with
  | pool cluster part => cases cluster <;> exact DatabaseSettings.value_put_self value
  | _ => rfl

theorem value_put_of_ne (h : other ≠ s) (value : s.kind.Value) :
    (c.put s value).value other = c.value other := by
  cases s with
  | pool cluster part =>
    cases other with
    | pool cluster' part' =>
      -- only a setting of the same connection is replaced in the same field
      cases cluster <;> cases cluster'
      · exact DatabaseSettings.value_put_of_ne (fun heq => h (congrArg _ heq)) value
      · rfl
      · rfl
      · exact DatabaseSettings.value_put_of_ne (fun heq => h (congrArg _ heq)) value
    | _ => cases cluster <;> rfl
  | _ => cases other <;> first | rfl | exact absurd rfl h

/-- Configurations that differ in one setting at most differ in its field at most. -/
theorem eq_put (h : ∀ other, other ≠ s → c'.value other = c.value other) :
    c' = c.put s (c'.value s) := by
  refine eq_of_value fun other => ?_
  by_cases hother : other = s
  · subst hother
    exact (value_put_self _).symm
  · exact (h other hother).trans (value_put_of_ne hother _).symm

end ServiceConfig

end Config

end Tenancy
