import Tenancy.Proofs.Acceptance

/-!
# What each setting affects

Loading reads an environment only at the keys of settings, and there only the text that is left without
the white space around it. So environments that agree on these keys load alike, failures included. Each
setting is the value of one field: where two environments are accepted that differ in one setting, the
configurations differ in its field at most, and no setting of one cluster reaches the connection to the
other.

## Key results

- `loadDatabase_congr`, `load_congr`: loading reads nothing but settings
- `value_eq_of_agree`: a field depends on its own setting
- `load_local`: both of these, with what follows for the two clusters
-/

namespace Tenancy.Config

variable {env env' : Environment} {c c' : ServiceConfig} {s : Setting} {cluster : Cluster}

theorem loadDatabase_congr (cluster : Cluster)
    (h : ∀ part, env.Agree env' (Setting.pool cluster part).key) :
    loadDatabase env cluster.stem = loadDatabase env' cluster.stem := by
  have hget : ∀ part ∈ PoolSetting.all,
      env.get (cluster.stem ++ part.suffix) = env'.get (cluster.stem ++ part.suffix) :=
    fun part _ => Environment.agree_iff.mp (h part)
  simp only [PoolSetting.all, List.forall_mem_cons, PoolSetting.suffix] at hget
  simp only [loadDatabase, countOr, durationOr, flagOr, Environment.getWith, hget]

theorem load_congr (h : ∀ s : Setting, env.Agree env' s.key) : load env = load env' := by
  have hregistry : loadDatabase env registryStem = loadDatabase env' registryStem :=
    loadDatabase_congr .registry fun part => h (.pool .registry part)
  have hoperations : loadDatabase env databaseStem = loadDatabase env' databaseStem :=
    loadDatabase_congr .operations fun part => h (.pool .operations part)
  -- the remaining settings are read by their keys, one by one
  have hget : ∀ s ∈ Setting.all, env.get s.key = env'.get s.key := fun s _ =>
    Environment.agree_iff.mp (h s)
  simp only [Setting.all, List.forall_mem_append, List.forall_mem_cons, Setting.key] at hget
  simp only [load, read, loadDefaultTenant, durationOr, Environment.getWith, hregistry, hoperations,
    hget]

/-- Two accepted configurations have the same in the field of a setting that the environments agree
    on. -/
theorem value_eq_of_agree (h : load env = .ok c) (h' : load env' = .ok c')
    (hagree : env.Agree env' s.key) : c'.value s = c.value s :=
  (gives_of_load h' s).unique ((gives_of_load h s).of_agree hagree)

/-- No key of one cluster's settings begins like those of the other cluster. -/
theorem not_stem_prefix_key {other : Cluster} (h : other ≠ cluster) (part : PoolSetting) :
    ¬cluster.stem.toList <+: (Setting.pool other part).key.toList := by
  cases cluster <;> cases other <;> first | exact absurd rfl h | cases part <;> decide +kernel

/-- Environments that agree on the keys of settings load alike. Where both are accepted, a setting
    affects its own field only, and what begins like the keys of one cluster does not affect the
    connection to the other. -/
theorem load_local (env env' : Environment) :
    ((∀ s : Setting, env.Agree env' s.key) → load env = load env') ∧
      ∀ c c', load env = .ok c → load env' = .ok c' →
        (∀ s : Setting, (∀ other : Setting, other ≠ s → env.Agree env' other.key) →
          ∃ value, c' = c.put s value) ∧
        ∀ cluster : Cluster, (∀ key, ¬cluster.stem.toList <+: key.toList → env.Agree env' key) →
          ∀ other, other ≠ cluster → c'.databaseOf other = c.databaseOf other := by
  refine ⟨load_congr, fun c c' h h' => ⟨fun s hagree => ?_, fun cluster hagree other hother => ?_⟩⟩
  · refine ⟨c'.value s, ServiceConfig.eq_put fun other hother => ?_⟩
    exact value_eq_of_agree h h' (hagree other hother)
  · refine DatabaseSettings.eq_of_value fun part => ?_
    exact value_eq_of_agree (s := .pool other part) h h' (hagree _ (not_stem_prefix_key hother part))

/-- White space around a number changes nothing, and another number changes its own field. -/
theorem load_local_pool : load (poolOf "7") = load (poolOf " 7 ") ∧
    ∃ c c', load (poolOf "5") = .ok c ∧ load (poolOf "7") = .ok c' ∧
      (∃ value, c' = c.put (.pool .operations .maxOpen) value) ∧
      c'.databaseOf .registry = c.databaseOf .registry := by
  have hpadded : ∀ s ∈ Setting.all, (poolOf "7").get s.key = (poolOf " 7 ").get s.key := by
    decide +kernel
  have hothers : ∀ key, key ≠ "DB_MAX_OPEN_CONNS" → (poolOf "5").Agree (poolOf "7") key := by
    intro key hkey
    have hlookup : poolOf "5" key = poolOf "7" key := by
      simp only [poolOf, Environment.ofList, List.lookup_cons, beq_eq_false_iff_ne.mpr hkey]
    rw [Environment.agree_iff, Environment.get, Environment.get, hlookup]
  have haccepted : ∃ c, load (poolOf "5") = .ok c := ⟨_, rfl⟩
  have haccepted' : ∃ c, load (poolOf "7") = .ok c := ⟨_, rfl⟩
  obtain ⟨c, h⟩ := haccepted
  obtain ⟨c', h'⟩ := haccepted'
  obtain ⟨hone, hcluster⟩ := (load_local (poolOf "5") (poolOf "7")).2 c c' h h'
  refine ⟨(load_local _ _).1 fun s => Environment.agree_iff.mpr (hpadded s s.mem_all),
    c, c', h, h', hone _ fun other hother => hothers _ fun heq => hother ?_,
    hcluster .operations (fun key hkey => hothers key ?_) .registry (by decide)⟩
  · exact Setting.key_injective heq
  · rintro rfl
    exact hkey (by decide +kernel)

end Tenancy.Config
