import Mathlib
import LintConfig.Proofs.ConfigFile.Entries
import LintConfig.Proofs.ConfigFile.Registration
import LintConfig.Proofs.Configuration.Reference

/-!
# What loading a file comes to

`Registers` says which registry some plugin entries are to give: which names, in which order, what
each is bound to, and which names share a plugin.

**The outcome.**  `load_outcome`: a file loads exactly if nothing is wrong with its plugins and its
rule entries, and then it gives that registry; otherwise the first fault is reported, and that of a
rule entry only if there is none among the plugins.

**Keys.**  If the built-in plugin was numbered before, no two definitions of the configuration share
a key (`injOn_key_of_load`), which is what validation assumes.
-/

namespace LintConfig

namespace ConfigFile

/-- The registry of some plugin entries: the built-in plugin in front, and every name of the entries
bound to the plugin of its manifest, read where it is first listed.  Names with the same path share
the plugin, and names with different paths share neither a plugin nor a rule. -/
structure Registers (view : FileView) (base : Path) (builtins : Plugin)
    (entries : List (String × Path)) (registry : Registry) : Prop where
  keys : registry.keys = "@" :: entries.map Prod.fst
  builtin : registry.get? "@" = some builtins
  bound : ∀ e ∈ entries, ∃ listed plugin, listedPath? base entries (base.join e.2) = some listed
    ∧ registry.get? e.1 = some plugin ∧ Declares view listed plugin.declaration
  shared : ∀ e ∈ entries, ∀ e' ∈ entries, ∀ plugin plugin', registry.get? e.1 = some plugin →
    registry.get? e'.1 = some plugin' →
    ((plugin = plugin' ↔ (base.join e.2).steps = (base.join e'.2).steps)
      ∧ (plugin.key = plugin'.key ↔ (base.join e.2).steps = (base.join e'.2).steps)
      ∧ ((base.join e.2).steps ≠ (base.join e'.2).steps →
          ∀ name rule name' rule', plugin.rule? name = some rule →
            plugin'.rule? name' = some rule' → rule.key ≠ rule'.key))

section Outcome

variable {view : FileView} {base : Path} {builtins : Plugin} {first next : Nat} {file : ConfigFile}
  {entries : List (String × Path)} {loaded : List (Path × Plugin)} {registry : Registry}
  {config : Configuration}

lemma Registered.registers (h : Registered view base builtins first entries loaded registry next) :
    Registers view base builtins entries registry where
  keys := h.keys
  builtin := h.builtin
  bound _ he := h.exists_bound he
  shared e he e' he' plugin plugin' hplugin hplugin' := by
    by_cases hsteps : (base.join e.2).steps = (base.join e'.2).steps
    · obtain rfl := h.eq_of_steps_eq he he' hplugin hplugin' hsteps
      exact ⟨iff_of_true rfl hsteps, iff_of_true rfl hsteps, fun hne => absurd hsteps hne⟩
    · have hapart := h.apart_of_steps_ne he he' hplugin hplugin' hsteps
      have hne : plugin ≠ plugin' := fun heq => hapart.key (congrArg Plugin.key heq)
      exact ⟨iff_of_false hne hsteps, iff_of_false hapart.key hsteps, fun _ => hapart.rules⟩

/-- Registering the plugins of a file, from the built-in plugin on. -/
lemma registerAll_outcome (file : ConfigFile) (view : FileView) (base : Path) (builtins : Plugin)
    (next : Nat) :
    (∃ loaded registry next',
        registerAll view base file.plugins.entries [] ((∅ : Registry).insert builtinName builtins)
            next = .ok (registry, next')
          ∧ Registered view base builtins next file.plugins.entries loaded registry next')
      ∨ ∃ error,
        registerAll view base file.plugins.entries [] ((∅ : Registry).insert builtinName builtins)
            next = .error error
          ∧ FirstPluginFault view base file.plugins.entries error :=
  registerAll_of_registered registered_nil file.plugins.nodup

lemma load_eq_ok_iff :
    file.load view base builtins next = .ok config
      ↔ ∃ registry next',
          registerAll view base file.plugins.entries [] ((∅ : Registry).insert builtinName builtins)
              next = .ok (registry, next')
            ∧ config.plugins = some registry ∧ file.ruleEntries = .ok config.rules := by
  rw [load]
  cases registerAll view base file.plugins.entries []
      ((∅ : Registry).insert builtinName builtins) next with
  | error cause => simp
  | ok result =>
      obtain ⟨registry, next'⟩ := result
      cases file.ruleEntries with
      | error cause => simp
      | ok rules =>
          obtain ⟨rules', plugins⟩ := config
          simp [and_comm, eq_comm]

/-- A file that loads has been registered to the end, and its rule entries normalized. -/
lemma exists_registered_of_load (h : file.load view base builtins next = .ok config) :
    ∃ loaded registry next', config.plugins = some registry
      ∧ Registered view base builtins next file.plugins.entries loaded registry next'
      ∧ file.ruleEntries = .ok config.rules := by
  obtain ⟨registry, next', hregister, hplugins, hrules⟩ := load_eq_ok_iff.1 h
  rcases registerAll_outcome file view base builtins next with
    ⟨loaded, registry', next'', hregister', hregistered⟩ | ⟨error, hregister', -⟩
  · obtain ⟨rfl, rfl⟩ := Prod.mk.inj (Except.ok.inj (hregister.symm.trans hregister'))
    exact ⟨loaded, registry, next', hplugins, hregistered, hrules⟩
  · exact nomatch hregister.symm.trans hregister'

lemma exists_load_iff :
    (∃ config, file.load view base builtins next = .ok config)
      ↔ PluginsLoad view base file.plugins.entries ∧ ∃ rules, file.ruleEntries = .ok rules := by
  constructor
  · rintro ⟨config, h⟩
    obtain ⟨loaded, registry, next', -, hregistered, hrules⟩ := exists_registered_of_load h
    exact ⟨hregistered.pluginsLoad, config.rules, hrules⟩
  · rintro ⟨hplugins, rules, hrules⟩
    rcases registerAll_outcome file view base builtins next with
      ⟨loaded, registry, next', hregister, -⟩ | ⟨error, -, hfault⟩
    · exact ⟨⟨rules, some registry⟩, by rw [load, hregister]; dsimp only; rw [hrules]⟩
    · exact absurd hplugins hfault.not_pluginsLoad

lemma load_eq_error_iff {error : ConfigError} :
    file.load view base builtins next = .error error
      ↔ FirstPluginFault view base file.plugins.entries error
        ∨ PluginsLoad view base file.plugins.entries ∧ file.ruleEntries = .error error := by
  rcases registerAll_outcome file view base builtins next with
    ⟨loaded, registry, next', hregister, hregistered⟩ | ⟨fault, hregister, hfault⟩
  -- whichever way the registration ends, it excludes the other kind of error
  · have hnot : ¬ FirstPluginFault view base file.plugins.entries error :=
      fun hfirst => hfirst.not_pluginsLoad hregistered.pluginsLoad
    rw [load, hregister, or_iff_right hnot, and_iff_right hregistered.pluginsLoad]
    cases file.ruleEntries with
    | error cause => simp
    | ok rules => simp
  · have hnot : ¬ (PluginsLoad view base file.plugins.entries ∧ file.ruleEntries = .error error) :=
      fun hplugins => hfault.not_pluginsLoad hplugins.1
    rw [load, hregister, or_iff_left hnot]
    constructor
    · intro heq
      rwa [← Except.error.inj heq]
    · intro hfirst
      exact congrArg Except.error (hfault.unique hfirst)

/-- **No two definitions of a loaded configuration share a key.** -/
theorem injOn_key_of_load (h : file.load view base builtins next = .ok config) {start : Nat}
    (hnumbered : builtins.NumberedWithin start next) (hdistinct : builtins.DistinctRules) :
    Set.InjOn RuleDefinition.key (definitionsOf [config]) := by
  obtain ⟨loaded, registry, next', hplugins, hregistered, -⟩ := exists_registered_of_load h
  have hdefinitions : ∀ rule ∈ definitionsOf [config],
      ∃ name plugin id, registry.get? name = some plugin ∧ plugin.rule? id = some rule := by
    rintro rule ⟨config', hconfig, registry', name, id, hregistry, hrule⟩
    obtain rfl := List.mem_singleton.1 hconfig
    rw [hplugins] at hregistry
    obtain rfl := Option.some.inj hregistry
    obtain ⟨plugin, hplugin, hrule⟩ := Option.bind_eq_some_iff.1 hrule
    exact ⟨name, plugin, id, hplugin, hrule⟩
  intro rule hrule rule' hrule' hkey
  obtain ⟨name, plugin, id, hplugin, hrule⟩ := hdefinitions rule hrule
  obtain ⟨name', plugin', id', hplugin', hrule'⟩ := hdefinitions rule' hrule'
  exact hregistered.eq_of_key_eq hnumbered hdistinct hplugin hrule hplugin' hrule' hkey

end Outcome

/-- **Loading builds the configured registry or reports the first obstacle.**

* A file loads exactly if its plugin names are free, every manifest declares a plugin where it is
  first listed, and every rule entry can be normalized.
* The registry is then the one that its plugin entries give, and the rules are its rule entries.
* Otherwise the error is that of the first plugin entry at fault, and that of the first rule entry
  at fault if there is no such plugin entry. -/
theorem load_outcome (file : ConfigFile) (view : FileView) (base : Path) (builtins : Plugin)
    (next : Nat) :
    ((∃ config, file.load view base builtins next = .ok config)
        ↔ (∀ e ∈ file.plugins.entries, ¬ (e.1 = "@" ∨ e.1 = ""))
          ∧ (∀ path listed, listedPath? base file.plugins.entries path = some listed →
              ∃ declaration, Declares view listed declaration)
          ∧ ∀ e ∈ file.rules.entries, ∃ entry, normalize e.1 e.2.toJson = .ok entry)
      ∧ (∀ config, file.load view base builtins next = .ok config →
          file.ruleEntries = .ok config.rules
            ∧ ∃ registry, config.plugins = some registry
              ∧ Registers view base builtins file.plugins.entries registry)
      ∧ ∀ error, file.load view base builtins next = .error error
          ↔ FirstPluginFault view base file.plugins.entries error
            ∨ PluginsLoad view base file.plugins.entries
              ∧ FirstEntryFault file.rules.entries error := by
  refine ⟨?_, fun config h => ?_, fun error => ?_⟩
  · rw [exists_load_iff, exists_ruleEntries_iff, ← and_assoc]
    exact and_congr_left' ⟨fun h => ⟨h.name_free, h.declares⟩, fun h => ⟨h.1, h.2⟩⟩
  · obtain ⟨loaded, registry, next', hplugins, hregistered, hrules⟩ := exists_registered_of_load h
    exact ⟨hrules, registry, hplugins, hregistered.registers⟩
  · rw [load_eq_error_iff, ruleEntries_eq_error_iff]

end ConfigFile

end LintConfig
