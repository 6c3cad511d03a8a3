import Mathlib
import LintConfig.Command.Source
import LintConfig.Proofs.ConfigFile.Loading

/-!
# When the selected configuration loads

**The file.**  `ConfigSource.Holds` says which configuration file a source holds: the one that its
path leads to, or the empty one if it has no path.

**Loading.**  `ConfigSource.Loads` is what a source has to satisfy: there is such a file, and
nothing is wrong with its plugins and its rule entries.  `exists_load_iff`: that is when it loads.

**Loaded entries.**  The entries of a loaded configuration are those of the file, in its order and
normalized, in a registry that begins with the built-in plugin (`ConfigSource.loaded`), and no two
definitions in it share a key (`ConfigSource.injOn_key`).
-/

namespace LintConfig

lemma ConfigFile.read_eq_ok_iff {view : FileView} {path : Path} {file : ConfigFile} :
    ConfigFile.read view path = .ok file
      ↔ ∃ text, view.read? path = some text ∧ ConfigFile.parse? text = some file := by
  rw [ConfigFile.read]
  cases view.read? path with
  | none => simp
  | some text =>
      cases hparse : ConfigFile.parse? text with
      | none => simp [hparse]
      | some found => simp [hparse]

namespace ConfigSource

/-- The configuration file of a source. -/
inductive Holds (view : FileView) (source : ConfigSource) : ConfigFile → Prop where
  /-- The file at its path, read and parsed. -/
  | file {path : Path} {text : String} {file : ConfigFile} : source.path? = some path →
      view.read? path = some text → ConfigFile.parse? text = some file → Holds view source file
  /-- The empty file, if it has no path. -/
  | empty : source.path? = none → Holds view source {}

/-- A source whose file can be read, whose plugins load, and whose rule entries all have a
severity. -/
def Loads (view : FileView) (source : ConfigSource) : Prop :=
  ∃ file, source.Holds view file
    ∧ ConfigFile.PluginsLoad view source.manifestDir file.plugins.entries
    ∧ ∀ e ∈ file.rules.entries, ∃ severity options,
        ConfigFile.StandsFor e.2.toJson severity options

section Loading

variable {view : FileView} {source : ConfigSource} {file : ConfigFile} {config : Configuration}

lemma read_eq_ok_iff : source.read view = .ok file ↔ source.Holds view file := by
  rw [ConfigSource.read]
  cases hpath : source.path? with
  | none =>
      constructor
      · intro h
        obtain rfl := Except.ok.inj h
        exact Holds.empty hpath
      · rintro (⟨hsome, -, -⟩ | _)
        · exact nomatch hpath.symm.trans hsome
        · rfl
  | some path =>
      dsimp only
      rw [ConfigFile.read_eq_ok_iff]
      constructor
      · rintro ⟨text, htext, hparse⟩
        exact Holds.file hpath htext hparse
      · rintro (⟨hsome, htext, hparse⟩ | hnone)
        · obtain rfl := Option.some.inj (hpath.symm.trans hsome)
          exact ⟨_, htext, hparse⟩
        · exact nomatch hpath.symm.trans hnone

/-- A source loads what its file loads, with the built-in plugin numbered first. -/
lemma load_eq_ok_iff :
    source.load view = .ok config
      ↔ ∃ file, source.Holds view file
          ∧ file.load view source.manifestDir (builtin.number 0) (0 + 1 + builtin.rules.size)
            = .ok config := by
  simp only [← read_eq_ok_iff]
  rw [ConfigSource.load]
  cases source.read view with
  | error cause => simp
  | ok file =>
      simp only [PluginDeclaration.build, Except.ok.injEq, exists_eq_left']
      cases file.load view source.manifestDir (builtin.number 0) (0 + 1 + builtin.rules.size) with
      | error cause => simp
      | ok found => simp

/-- **A source loads** exactly if nothing is wrong with its file. -/
lemma exists_load_iff : (∃ config, source.load view = .ok config) ↔ source.Loads view := by
  simp only [load_eq_ok_iff]
  rw [exists_comm]
  refine exists_congr fun file => ?_
  rw [exists_and_left, ConfigFile.exists_load_iff, ConfigFile.exists_ruleEntries_iff]
  refine and_congr_right fun _ => and_congr_right fun _ => forall₂_congr fun e _ => ?_
  constructor
  · rintro ⟨entry, hentry⟩
    obtain ⟨severity, options, hstands, -⟩ := ConfigFile.normalize_eq_ok_iff.1 hentry
    exact ⟨severity, options, hstands⟩
  · rintro ⟨severity, options, hstands⟩
    exact ⟨_, ConfigFile.normalize_eq_ok_iff.2 ⟨severity, options, hstands, rfl⟩⟩

/-- What a source loads: the entries of its file, and the registry of its plugins. -/
lemma loaded (h : source.load view = .ok config) :
    ∃ file registry, source.Holds view file ∧ config.plugins = some registry
      ∧ ConfigFile.Registers view source.manifestDir (builtin.number 0) file.plugins.entries
          registry
      ∧ List.Forall₂ ConfigFile.Normalizes file.rules.entries config.rules.entries := by
  obtain ⟨file, hfile, hload⟩ := load_eq_ok_iff.1 h
  obtain ⟨loaded, registry, next, hplugins, hregistered, hrules⟩ :=
    ConfigFile.exists_registered_of_load hload
  exact ⟨file, registry, hfile, hplugins, hregistered.registers,
    ConfigFile.ruleEntries_eq_ok_iff.1 hrules⟩

/-- No two definitions of a loaded configuration share a key. -/
lemma injOn_key (h : source.load view = .ok config) :
    Set.InjOn RuleDefinition.key (definitionsOf [config]) := by
  obtain ⟨file, -, hload⟩ := load_eq_ok_iff.1 h
  exact ConfigFile.injOn_key_of_load hload (Plugin.numberedWithin_number builtin 0)
    (Plugin.distinctRules_number builtin 0)

end Loading

end ConfigSource

end LintConfig
