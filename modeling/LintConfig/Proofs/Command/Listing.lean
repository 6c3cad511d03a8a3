import Mathlib
import LintConfig.Command.Listing
import LintConfig.Proofs.Command.Lookup
import LintConfig.Proofs.Rule.Suggestion

/-!
# Listed rules can be looked up

**Lines.**  `Listing.listed` are the rules that a table lists, and `Listing.line` is what it says of
one of them.  A table is a heading, the lines of the registered rules and a footer
(`Listing.text_eq`).

**Identifiers.**  The names in a loaded registry are not empty, so what is printed for the rule of a
plugin is found by resolution: perhaps as the rule of another plugin that hides it, but under the
same identifier.  `registered_rules_reachable` says so of registered rules, of partial matches and
of the lines of a table.
-/

namespace LintConfig

namespace Listing

/-- The rules that a table lists, in its order. -/
def listed (registry : Registry) : List (RuleName × RuleDefinition) :=
  registry.entries.flatMap fun e => e.2.rules.entries.map fun r => (⟨e.1, r.1⟩, r.2)

/-- The line for one rule. -/
def line (rule : RuleName × RuleDefinition) : String :=
  row (identifier rule.1.plugin rule.1.rule) (optionsLabel rule.2.form) (describe rule.2.form)

lemma join_map_join {α : Type} (f : α → List String) (l : List α) :
    String.join (l.map fun x => String.join (f x)) = String.join (l.flatMap f) := by
  induction l with
  | nil => rfl
  | cons x l ih =>
      rw [List.map_cons, String.join_cons, ih, List.flatMap_cons, String.join_append]

/-- **A table has one line for each registered rule.** -/
lemma text_eq (registry : Registry) :
    text registry = heading ++ String.join ((listed registry).map line) ++ footer := by
  rw [text, listed, List.map_flatMap]
  simp only [List.map_map, ← join_map_join]
  rfl

lemma mem_listed_iff {registry : Registry} {name : RuleName} {definition : RuleDefinition} :
    (name, definition) ∈ listed registry
      ↔ registry.rule? name.plugin name.rule = some definition := by
  rw [listed, List.mem_flatMap, Registry.rule?, Option.bind_eq_some_iff]
  constructor
  · rintro ⟨e, he, hmem⟩
    obtain ⟨r, hr, heq⟩ := List.mem_map.1 hmem
    obtain ⟨rfl, rfl⟩ := Prod.mk.inj heq
    exact ⟨e.2, (OrderedMap.get?_eq_some_iff _).2 he, (OrderedMap.get?_eq_some_iff _).2 hr⟩
  · rintro ⟨p, hplugin, hrule⟩
    exact ⟨(name.plugin, p), (OrderedMap.get?_eq_some_iff _).1 hplugin,
      List.mem_map.2 ⟨(name.rule, definition), (OrderedMap.get?_eq_some_iff _).1 hrule, rfl⟩⟩

end Listing

/-- The registry of a source that loads has the built-in plugin and no empty names. -/
lemma ConfigSource.configured_of_load {view : FileView} {source : ConfigSource}
    {config : Configuration} (h : source.load view = .ok config) :
    ∃ registry, config.plugins = some registry ∧ registry.Configured := by
  obtain ⟨file, -, hload⟩ := load_eq_ok_iff.1 h
  exact ConfigFile.configured_of_load hload

lemma runCommandLine_listRules {t : FileTree} {env : Environment} {arguments : List String}
    {invocation : Invocation} {config : Configuration}
    (hload : (ConfigSource.select t.view invocation).load t.view = .ok config)
    (h : AsksFor env invocation .listRules arguments) :
    (runCommandLine t env arguments).1 = Command.runListRules config :=
  runCommandLine_of_load h hload rfl

section Reachable

variable {registry : Registry} {name : RuleName} {definition : RuleDefinition}

/-- Every partial match can be followed, unless a plugin has the empty name. -/
lemma resolves_of_mem_partialMatches (hnames : "" ∉ registry.keys) {id candidate : String}
    (hcandidate : candidate ∈ partialMatches registry id) : registry.Resolves candidate := by
  obtain ⟨name, hname, plugin, hrule, rfl⟩ := mem_partialMatches_iff.1 hcandidate
  obtain ⟨p, hplugin, -⟩ := exists_plugin_of_rule? hrule
  refine resolves_join ?_ (mem_searchedNames_iff.1 hname).2 hrule
  rintro rfl
  exact hnames (OrderedMap.mem_keys_of_get? hplugin)

/-- What is printed for the rule of a plugin can be looked up. -/
lemma Registry.Configured.resolves_identifier (h : registry.Configured)
    (hlisted : (name, definition) ∈ Listing.listed registry) (hname : name.plugin ≠ "@") :
    registry.Resolves (Listing.identifier name.plugin name.rule) := by
  have hrule := Option.isSome_iff_exists.2 ⟨definition, Listing.mem_listed_iff.1 hlisted⟩
  obtain ⟨p, hplugin, hmem⟩ := exists_plugin_of_rule? hrule
  rw [Listing.identifier, builtinName, if_neg hname]
  refine resolves_join (h.name_ne _ (OrderedMap.mem_keys_of_get? hplugin)) ?_ hrule
  rintro hempty
  exact h.rule_ne _ p hplugin (hempty ▸ hmem)

end Reachable

/-- **No registered rule is out of reach, and nothing but hiding redirects it.**

* The identifier of a registered rule denotes a rule with the same identifier and no longer plugin
  name, which is the rule itself exactly if no other one hides it.
* In a registry without an empty plugin name, every partial match denotes a rule.
* If `list-rules` prints a table, it has one line for each registered rule, and `resolve` finds
  every identifier in it that is not that of a built-in rule. -/
theorem registered_rules_reachable :
    (∀ (registry : Registry) (plugin rule : String) (definition : RuleDefinition),
        plugin ≠ "" → rule ≠ "" → registry.rule? plugin rule = some definition →
        ∃ name found, resolve (some registry) (plugin ++ "/" ++ rule) = .ok (name, found)
          ∧ registry.rule? name.plugin name.rule = some found
          ∧ name.plugin ++ "/" ++ name.rule = plugin ++ "/" ++ rule
          ∧ name.plugin.length ≤ plugin.length
          ∧ (name = ⟨plugin, rule⟩ ↔ ¬ registry.Hidden plugin rule))
      ∧ (∀ (registry : Registry), "" ∉ registry.keys →
          ∀ id, ∀ candidate ∈ partialMatches registry id, registry.Resolves candidate)
      ∧ ∀ (t : FileTree) (env : Environment) (arguments : List String) (invocation : Invocation)
          (config : Configuration), AsksFor env invocation .listRules arguments →
          (ConfigSource.select t.view invocation).load t.view = .ok config →
          ∃ registry, config.plugins = some registry
            ∧ (runCommandLine t env arguments).1 = .success
                (Listing.heading ++ String.join ((Listing.listed registry).map Listing.line)
                  ++ Listing.footer)
            ∧ ∀ rule ∈ Listing.listed registry, rule.1.plugin ≠ "@" →
                registry.Resolves (Listing.identifier rule.1.plugin rule.1.rule)
                  ∧ ∀ arguments', AsksFor env invocation
                      (.resolve (Listing.identifier rule.1.plugin rule.1.rule)) arguments' →
                    (runCommandLine t env arguments').1.code = 0 := by
  refine ⟨fun registry plugin rule definition hplugin hrule hregistered =>
      resolve_join hplugin hrule hregistered,
    fun registry hnames id candidate hcandidate =>
      resolves_of_mem_partialMatches hnames hcandidate,
    fun t env arguments invocation config hlist hload => ?_⟩
  obtain ⟨registry, hplugins, hconfigured⟩ := ConfigSource.configured_of_load hload
  refine ⟨registry, hplugins, ?_, fun rule hlisted hname => ?_⟩
  · rw [runCommandLine_listRules hload hlist, Command.runListRules, hplugins]
    exact congrArg Outcome.success (Listing.text_eq registry)
  · have hresolves := hconfigured.resolves_identifier hlisted hname
    refine ⟨hresolves, fun arguments' hresolve => ?_⟩
    obtain ⟨⟨found, definition⟩, hfound⟩ := hresolves
    rw [runCommandLine, runCommandLine_resolve hload hresolve, code_runResolve_eq_zero_iff,
      hplugins]
    exact ⟨found, definition, hfound⟩

/-- A registry in which two rules have the same identifier. -/
def overlappingRegistry : Registry := innerRegistry.insert "a" outerPlugin

/-- A directory with two plugins whose rules have the same identifier. -/
def overlappingTree : FileTree where
  nodes := ⟨[(["flatlint.toml"], .file "[plugins]\n\"a/b\" = \"b.json\"\na = \"a.json\"\n".toUTF8),
    (["a.json"], .file "\x7b\"rules\":\x7b\"b/c\":\"function\"\x7d\x7d".toUTF8),
    (["b.json"], .file "\x7b\"rules\":\x7b\"c\":\"function\"\x7d\x7d".toUTF8)], by decide⟩

/-- Listing the rules of that directory. -/
def overlappingListing : Invocation := ⟨none, ⟨"."⟩, none, .listRules⟩

lemma exists_load_overlappingTree :
    ∃ config registry,
      (ConfigSource.select overlappingTree.view overlappingListing).load overlappingTree.view
          = .ok config
        ∧ config.plugins = some registry
        ∧ ∃ definition, (⟨"a/b", "c"⟩, definition) ∈ Listing.listed registry := by
  have hlisted : ((ConfigSource.select overlappingTree.view overlappingListing).load
      overlappingTree.view).toOption.map (fun config => config.plugins.map fun registry =>
        (registry.rule? "a/b" "c").isSome) = some (some true) := by decide +kernel
  cases hload : (ConfigSource.select overlappingTree.view overlappingListing).load
      overlappingTree.view with
  | error failure =>
      rw [hload] at hlisted
      exact nomatch hlisted
  | ok config =>
      rw [hload] at hlisted
      obtain ⟨registry, hplugins, hrule⟩ := Option.map_eq_some_iff.1 (Option.some.inj hlisted)
      obtain ⟨definition, hrule⟩ := Option.isSome_iff_exists.1 hrule
      exact ⟨config, registry, rfl, hplugins, definition, Listing.mem_listed_iff.2 hrule⟩

/-- The longer of two plugin names comes first in the order, but its rule is hidden.  Its identifier
is suggested and listed all the same, and can be looked up. -/
theorem registered_rules_reachable_overlapping :
    overlappingRegistry.Hidden "a/b" "c"
      ∧ (∃ name found,
          resolve (some overlappingRegistry) "a/b/c" = .ok (name, found) ∧ name ≠ ⟨"a/b", "c"⟩)
      ∧ overlappingRegistry.Resolves "a/b/c"
      ∧ AsksFor bareEnvironment overlappingListing .listRules ["list-rules"]
      ∧ AsksFor bareEnvironment overlappingListing (.resolve "a/b/c") ["resolve", "a/b/c"]
      ∧ (runCommandLine overlappingTree bareEnvironment ["resolve", "a/b/c"]).1.code = 0 := by
  obtain ⟨hreachable, hmatches, hlines⟩ := registered_rules_reachable
  have hhidden : overlappingRegistry.Hidden "a/b" "c" :=
    ⟨"a", "b/c", by decide, by decide, by decide, by decide⟩
  obtain ⟨name, found, hresolve, -, -, -, hsame⟩ :=
    hreachable overlappingRegistry "a/b" "c" _ (by decide) (by decide) rfl
  have hlist : AsksFor bareEnvironment overlappingListing .listRules ["list-rules"] := by rfl
  have hlookup : AsksFor bareEnvironment overlappingListing (.resolve "a/b/c")
      ["resolve", "a/b/c"] := by rfl
  obtain ⟨config, registry, hload, hplugins, definition, hlisted⟩ := exists_load_overlappingTree
  obtain ⟨registry', hplugins', -, hfound⟩ := hlines _ _ _ _ _ hlist hload
  obtain rfl := Option.some.inj (hplugins.symm.trans hplugins')
  have hplugin : "a/b" ≠ "@" := by decide
  exact ⟨hhidden, ⟨name, found, hresolve, fun heq => hsame.1 heq hhidden⟩,
    hmatches overlappingRegistry (by decide) "x/c" "a/b/c" (by decide), hlist, hlookup,
    (hfound _ hlisted hplugin).2 _ hlookup⟩

end LintConfig
