import Mathlib
import LintConfig.Builtin
import LintConfig.Proofs.ConfigFile.Loading
import LintConfig.Proofs.Rule.Explanation
import LintConfig.Proofs.Rule.PartialMatch
import LintConfig.Proofs.Rule.Shadowing

/-!
# Which suggestions can be followed

A failed lookup suggests identifiers.  Whoever follows a suggestion looks it up in the same
registry, so the question is whether it resolves there.

**Suggestions.**  `mem_suggestions_iff` says what is suggested: every registered rule with one
of the searched names, without the mark of built-in rules in front of it.

**The mark.**  The mark is taken off the text.  The identifiers of built-in rules lose it, and so do
those of a plugin whose name begins with it (`suggestionOf_join_marked`).  What is left of the
latter names another plugin, if it names one at all.

**Usable suggestions.**  `suggestions_resolve_iff`: a configured registry suggests nothing but
identifiers that resolve exactly if the rules of such plugins happen to resolve without the mark.
`not_resolves_suggestion_markedRegistry` is a registry in which they do not.
-/

namespace LintConfig

namespace Registry

/-- An identifier that resolves in a registry. -/
def Resolves (registry : Registry) (id : String) : Prop :=
  ∃ found, resolve (some registry) id = .ok found

/-- A registry as loading builds it: with the built-in plugin, and no empty names. -/
structure Configured (registry : Registry) : Prop where
  has_builtin : ∃ next, registry.get? "@" = some (builtin.number next)
  name_ne : ∀ name ∈ registry.keys, name ≠ ""
  rule_ne : ∀ name plugin, registry.get? name = some plugin → "" ∉ plugin.rules.keys

end Registry

/-! ## Loaded registries -/

/-- A manifest that is read declares no rule with an empty name. -/
lemma Manifest.empty_notMem_of_parse {text : String} {declaration : PluginDeclaration}
    (h : Manifest.parse text = .ok declaration) : "" ∉ declaration.rules.keys := by
  rw [Manifest.parse] at h
  split at h
  · exact nomatch h
  · rename_i info rules _
    split_ifs at h with hempty
    obtain rfl := Except.ok.inj h
    intro hmem
    obtain ⟨r, hr, hname⟩ := List.mem_map.1 (OrderedMap.mem_keys_ofList.1 hmem)
    exact hempty (List.any_eq_true.2 ⟨r, hr, decide_eq_true hname⟩)

/-- **The registry of a loaded configuration is configured.** -/
theorem ConfigFile.configured_of_load {file : ConfigFile} {view : FileView} {base : Path}
    {next start : Nat} {config : Configuration}
    (h : file.load view base (builtin.number start) next = .ok config) :
    ∃ registry, config.plugins = some registry ∧ registry.Configured := by
  obtain ⟨loaded, registry, next', hplugins, hregistered, -⟩ := exists_registered_of_load h
  have hregisters := hregistered.registers
  have hkeys := hregisters.keys
  refine ⟨registry, hplugins, ⟨start, hregisters.builtin⟩, ?_, ?_⟩
  · intro name hname
    rw [hkeys, List.mem_cons] at hname
    rcases hname with rfl | hname
    · decide
    · obtain ⟨e, he, rfl⟩ := List.mem_map.1 hname
      exact fun hempty => hregistered.pluginsLoad.name_free e he (Or.inr hempty)
  · intro name plugin hplugin
    have hname := OrderedMap.mem_keys_of_get? hplugin
    rw [hkeys, List.mem_cons] at hname
    rcases hname with rfl | hname
    · obtain rfl := Option.some.inj (hregisters.builtin.symm.trans hplugin)
      rw [← Plugin.keys_declaration, Plugin.declaration_number]
      decide
    · obtain ⟨e, he, rfl⟩ := List.mem_map.1 hname
      obtain ⟨listed, plugin', -, hplugin', text, -, hparse⟩ := hregisters.bound e he
      obtain rfl := Option.some.inj (hplugin'.symm.trans hplugin)
      rw [← Plugin.keys_declaration]
      exact Manifest.empty_notMem_of_parse hparse

/-! ## Suggestions -/

section Matches

variable {registry : Registry} {id name plugin candidate : String}

/-- **What is suggested**: the rules with a searched name, each as its mark is taken off. -/
lemma mem_suggestions_iff :
    candidate ∈ suggestions registry id
      ↔ ∃ name ∈ searchedNames id, ∃ plugin,
          (registry.rule? plugin name).isSome
            ∧ candidate = suggestionOf (RuleId.join plugin name) := by
  rw [suggestions, (listsOnce_firstAppearances _).mem_iff, List.mem_map]
  constructor
  · rintro ⟨found, hfound, rfl⟩
    obtain ⟨name, hname, plugin, hrule, rfl⟩ := mem_partialMatches_iff.1 hfound
    exact ⟨name, hname, plugin, hrule, rfl⟩
  · rintro ⟨name, hname, plugin, hrule, rfl⟩
    exact ⟨_, mem_partialMatches_iff.2 ⟨name, hname, plugin, hrule, rfl⟩, rfl⟩

/-! ## The mark -/

/-- A built-in rule is suggested by its bare name. -/
lemma suggestionOf_join_builtin (name : String) : suggestionOf (RuleId.join "@" name) = name := by
  simp [suggestionOf, RuleId.join]

/-- A plugin whose name begins with the mark is suggested without it. -/
lemma suggestionOf_join_marked (rest name : String) :
    suggestionOf (RuleId.join ("@/" ++ rest) name) = RuleId.join rest name := by
  rw [← String.toList_inj]
  simp [suggestionOf, RuleId.join]

lemma suggestionOf_join_unmarked (hbuiltin : plugin ≠ "@")
    (hmarked : ∀ rest, plugin ≠ "@/" ++ rest) :
    suggestionOf (RuleId.join plugin name) = RuleId.join plugin name := by
  rw [suggestionOf]
  split
  · rename_i bare hbare
    rw [RuleId.join, String.toList_append, String.toList_append] at hbare
    -- the text begins with the mark, so the name does unless it is too short for it
    rcases hplugin : plugin.toList with _ | ⟨c, _ | ⟨d, rest⟩⟩
    · rw [hplugin] at hbare
      exact absurd (List.cons.inj hbare).1 (by decide)
    · rw [hplugin] at hbare
      obtain ⟨rfl, -⟩ := List.cons.inj hbare
      exact absurd (String.toList_inj.1 hplugin) hbuiltin
    · rw [hplugin] at hbare
      obtain ⟨rfl, htail⟩ := List.cons.inj hbare
      obtain ⟨rfl, -⟩ := List.cons.inj htail
      refine absurd (String.toList_inj.1 ?_) (hmarked (String.ofList rest))
      rw [hplugin]
      simp
  · rfl

end Matches

/-! ## Usable suggestions -/

section Usable

variable {registry : Registry} {id name plugin candidate : String}

lemma exists_plugin_of_rule? (h : (registry.rule? plugin name).isSome) :
    ∃ p, registry.get? plugin = some p ∧ name ∈ p.rules.keys := by
  obtain ⟨rule, hrule⟩ := Option.isSome_iff_exists.1 h
  obtain ⟨p, hplugin, hrule⟩ := Option.bind_eq_some_iff.1 hrule
  exact ⟨p, hplugin, OrderedMap.mem_keys_of_get? hrule⟩

/-- A registered rule can be found under its full identifier, although another rule may be meant. -/
lemma resolves_join (hplugin : plugin ≠ "") (hname : name ≠ "")
    (hrule : (registry.rule? plugin name).isSome) :
    registry.Resolves (RuleId.join plugin name) := by
  obtain ⟨rule, hrule⟩ := Option.isSome_iff_exists.1 hrule
  obtain ⟨found, definition, hresolve, -⟩ := resolve_join hplugin hname hrule
  exact ⟨(found, definition), hresolve⟩

lemma slash_notMem_of_builtin {next : Nat} (h : name ∈ (builtin.number next).rules.keys) :
    '/' ∉ name.toList := by
  rw [← Plugin.keys_declaration, Plugin.declaration_number] at h
  have hall : ∀ name ∈ builtin.rules.keys, '/' ∉ name.toList := by decide
  exact hall name h

lemma Registry.Configured.resolves_bare (h : registry.Configured) (hname : name ≠ "")
    (hrule : (registry.rule? "@" name).isSome) : registry.Resolves name := by
  obtain ⟨next, hbuiltin⟩ := h.has_builtin
  obtain ⟨p, hplugin, hmem⟩ := exists_plugin_of_rule? hrule
  obtain rfl := Option.some.inj (hbuiltin.symm.trans hplugin)
  obtain ⟨rule, hrule⟩ := Option.isSome_iff_exists.1 hrule
  exact ⟨(⟨"@", name⟩, rule),
    (resolve_of_bare_iff hname (slash_notMem_of_builtin hmem)).2 ⟨rfl, hrule⟩⟩

lemma replacements?_join (plugin name : String) :
    replacements? (RuleId.join plugin name) = none := by
  have hbare : ∀ r ∈ removedRules, '/' ∉ r.1.toList := by decide
  rw [replacements?, List.lookup_eq_none_iff]
  intro r hr
  rw [bne_iff_ne]
  rintro heq
  refine hbare r hr ?_
  rw [← heq]
  simp [RuleId.join]

/-- What is suggested resolves, if the rules of plugins with a marked name do without the mark. -/
lemma Registry.Configured.resolves_of_mem_suggestions (h : registry.Configured)
    (hmarked : ∀ rest name, (registry.rule? ("@/" ++ rest) name).isSome →
      registry.Resolves (RuleId.join rest name))
    (hcandidate : candidate ∈ suggestions registry id) : registry.Resolves candidate := by
  obtain ⟨name, hname, plugin, hrule, rfl⟩ := mem_suggestions_iff.1 hcandidate
  have hname := (mem_searchedNames_iff.1 hname).2
  by_cases hbuiltin : plugin = "@"
  · subst hbuiltin
    rw [suggestionOf_join_builtin]
    exact h.resolves_bare hname hrule
  by_cases hprefix : ∃ rest, plugin = "@/" ++ rest
  · obtain ⟨rest, rfl⟩ := hprefix
    rw [suggestionOf_join_marked]
    exact hmarked rest name hrule
  · rw [suggestionOf_join_unmarked hbuiltin (not_exists.1 hprefix)]
    obtain ⟨p, hplugin, -⟩ := exists_plugin_of_rule? hrule
    exact resolves_join (h.name_ne plugin (OrderedMap.mem_keys_of_get? hplugin)) hname hrule

end Usable

/-- **When every suggestion can be followed.**  A configured registry suggests, for whatever does
not resolve, nothing but identifiers that do exactly if every rule of a plugin whose name begins
with the mark of built-in rules can also be found without the mark. -/
theorem suggestions_resolve_iff {registry : Registry} (h : registry.Configured) :
    (∀ id failure, resolve (some registry) id = .error failure → replacements? id = none →
        explain (some registry) id failure.toError
            = failure.toError.withSuggestions (suggestions registry id)
          ∧ ∀ candidate ∈ suggestions registry id, registry.Resolves candidate)
      ↔ ∀ rest name, (registry.rule? ("@/" ++ rest) name).isSome →
          registry.Resolves (RuleId.join rest name) := by
  constructor
  · intro hfollow rest name hrule
    by_contra hunresolved
    have hname : name ≠ "" := by
      rintro rfl
      obtain ⟨p, hplugin, hempty⟩ := exists_plugin_of_rule? hrule
      exact h.rule_ne _ p hplugin hempty
    -- looked up without the mark, the rule is suggested without the mark
    have hsuggested : RuleId.join rest name ∈ suggestions registry (RuleId.join rest name) := by
      rw [mem_suggestions_iff]
      exact ⟨name, mem_searchedNames_iff.2 ⟨Or.inr ⟨rest, rfl⟩, hname⟩, "@/" ++ rest, hrule,
        (suggestionOf_join_marked rest name).symm⟩
    cases hresolve : resolve (some registry) (RuleId.join rest name) with
    | ok found => exact hunresolved ⟨found, hresolve⟩
    | error failure =>
        have hall := (hfollow _ failure hresolve (replacements?_join rest name)).2
        exact hunresolved (hall _ hsuggested)
  · intro hmarked id failure _ hreplacements
    refine ⟨?_, fun candidate hcandidate => h.resolves_of_mem_suggestions hmarked hcandidate⟩
    rw [explain, hreplacements]

/-- The built-in plugin, and a plugin with one rule whose name begins with the mark. -/
def markedRegistry : Registry :=
  ⟨[("@", builtin.number 0), ("@/foo", ⟨⟨17⟩, none, ⟨[("r", ⟨⟨18⟩, .function⟩)], by decide⟩⟩)],
    by decide⟩

lemma configured_markedRegistry : markedRegistry.Configured where
  has_builtin := ⟨0, rfl⟩
  name_ne := by decide
  rule_ne name plugin hplugin := by
    have hentry := (OrderedMap.get?_eq_some_iff _).1 hplugin
    simp only [markedRegistry, List.mem_cons, List.not_mem_nil, Prod.mk.injEq, or_false] at hentry
    rcases hentry with ⟨-, rfl⟩ | ⟨-, rfl⟩
    · decide
    · decide

/-- In that registry the user is told to write exactly what did not resolve. -/
theorem not_resolves_suggestion_markedRegistry :
    markedRegistry.Configured ∧ replacements? "foo/r" = none
      ∧ suggestions markedRegistry "foo/r" = ["foo/r"]
      ∧ resolve (some markedRegistry) "foo/r" = .error (.noSuchPlugin "foo") := by
  refine ⟨configured_markedRegistry, by decide, by decide, rfl⟩

/-- So its suggestions cannot all be followed. -/
theorem not_suggestions_resolve_markedRegistry :
    markedRegistry.Configured
      ∧ ¬ ∀ id failure, resolve (some markedRegistry) id = .error failure →
          replacements? id = none →
          explain (some markedRegistry) id failure.toError
              = failure.toError.withSuggestions (suggestions markedRegistry id)
            ∧ ∀ candidate ∈ suggestions markedRegistry id, markedRegistry.Resolves candidate := by
  refine ⟨configured_markedRegistry, ?_⟩
  rw [suggestions_resolve_iff configured_markedRegistry]
  intro hmarked
  obtain ⟨found, hfound⟩ := hmarked "foo" "r" (by decide)
  have hresolve : resolve (some markedRegistry) "foo/r" = .error (.noSuchPlugin "foo") := rfl
  exact nomatch hresolve.symm.trans hfound

end LintConfig
