import Mathlib
import LintConfig.Proofs.Rule.Shadowing
import LintConfig.Proofs.Rule.Suggestion

/-!
# The canonical identifier of a rule

A rule that has been found is shown by its name, without the plugin if it is built in.  What is
shown is an identifier again, and it denotes that rule (`resolve_display`).

For a rule of any other plugin it is the identifier that was looked up, so there is nothing to show
anew.  For a built-in rule, the identifier may have lost its prefix, and is looked up as a bare one.
This is why the rules of the plugin `@` must not have slashes in their names: `Plugin.BareRules`.
-/

namespace LintConfig

/-- A plugin whose rules all have names without slashes. -/
def Plugin.BareRules (plugin : Plugin) : Prop :=
  ∀ rule ∈ plugin.rules.keys, '/' ∉ rule.toList

lemma bareRules_builtin (next : Nat) : (builtin.number next).BareRules :=
  fun _ hrule => slash_notMem_of_builtin hrule

section Display

variable {registry : Registry} {id : String} {name : RuleName} {definition : RuleDefinition}

lemma display_of_builtin (h : name.plugin = "@") : name.display = name.rule := by
  simp [RuleName.display, RuleName.isBuiltin, builtinName, h]

lemma display_of_ne (h : name.plugin ≠ "@") :
    name.display = name.plugin ++ "/" ++ name.rule := by
  simp [RuleName.display, RuleName.isBuiltin, builtinName, h, RuleId.join]

/-- Other rules than the built-in ones are shown by the identifier that they were found under. -/
lemma display_eq_of_resolve (h : resolve (some registry) id = .ok (name, definition))
    (hname : name.plugin ≠ "@") : name.display = id := by
  by_cases hslash : '/' ∈ id.toList
  · rw [display_of_ne hname]
    exact ((resolve_of_slash_iff hslash).1 h).reads.joined
  · obtain ⟨rfl, -⟩ := (resolve_of_bare_iff (ne_empty_of_resolve h) hslash).1 h
    exact absurd rfl hname

/-- A rule that has been found has a name. -/
lemma rule_ne_of_resolve (h : resolve (some registry) id = .ok (name, definition)) :
    name.rule ≠ "" := by
  by_cases hslash : '/' ∈ id.toList
  · exact ((resolve_of_slash_iff hslash).1 h).reads.rule_ne
  · have hid := ne_empty_of_resolve h
    obtain ⟨rfl, -⟩ := (resolve_of_bare_iff hid hslash).1 h
    exact hid

/-- **What is shown denotes what was found.** -/
lemma resolve_display (hbare : ∀ plugin, registry.get? "@" = some plugin → plugin.BareRules)
    (h : resolve (some registry) id = .ok (name, definition)) :
    resolve (some registry) name.display = .ok (name, definition) := by
  by_cases hname : name.plugin = "@"
  · obtain ⟨plugin, rule⟩ := name
    obtain rfl : plugin = "@" := hname
    obtain ⟨plugins, hplugins, hregistered⟩ := rule?_of_resolve h
    obtain rfl := Option.some.inj hplugins
    obtain ⟨plugin, hplugin, hrule⟩ :=
      exists_plugin_of_rule? (Option.isSome_iff_exists.2 ⟨definition, hregistered⟩)
    rw [display_of_builtin rfl]
    exact (resolve_of_bare_iff (rule_ne_of_resolve h) (hbare plugin hplugin _ hrule)).2
      ⟨rfl, hregistered⟩
  · rwa [display_eq_of_resolve h hname]

end Display

/-- **The display form of a rule is its canonical identifier**, in every registry whose plugin `@`
has no rule with a slash in its name, as is the case for the built-in rules.

* A rule that was found under any identifier is found under its display form, with the same
  definition.
* Identifiers with the same display form denote the same plugin and rule.
* What is found under a display form has this display form. -/
theorem display_canonical (registry : Registry)
    (hbare : ∀ plugin, registry.get? "@" = some plugin → plugin.BareRules) :
    (∀ id name definition, resolve (some registry) id = .ok (name, definition) →
        resolve (some registry) name.display = .ok (name, definition))
      ∧ (∀ id id' name name' definition definition',
          resolve (some registry) id = .ok (name, definition) →
          resolve (some registry) id' = .ok (name', definition') →
          name.display = name'.display → name = name' ∧ definition = definition')
      ∧ (∀ id name name' definition definition',
          resolve (some registry) id = .ok (name, definition) →
          resolve (some registry) name.display = .ok (name', definition') →
          name'.display = name.display)
      ∧ ∀ next, (builtin.number next).BareRules := by
  refine ⟨fun id name definition h => resolve_display hbare h,
    fun id id' name name' definition definition' h h' hdisplay => ?_,
    fun id name name' definition definition' h h' => ?_, bareRules_builtin⟩
  · have hfound := resolve_display hbare h
    rw [hdisplay, resolve_display hbare h'] at hfound
    obtain ⟨rfl, rfl⟩ := Prod.mk.inj (Except.ok.inj hfound)
    exact ⟨rfl, rfl⟩
  · rw [resolve_display hbare h] at h'
    obtain ⟨rfl, -⟩ := Prod.mk.inj (Except.ok.inj h')
    rfl

lemma bareRules_markedRegistry :
    ∀ plugin, markedRegistry.get? "@" = some plugin → plugin.BareRules := by
  intro plugin hplugin
  obtain rfl := Option.some.inj hplugin
  exact bareRules_builtin 0

/-- A built-in rule that is named with its plugin is shown without it, and found again. -/
theorem display_canonical_markedRegistry :
    ∃ definition,
      resolve (some markedRegistry) "@/semi" = .ok (⟨"@", "semi"⟩, definition)
        ∧ resolve (some markedRegistry) "semi" = .ok (⟨"@", "semi"⟩, definition) := by
  obtain ⟨hcanonical, -⟩ := display_canonical markedRegistry bareRules_markedRegistry
  have hfound : ((resolve (some markedRegistry) "@/semi").toOption.map Prod.fst)
      = some ⟨"@", "semi"⟩ := by decide
  cases hresolve : resolve (some markedRegistry) "@/semi" with
  | error failure =>
      rw [hresolve] at hfound
      exact nomatch hfound
  | ok found =>
      obtain ⟨name, definition⟩ := found
      rw [hresolve] at hfound
      obtain rfl := Option.some.inj hfound
      exact ⟨definition, rfl, hcanonical _ _ _ hresolve⟩

end LintConfig
