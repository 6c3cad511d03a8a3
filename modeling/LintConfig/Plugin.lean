import LintConfig.OrderedMap
import LintConfig.Rule

/-!
# Plugins and their registry

A plugin is a bundle of named rules; a registry gives plugins the names under which their rules
are configured.  Both list what they hold in the order of registration and replace in place, as
`OrderedMap` does.

**Identity.**  A `PluginDeclaration` is what a manifest says.  `PluginDeclaration.build` turns it
into a `Plugin`, giving the plugin and each of its rules a number from the supply, so two plugins
built from one manifest are different, and one plugin under two names is the same.
-/

namespace LintConfig

/-- What a plugin says about itself. -/
structure PluginMeta where
  name : Option String := none
  version : Option String := none
  deriving DecidableEq

/-- A plugin as declared: rules without identities. -/
structure PluginDeclaration where
  info : Option PluginMeta := none
  rules : OrderedMap String RuleForm := ∅

/-- The identity of a plugin. -/
structure PluginKey where
  index : Nat
  deriving DecidableEq

/-- A bundle of named rules. -/
structure Plugin where
  key : PluginKey
  info : Option PluginMeta
  rules : OrderedMap String RuleDefinition

/-- The registry name of the rules that are built in. -/
def builtinName : String := "@"

namespace PluginDeclaration

/-- Defines rules one after the other, numbered from `next`. -/
def defineAll (next : Nat) : List (String × RuleForm) → List (String × RuleDefinition)
  | [] => []
  | (name, form) :: rest => (name, ⟨⟨next⟩, form⟩) :: defineAll (next + 1) rest

theorem map_fst_defineAll (next : Nat) (rules : List (String × RuleForm)) :
    (defineAll next rules).map Prod.fst = rules.map Prod.fst := by
  induction rules generalizing next with
  | nil => rfl
  | cons rule rest ih => simp [defineAll, ih]

/-- The plugin with the declared rules, numbered from `next`, which is its own number. -/
def number (d : PluginDeclaration) (next : Nat) : Plugin where
  key := ⟨next⟩
  info := d.info
  rules := ⟨defineAll (next + 1) d.rules.entries, by
    rw [map_fst_defineAll]; exact d.rules.nodup⟩

/-- A new plugin with a new definition for each declared rule. -/
def build (d : PluginDeclaration) : Supply Plugin :=
  fun next => (d.number next, next + 1 + d.rules.size)

end PluginDeclaration

namespace Plugin

/-- The rule with a name. -/
def rule? (p : Plugin) (name : String) : Option RuleDefinition := p.rules.get? name

/-- The plugin with one more rule, which may be registered elsewhere too. -/
def withRule (p : Plugin) (name : String) (rule : RuleDefinition) : Plugin :=
  { p with rules := p.rules.insert name rule }

end Plugin

/-- Plugins by the names they are registered under. -/
abbrev Registry := OrderedMap String Plugin

/-- The rule with a name in the plugin that is registered under a name. -/
def Registry.rule? (registry : Registry) (plugin rule : String) : Option RuleDefinition :=
  (registry.get? plugin).bind fun p => p.rule? rule

/-- The first name that a plugin is registered under. -/
def Registry.firstNameOf? (registry : Registry) (plugin : Plugin) : Option String :=
  (registry.entries.find? fun e => e.2.key = plugin.key).map Prod.fst

end LintConfig
