import LintConfig.Plugin
import LintConfig.Severity

/-!
# Configurations

A configuration says which rules are used, with which severity and which options, and which plugins
there are to look rules up in.

**Entries.**  The value of a rule is a list: its head is the severity, its tail are the rule's own
options.  Nothing forces the head to be a severity; `Configuration.severity?` gives it where it is.

**Building.**  `Configuration.withRule` and `Configuration.withPlugin` add to a configuration.  There is
no registry before the first plugin.

**Disabled entries.**  `RuleEntry.isDisabled` looks at the level alone, so an entry is disabled by
the number 0 and not by the name that also stands for it.
-/

namespace LintConfig

/-- The value of a configured rule: its severity, then its options. -/
abbrev RuleEntry := List Json

namespace RuleEntry

/-- The options as one value. -/
def options (entry : RuleEntry) : Json := .arr entry.tail

/-- Whether the head is the level of disabled rules. -/
def isDisabled (entry : RuleEntry) : Bool :=
  match entry.head? with
  | some (.num n) => Severity.ofNumber? n = some .off
  | _ => false

end RuleEntry

/-- Rules with their entries, and the plugins that may be registered. -/
structure Configuration where
  rules : OrderedMap String RuleEntry := ∅
  plugins : Option Registry := none

namespace Configuration

/-- The configuration with an entry for a rule, in place of any other entry for it. -/
def withRule (c : Configuration) (id : String) (entry : RuleEntry) : Configuration :=
  { c with rules := c.rules.insert id entry }

/-- The configuration with a plugin registered under a name, in place of any other plugin under it.
The first plugin comes with a new registry. -/
def withPlugin (c : Configuration) (name : String) (plugin : Plugin) : Configuration :=
  { c with plugins := some ((c.plugins.getD ∅).insert name plugin) }

/-- The severity of a configured rule, where the head of its entry is one. -/
def severity? (c : Configuration) (id : String) : Option Severity :=
  ((c.rules.get? id).bind (·.head?)).bind Severity.ofJson?

end Configuration

end LintConfig
