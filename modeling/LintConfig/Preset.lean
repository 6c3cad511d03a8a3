import LintConfig.Toml.Printer

/-!
# Presets

The rule entries that a new configuration file starts from.  They are TOML values, with severities
by name, as a user would write them.

**Rendering.**  `Preset.render` is the text of a new configuration file: a comment that explains the
file, and the rules of the preset sorted by name.
-/

namespace LintConfig

/-- A collection of rule entries to start from. -/
inductive Preset where
  /-- Rules that every project should use. -/
  | recommended
  /-- The recommended rules as errors, and rules on style. -/
  | strict
  /-- A single warning. -/
  | minimal
  deriving DecidableEq

namespace Preset

/-- The presets. -/
def all : List Preset := [recommended, strict, minimal]

/-- The name of a preset. -/
def name : Preset → String
  | recommended => "recommended"
  | strict => "strict"
  | minimal => "minimal"

/-- The preset with a name. -/
def ofName? (s : String) : Option Preset := all.find? (fun p => p.name = s)

/-- A text in an entry. -/
instance : Coe String Toml.Value := ⟨.string⟩

/-- A rule that is reported as an error and needs no option. -/
def asError (id : String) : String × List Toml.Value := (id, ["error"])

/-- An option with one member. -/
def setting (key value : String) : Toml.Value := .table [(key, value)]

/-- The rules of a preset, each with its severity and its options, in the order in which they are
explained to users. -/
def rules : Preset → List (String × List Toml.Value)
  | recommended => [
    asError "no-debugger",
    asError "no-var",
    ("no-unused-vars", ["warn", setting "args" "after-used"]),
    ("eqeqeq", ["error", "always", setting "null" "ignore"])]
  | strict => [
    asError "no-debugger",
    asError "no-var",
    asError "no-console",
    ("no-unused-vars", ["error", setting "args" "all"]),
    ("eqeqeq", ["error", "always"]),
    asError "prefer-const",
    ("semi", ["error", "always"]),
    ("quotes", ["error", "single"]),
    ("max-len", ["warn", .integer 100])]
  | minimal => [("no-debugger", ["warn"])]

/-! ## Rendering -/

/-- An entry as it is written: a severity without options stands alone. -/
def written : List Toml.Value → Toml.Value
  | [severity] => severity
  | entry => .array entry

/-- Puts a rule at its place in the order of names. -/
def place (rule : String × List Toml.Value) :
    List (String × List Toml.Value) → List (String × List Toml.Value)
  | [] => [rule]
  | other :: rest => if other.1 < rule.1 then other :: place rule rest else rule :: other :: rest

/-- The rules of a preset in the order of their names. -/
def sortedRules (p : Preset) : List (String × List Toml.Value) := p.rules.foldr place []

/-- The lines of the comment at the head of a new configuration file. -/
def headerLines : List String := [
  "# flatlint configuration",
  "#",
  "# Plugins map a registry name to a JSON manifest, relative to this file:",
  "#",
  "# [plugins]",
  "# \"@org/pkg\" = \"plugins/org-pkg.json\"",
  "#",
  "# Rules take a severity (\"off\", \"warn\", \"error\" or 0-2), optionally",
  "# followed by options:",
  "#",
  "# semi = [\"error\", \"always\"]",
  "# \"@org/pkg/no-foo\" = \"warn\"",
  ""]

/-- The comment at the head of a new configuration file. -/
def header : String := String.join (headerLines.map (· ++ "\n"))

/-- The text of a new configuration file. -/
def render (p : Preset) : String :=
  header ++ Toml.sectionText "rules" (p.sortedRules.map fun rule => (rule.1, written rule.2))

end Preset

end LintConfig
