import LintConfig.Plugin
import LintConfig.Rule.Identifier

/-!
# Resolving rule identifiers

`resolve` finds the rule that an identifier denotes in a registry.

* An identifier without a slash denotes a built-in rule.
* One with slashes denotes the rule given by the split with the shortest plugin name, among those
  splits whose parts are not empty and name a registered rule.

A `LookupFailure` says which search came to nothing.  Its kind depends on the number of slashes
alone: with one slash the identifier names its plugin, with more it does not.
-/

namespace LintConfig

/-- What kind of lookup failed. -/
inductive LookupKind where
  /-- A bare name is not a built-in rule. -/
  | noBuiltIn
  /-- The plugin that the identifier names has no such rule. -/
  | notInSpecifiedPlugin
  /-- No reading of the identifier names a rule. -/
  | notInAnyPlugin
  deriving DecidableEq

/-- The stable code of a kind. -/
def LookupKind.code : LookupKind → String
  | noBuiltIn => "NO_BUILT_IN"
  | notInSpecifiedPlugin => "NOT_IN_SPECIFIED_PLUGIN"
  | notInAnyPlugin => "NOT_IN_ANY_PLUGIN"

/-- Why an identifier denotes no rule. -/
inductive LookupFailure where
  /-- The identifier is the empty string. -/
  | emptyIdentifier
  /-- There is no registry to search. -/
  | noRegistry (id : String)
  /-- A bare name is not a built-in rule. -/
  | notBuiltIn (id : String)
  /-- The plugin is registered but has no such rule. -/
  | noSuchRule (plugin rule : String)
  /-- No plugin is registered under the name. -/
  | noSuchPlugin (plugin : String)
  /-- None of the splits names a registered rule. -/
  | noSplit (id : String)
  deriving DecidableEq

/-- A text between quotes. -/
def quoted (s : String) : String := "\"" ++ s ++ "\""

namespace LookupFailure

/-- The kind of a failure. -/
def kind : LookupFailure → LookupKind
  | notBuiltIn _ => .noBuiltIn
  | noSuchRule _ _ | noSuchPlugin _ => .notInSpecifiedPlugin
  | emptyIdentifier | noRegistry _ | noSplit _ => .notInAnyPlugin

/-- The text of a failure. -/
def message : LookupFailure → String
  | emptyIdentifier => "Rule identifier must be a non-empty string."
  | noRegistry id => "Could not find " ++ quoted id ++ ": no plugins are registered."
  | notBuiltIn id => "Could not find " ++ quoted id ++ " in the built-in rules."
  | noSuchRule plugin rule =>
    "Could not find " ++ quoted rule ++ " in plugin " ++ quoted plugin ++ "."
  | noSuchPlugin plugin => "Could not find plugin " ++ quoted plugin ++ "."
  | noSplit id => "Could not find a plugin that provides " ++ quoted id ++ "."

end LookupFailure

/-- A rule by the plugin name and the rule name it is registered under. -/
structure RuleName where
  plugin : String
  rule : String
  deriving DecidableEq

namespace RuleName

/-- Whether the rule is built in. -/
def isBuiltin (n : RuleName) : Bool := n.plugin = builtinName

/-- How the rule is shown: a built-in rule by its bare name. -/
def display (n : RuleName) : String :=
  if n.isBuiltin then n.rule else RuleId.join n.plugin n.rule

end RuleName

namespace Registry

/-- The rule that one split of an identifier names; an empty part names nothing. -/
def ruleOfSplit? (registry : Registry) (split : String × String) :
    Option (RuleName × RuleDefinition) :=
  if split.1 = "" ∨ split.2 = "" then none
  else (registry.rule? split.1 split.2).map fun rule => (⟨split.1, split.2⟩, rule)

/-- Finds a rule in a registry by a non-empty identifier. -/
def find (registry : Registry) (id : String) : Except LookupFailure (RuleName × RuleDefinition) :=
  match RuleId.splits id with
  | [] =>
    match registry.rule? builtinName id with
    | some rule => .ok (⟨builtinName, id⟩, rule)
    | none => .error (.notBuiltIn id)
  | [split] =>
    match registry.ruleOfSplit? split with
    | some found => .ok found
    | none =>
      .error (if (registry.get? split.1).isSome then .noSuchRule split.1 split.2
        else .noSuchPlugin split.1)
  | splits =>
    match splits.findSome? registry.ruleOfSplit? with
    | some found => .ok found
    | none => .error (.noSplit id)

end Registry

/-- The rule that an identifier denotes, with its definition. -/
def resolve (registry : Option Registry) (id : String) :
    Except LookupFailure (RuleName × RuleDefinition) :=
  if id = "" then .error .emptyIdentifier
  else
    match registry with
    | none => .error (.noRegistry id)
    | some registry => registry.find id

end LintConfig
