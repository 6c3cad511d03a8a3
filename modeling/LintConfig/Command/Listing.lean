import LintConfig.Plugin
import LintConfig.Rule.OptionsSchema
import LintConfig.Rule.Identifier

/-!
# The list of rules

A table with one line for each rule of each plugin: the identifier it is configured by, what is
known about its options, and its description.
-/

namespace LintConfig

namespace Listing

/-- A text with blanks after it, up to a width in characters. -/
def padRight (width : Nat) (s : String) : String :=
  s ++ String.ofList (List.replicate (width - s.length) ' ')

/-- One line of the table. -/
def row (id options description : String) : String :=
  padRight 36 id ++ " " ++ padRight 10 options ++ " " ++ description ++ "\n"

/-- What is said about the options of a rule: that any are accepted, that none is, or that a schema
decides. -/
def optionsLabel (form : RuleForm) : String :=
  match form.optionsSchema.schema? with
  | none => "any"
  | some schema =>
    match schema.member? "maxItems" with
    | some (.num (.integer 0)) => "none"
    | _ => "schema"

/-- The description of a rule, with a remark if it is deprecated. -/
def describe (form : RuleForm) : String :=
  let description := form.description?.getD ""
  match form.info? with
  | some info =>
    if !info.deprecated then description
    else if info.replacedBy.isEmpty then description ++ " (deprecated)"
    else description ++ " (deprecated, use " ++ ", ".intercalate info.replacedBy ++ ")"
  | none => description

/-- The identifier that a rule is configured by. -/
def identifier (plugin rule : String) : String :=
  if plugin = builtinName then rule else RuleId.join plugin rule

/-- The lines for the rules of a plugin. -/
def pluginRows (name : String) (plugin : Plugin) : String :=
  String.join (plugin.rules.entries.map fun (rule, definition) =>
    row (identifier name rule) (optionsLabel definition.form) (describe definition.form))

/-- What stands above the table. -/
def heading : String :=
  row "Rule" "Options" "Description" ++ String.ofList (List.replicate 80 '-') ++ "\n"

/-- What stands below the table. -/
def footer : String :=
  "\nPresets:\n" ++
  "  recommended  - no-debugger, no-var, no-unused-vars, eqeqeq (default)\n" ++
  "  strict       - recommended plus style rules, all as errors\n" ++
  "  minimal      - no-debugger as a warning\n" ++
  "\nStart from a preset with:\n" ++
  "  flatlint init --preset strict\n"

/-- The table for the rules of a registry. -/
def text (registry : Registry) : String :=
  heading ++ String.join (registry.entries.map fun (name, plugin) => pluginRows name plugin)
    ++ footer

end Listing

end LintConfig
