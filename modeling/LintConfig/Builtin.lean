import LintConfig.Plugin

/-!
# The built-in rules

The plugin that is registered under `builtinName`, so that its rules are configured by bare names.

The rules come with both shapes of options schemas, positional and whole, declared beside the
information block or inside it.  They are listed in the order of their names.
-/

namespace LintConfig

namespace Builtin

/-! ## Schemas -/

/-- One of some words. -/
def oneOfWords (words : List Json) : Json := .object [("enum", .arr words)]

/-- The word for requiring something, or the one for forbidding it. -/
def alwaysNever : Json := oneOfWords ["always", "never"]

/-- A truth value. -/
def flag : Json := .object [("type", "boolean")]

/-- A text. -/
def text : Json := .object [("type", "string")]

/-- An integer that is not negative. -/
def width : Json := .object [("type", "integer"), ("minimum", 0)]

/-- An object with no other members than those described. -/
def record (properties : List (String × Json)) : Json :=
  .object [("type", "object"), ("properties", .object properties), ("additionalProperties", false)]

/-- A list with at most two items, which are as described. -/
def pair (first second : Json) : Json :=
  .object [("type", "array"), ("items", .arr [first, second]), ("minItems", 0), ("maxItems", 2)]

/-- A value that one of some schemas accepts. -/
def anyOf (schemas : List Json) : Json := .object [("anyOf", .arr schemas)]

/-- A value that exactly one of some schemas accepts. -/
def oneOf (schemas : List Json) : Json := .object [("oneOf", .arr schemas)]

/-! ## Rules -/

/-- A rule with a description and an options schema in its information block. -/
def documented (description : String) (schema : Json) : RuleForm :=
  .object {
    create := true
    info := some { schema := some schema, docs := some { description := some description } } }

/-- A rule with nothing but an options schema beside the information block. -/
def bare (schema : Json) : RuleForm := .object { create := true, schema := some schema }

def camelcase : RuleForm :=
  documented "Enforce camelcase naming convention" <| .arr [
    record [("ignoreDestructuring", flag), ("ignoreImports", flag), ("properties", alwaysNever)]]

def commaDangle : RuleForm :=
  bare <| .arr [oneOfWords ["always", "always-multiline", "only-multiline", "never"]]

def eqeqeq : RuleForm :=
  documented "Require the use of `===` and `!==`" <| .object [
    ("type", "array"),
    ("anyOf", .arr [
      .object [
        ("items", .arr [
          oneOfWords ["always"], record [("null", oneOfWords ["always", "never", "ignore"])]]),
        ("additionalItems", false)],
      .object [("items", .arr [oneOfWords ["smart", "allow-null"]]), ("additionalItems", false)]])]

def funcCallSpacing : RuleForm :=
  documented "Require or disallow spacing between function identifiers and their invocations" <|
    pair alwaysNever (.object [("type", "object")])

def indent : RuleForm :=
  documented "Enforce consistent indentation" <| .arr [
    oneOf [oneOfWords ["tab"], width], record [("SwitchCase", width), ("ignoreComments", flag)]]

def maxLen : RuleForm :=
  let options := record [("code", width), ("tabWidth", width), ("ignoreComments", flag),
    ("ignoreUrls", flag), ("ignoreStrings", flag)]
  documented "Enforce a maximum line length" <| .arr [
    anyOf [options, width], anyOf [options, width], options]

def noConsole : RuleForm :=
  documented "Disallow the use of `console`" <| .arr [
    record [("allow", .object [
      ("type", "array"), ("items", text), ("minItems", 1), ("uniqueItems", true)])]]

def noDebugger : RuleForm := documented "Disallow the use of `debugger`" (.arr [])

def noExtraSemi : RuleForm :=
  .object { create := true, info := some {
    schema := some (.arr [])
    deprecated := true
    replacedBy := ["semi"]
    docs := some { description := some "Disallow unnecessary semicolons" } } }

def noUnusedVars : RuleForm :=
  documented "Disallow unused variables" <| .arr [
    oneOf [
      oneOfWords ["all", "local"],
      record [
        ("vars", oneOfWords ["all", "local"]),
        ("args", oneOfWords ["all", "after-used", "none"]),
        ("ignoreRestSiblings", flag),
        ("varsIgnorePattern", text),
        ("argsIgnorePattern", text),
        ("caughtErrors", oneOfWords ["all", "none"])]]]

def noVar : RuleForm := documented "Require `let` or `const` instead of `var`" (.arr [])

def noWith : RuleForm := .function

def preferConst : RuleForm :=
  documented "Require `const` declarations for variables that are never reassigned" <| .arr [
    record [("destructuring", oneOfWords ["any", "all"]), ("ignoreReadBeforeAssign", flag)]]

def quotes : RuleForm :=
  documented "Enforce the consistent use of either backticks, double, or single quotes" <| .arr [
    oneOfWords ["single", "double", "backtick"],
    anyOf [
      oneOfWords ["avoid-escape"],
      record [("avoidEscape", flag), ("allowTemplateLiterals", flag)]]]

def semi : RuleForm :=
  documented "Require or disallow semicolons instead of ASI" <| anyOf [
    pair (oneOfWords ["never"])
      (record [("beforeStatementContinuationChars", oneOfWords ["always", "any", "never"])]),
    pair (oneOfWords ["always"]) (record [("omitLastInOneLineBlock", flag)])]

def strict : RuleForm := bare <| .arr [oneOfWords ["never", "global", "function", "safe"]]

/-- The rules by name. -/
def rules : List (String × RuleForm) := [
  ("camelcase", camelcase),
  ("comma-dangle", commaDangle),
  ("eqeqeq", eqeqeq),
  ("func-call-spacing", funcCallSpacing),
  ("indent", indent),
  ("max-len", maxLen),
  ("no-console", noConsole),
  ("no-debugger", noDebugger),
  ("no-extra-semi", noExtraSemi),
  ("no-unused-vars", noUnusedVars),
  ("no-var", noVar),
  ("no-with", noWith),
  ("prefer-const", preferConst),
  ("quotes", quotes),
  ("semi", semi),
  ("strict", strict)]

end Builtin

/-- The built-in plugin. -/
def builtin : PluginDeclaration where
  info := some { name := some "flatlint", version := some "0.3.0" }
  rules := .ofList Builtin.rules

end LintConfig
