/-!
# Removed rules

Built-in rules that no longer exist, and the rules that took their place.
-/

namespace LintConfig

/-- The removed rules by name, each with its replacements. -/
def removedRules : List (String × List String) := [
  ("generator-star", ["generator-star-spacing"]),
  ("global-strict", ["strict"]),
  ("no-arrow-condition", ["no-confusing-arrow", "no-constant-condition"]),
  ("no-comma-dangle", ["comma-dangle"]),
  ("no-empty-class", ["no-empty-character-class"]),
  ("no-empty-label", ["no-labels"]),
  ("no-extra-strict", ["strict"]),
  ("no-reserved-keys", ["quote-props"]),
  ("no-space-before-semi", ["semi-spacing"]),
  ("no-spaced-func", ["func-call-spacing"]),
  ("no-wrap-func", ["no-extra-parens"]),
  ("space-after-function-name", ["space-before-function-paren"]),
  ("space-after-keywords", ["keyword-spacing"]),
  ("space-before-function-parentheses", ["space-before-function-paren"]),
  ("space-before-keywords", ["keyword-spacing"]),
  ("space-in-brackets",
    ["object-curly-spacing", "array-bracket-spacing", "computed-property-spacing"]),
  ("space-return-throw-case", ["keyword-spacing"]),
  ("space-unary-word-ops", ["space-unary-ops"]),
  ("spaced-line-comment", ["spaced-comment"])]

/-- What replaced a removed rule; none for an identifier that is not that of a removed rule. -/
def replacements? (id : String) : Option (List String) := removedRules.lookup id

end LintConfig
