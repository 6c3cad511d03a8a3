import LintConfig.Json

/-!
# Rule definitions

A plugin declares a rule in one of two forms: as a bare function, which says nothing about its
options, or as an object with an options schema and further information.

**Identity.**  A declaration says what a rule is; a `RuleDefinition` is one rule, with a `RuleKey`
of its own.  The same definition may be registered under several names, and what is known about it
is kept by its key.  Keys are handed out by a `Supply`, so no two definitions share one.
-/

namespace LintConfig

/-- The documentation block of a rule. -/
structure RuleDocs where
  /-- A description in one line. -/
  description : Option String := none

/-- The information block of a rule in object form. -/
structure RuleMeta where
  /-- The options schema, where this block declares one.  A schema that is null is declared. -/
  schema : Option Json := none
  /-- Whether the rule should no longer be used. -/
  deprecated : Bool := false
  /-- The rules to use in its place. -/
  replacedBy : List String := []
  docs : Option RuleDocs := none

/-- A rule in object form. -/
structure RuleDeclaration where
  /-- Whether the object can create the rule. -/
  create : Bool := false
  /-- The options schema, where it is declared beside the information block. -/
  schema : Option Json := none
  info : Option RuleMeta := none

/-- The two forms of a rule. -/
inductive RuleForm where
  /-- A bare function. -/
  | function
  /-- An object. -/
  | object (declaration : RuleDeclaration)

/-- The identity of a rule definition. -/
structure RuleKey where
  index : Nat
  deriving DecidableEq

/-- One rule: a form, and the identity that it keeps under every name. -/
structure RuleDefinition where
  key : RuleKey
  form : RuleForm

/-- Computations that may ask for a number nobody else has. -/
abbrev Supply := StateM Nat

/-- A number that has not been handed out before. -/
def Supply.fresh : Supply Nat := fun next => (next, next + 1)

namespace RuleForm

/-- The information block, if there is one. -/
def info? : RuleForm → Option RuleMeta
  | function => none
  | object declaration => declaration.info

/-- The documented description, if there is one. -/
def description? (form : RuleForm) : Option String :=
  form.info?.bind fun info => info.docs.bind fun docs => docs.description

/-- A new definition of this form. -/
def define (form : RuleForm) : Supply RuleDefinition := do
  return ⟨⟨← Supply.fresh⟩, form⟩

end RuleForm

end LintConfig
