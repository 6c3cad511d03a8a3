import LintConfig.Configuration
import LintConfig.Rule.OptionsSchema
import LintConfig.Rule.Suggestion
import LintConfig.Schema.Compiler

/-!
# Validating configurations

`RuleValidator.validate` resolves every rule that is used and checks its options, in the order of
the configuration, and stops at the first entry that cannot be used as written.

**Two caches.**  What is known about a rule definition is kept by its key, so a definition that is
configured under several names is looked at once; what its schema compiles to is kept by the text of
the schema.  Both outlive the call: a `RuleValidator` is the state between two calls.

**Skipped entries.**  Disabled entries are skipped, and so is the one under the reserved name
`reservedId`, whatever they hold.
-/

namespace LintConfig

/-- Why a configured rule cannot be used as written. -/
inductive EntryError where
  /-- The identifier denotes no rule. -/
  | unknownRule (id : String) (lookup : LookupError)
  /-- The options do not satisfy the schema of the rule; one text for each violation. -/
  | invalidOptions (id : String) (violations : List String)
  deriving DecidableEq

namespace EntryError

/-- The identifier of the entry. -/
def id : EntryError → String
  | unknownRule id _ => id
  | invalidOptions id _ => id

/-- The kind of the lookup that failed, if it was one. -/
def lookupKind? : EntryError → Option LookupKind
  | unknownRule _ lookup => some lookup.kind
  | invalidOptions _ _ => none

/-- How every message begins. -/
def place (id : String) : String := "Key \"rules\": Key " ++ quoted id ++ ":"

/-- The message. -/
def message : EntryError → String
  | unknownRule id lookup => place id ++ " " ++ lookup.message
  | invalidOptions id violations =>
    place id ++ "\n" ++ "\n".intercalate (violations.map fun v => "\t" ++ v)

/-- The stable code of the kind of error. -/
def code : EntryError → String
  | unknownRule _ _ => "flatlint::rules::unknown_rule"
  | invalidOptions _ _ => "flatlint::rules::invalid_options"

/-- What the user is told to do, if anything. -/
def help? : EntryError → Option String
  | unknownRule _ _ => none
  | invalidOptions _ _ => some "check the options documented for this rule"

end EntryError

/-- The identifier whose entry is never looked at. -/
def reservedId : String := "__proto__"

/-- Whether an entry is not looked at. -/
def isSkipped (id : String) (entry : RuleEntry) : Bool := id = reservedId || entry.isDisabled

/-- The definition that a configured identifier denotes, or the error that is reported. -/
def lookupRule (registry : Option Registry) (id : String) : Except EntryError RuleDefinition :=
  match resolve registry id with
  | .ok (_, rule) => .ok rule
  | .error failure => .error (.unknownRule id (explain registry id failure.toError))

/-- What is known from earlier calls: the compiled schemas, and the validator of each definition
that was looked at, if its options are validated. -/
structure RuleValidator where
  compiler : SchemaCompiler := {}
  validators : OrderedMap RuleKey (Option OptionsValidator) := ∅

namespace RuleValidator

/-- For how many definitions it is known how their options are checked. -/
def cachedRules (rv : RuleValidator) : Nat := rv.validators.size

/-- A validator that knows nothing yet but goes on counting what it asks of the engine. -/
def renewed (rv : RuleValidator) : RuleValidator :=
  { compiler := { requests := rv.compiler.requests } }

/-- How the options of a definition are checked, worked out from its form. -/
def prepare (engine : SchemaEngine) (compiler : SchemaCompiler) (form : RuleForm) :
    Option OptionsValidator × SchemaCompiler :=
  match form.optionsSchema with
  | .absent => (none, compiler)
  | .rejected schema => (none, (compiler.evict schema).2)
  | .canonical schema =>
    let (validator, compiler) := compiler.compile engine schema
    (some validator, compiler)

/-- How the options of a definition are checked, from the cache or from its form. -/
def validatorFor (engine : SchemaEngine) (rv : RuleValidator) (rule : RuleDefinition) :
    Option OptionsValidator × RuleValidator :=
  match rv.validators.get? rule.key with
  | some known => (known, rv)
  | none =>
    let (validator, compiler) := prepare engine rv.compiler rule.form
    (validator, ⟨compiler, rv.validators.insert rule.key validator⟩)

/-- Whether the options of an entry satisfy its validator, if there is one. -/
def checkOptions (id : String) (entry : RuleEntry) :
    Option OptionsValidator → Except EntryError Unit
  | none => .ok ()
  | some validator =>
    match validator.validate entry.options with
    | [] => .ok ()
    | violations => .error (.invalidOptions id violations)

/-- Checks one entry. -/
def checkEntry (engine : SchemaEngine) (registry : Option Registry) (rv : RuleValidator)
    (id : String) (entry : RuleEntry) : Except EntryError Unit × RuleValidator :=
  if isSkipped id entry then (.ok (), rv)
  else
    match lookupRule registry id with
    | .error error => (.error error, rv)
    | .ok rule =>
      let (validator, rv) := rv.validatorFor engine rule
      (checkOptions id entry validator, rv)

/-- Checks entries one after the other, up to the first that fails. -/
def checkEntries (engine : SchemaEngine) (registry : Option Registry) (rv : RuleValidator) :
    List (String × RuleEntry) → Except EntryError Unit × RuleValidator
  | [] => (.ok (), rv)
  | (id, entry) :: rest =>
    match rv.checkEntry engine registry id entry with
    | (.error error, rv) => (.error error, rv)
    | (.ok (), rv) => rv.checkEntries engine registry rest

/-- Checks every entry of a configuration that is used. -/
def validate (engine : SchemaEngine) (rv : RuleValidator) (config : Configuration) :
    Except EntryError Unit × RuleValidator :=
  rv.checkEntries engine config.plugins config.rules.entries

end RuleValidator

end LintConfig
