import LintConfig.Schema.Compiled

/-!
# Engines

Whoever checks options needs to know of a schema language only that a schema can be compiled, or
cannot, and what a compiled schema reports about a value.  A `SchemaEngine` is that knowledge, and
what is built on engines holds of each of them.

**Languages.**  In a `SchemaLanguage` a check need not come to an end.  Whoever waits for its report
waits for ever, so what an engine for the language reports instead means nothing, and results about
an engine that `Completes` a language are about the checks that the language answers.  In the engine
for draft 4, `endlessReport` stands for the missing reports.

**Failing open.**  The schema of a rule is its author's business and not the user's.  Options are
therefore checked with an `OptionsValidator`, which accepts everything where the schema does not
compile.
-/

namespace LintConfig

/-- What a compiled schema reports about a value. -/
abbrev SchemaCheck := Json → List Violation

/-- A schema language: what each schema compiles to, if it compiles. -/
abbrev SchemaEngine := Json → Option SchemaCheck

/-- A schema language in which checks need not come to an end.  Such a check has no report. -/
abbrev SchemaLanguage := Json → Option (Json → Option (List Violation))

namespace SchemaLanguage

/-- The language of draft 4. -/
def draft04 : SchemaLanguage := fun schema =>
  (CompiledSchema.ofJson? schema).map CompiledSchema.violations?

/-- What stands for the report of a check that does not come to an end. -/
def endlessReport : List Violation := [⟨"", "the check does not come to an end"⟩]

/-- An engine for a language. -/
def engine (language : SchemaLanguage) : SchemaEngine := fun schema =>
  (language schema).map fun search v => (search v).getD endlessReport

/-- Whether the check of a value by a schema comes to an end, if the schema compiles. -/
def Answers (language : SchemaLanguage) (schema v : Json) : Prop :=
  ∀ search, language schema = some search → (search v).isSome

end SchemaLanguage

namespace SchemaEngine

/-- The engine for schemas of draft 4. -/
def draft04 : SchemaEngine := SchemaLanguage.draft04.engine

/-- Whether an engine compiles what compiles in a language, and reports what is reported there. -/
structure Completes (engine : SchemaEngine) (language : SchemaLanguage) : Prop where
  isSome_iff : ∀ schema, (engine schema).isSome ↔ (language schema).isSome
  report_eq : ∀ schema check search v found, engine schema = some check →
    language schema = some search → search v = some found → check v = found

end SchemaEngine

/-- How the options of a rule are checked. -/
inductive OptionsValidator where
  /-- Every value is accepted, since the schema did not compile. -/
  | acceptAll
  /-- By what a compiled schema reports. -/
  | compiled (check : SchemaCheck)

namespace OptionsValidator

/-- The validator for the outcome of a compilation. -/
def ofOutcome : Option SchemaCheck → OptionsValidator
  | some check => compiled check
  | none => acceptAll

/-- What is wrong with a value, in one line for each violation. -/
def validate : OptionsValidator → Json → List String
  | acceptAll, _ => []
  | compiled check, v => (check v).map Violation.display

/-- Whether this is the validator of a schema that did not compile. -/
def acceptsAll : OptionsValidator → Bool
  | acceptAll => true
  | compiled _ => false

/-- The word for the kind of a validator. -/
def word : OptionsValidator → String
  | acceptAll => "AcceptAll"
  | compiled _ => "Compiled(..)"

end OptionsValidator

end LintConfig
