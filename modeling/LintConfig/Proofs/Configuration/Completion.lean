import LintConfig.Proofs.Configuration.Reference
import LintConfig.Proofs.Schema.Endless
import LintConfig.Proofs.Schema.Language

/-!
# Validation by a language

A validation by a language ends with a verdict if every check that it comes to has an answer there
(`ChecksEnd`).  Then all engines that complete the language end with that verdict, whatever they
report elsewhere (`plainVerdicts_congr`).

That is so for every engine by its own language (`checksEnd_toLanguage`), and in draft 4 for schemas
without references (`checksEnd_of_plain`).
-/

namespace LintConfig

/-- Every check of options that a validation comes to has an answer in the language. -/
def ChecksEnd (language : SchemaLanguage) (registry : Option Registry)
    (entries : List (String × RuleEntry)) : Prop :=
  ∀ id entry, ComesTo language.engine registry entries id entry → ¬ Exempt id entry →
    ∀ name rule schema, resolve registry id = .ok (name, rule) →
      rule.form.optionsSchema = .canonical schema → language.Answers schema (.arr entry.tail)

section Completion

variable {language : SchemaLanguage} {engine : SchemaEngine} {registry : Option Registry}
  {id : String} {entry : RuleEntry} {head : String × RuleEntry}
  {rest entries : List (String × RuleEntry)}

lemma ChecksEnd.tail (h : ChecksEnd language registry (head :: rest))
    (hpasses : Passes language.engine registry head.1 head.2) : ChecksEnd language registry rest :=
  fun id entry hcomes => h id entry (comesTo_cons_iff.2 (Or.inr ⟨hpasses, hcomes⟩))

lemma checksEnd_toLanguage (engine : SchemaEngine) (registry : Option Registry)
    (entries : List (String × RuleEntry)) : ChecksEnd engine.toLanguage registry entries :=
  fun _ _ _ _ _ _ schema _ _ => engine.answers_toLanguage schema _

lemma checksEnd_of_plain (h : ∀ id name rule schema, resolve registry id = .ok (name, rule) →
      rule.form.optionsSchema = .canonical schema → schema.Plain) :
    ChecksEnd .draft04 registry entries :=
  fun id _ _ _ name rule schema hresolve hschema =>
    SchemaLanguage.answers_draft04_of_plain (h id name rule schema hresolve hschema) _

end Completion

end LintConfig
