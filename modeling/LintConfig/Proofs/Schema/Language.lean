import Mathlib.Tactic.Lemma
import LintConfig.Schema.Engine

/-!
# Languages and their engines

An engine has a report about every value, and a language has none where a check does not come to an
end.

**Completions.**  A language has an engine that completes it (`completes_engine`), and every engine
completes a language in which all checks come to an end (`completes_toLanguage`,
`answers_toLanguage`).  So what is said of a language and of the engines that complete it is said of
every engine.
-/

namespace LintConfig

namespace SchemaLanguage

variable {language : SchemaLanguage}

/-- The report that stands for a missing one is not empty. -/
lemma getD_endlessReport_eq_nil_iff {report : Option (List Violation)} :
    report.getD endlessReport = [] ↔ report = some [] := by
  cases report with
  | none => simp [endlessReport]
  | some found => simp

lemma engine_eq_some_iff {schema : Json} {check : SchemaCheck} :
    language.engine schema = some check
      ↔ ∃ search, language schema = some search
          ∧ (fun v => (search v).getD endlessReport) = check :=
  Option.map_eq_some_iff

theorem completes_engine (language : SchemaLanguage) : language.engine.Completes language where
  isSome_iff schema := by rw [engine, Option.isSome_map]
  report_eq := by
    intro schema check search v found hcheck hsearch hfound
    obtain ⟨search', hsearch', rfl⟩ := engine_eq_some_iff.1 hcheck
    obtain rfl := Option.some.inj (hsearch.symm.trans hsearch')
    simp only [hfound, Option.getD_some]

end SchemaLanguage

namespace SchemaEngine

/-- The language of an engine, in which every check comes to an end. -/
def toLanguage (engine : SchemaEngine) : SchemaLanguage :=
  fun schema => (engine schema).map fun check v => some (check v)

/-- **Every engine is the engine of a language.** -/
theorem engine_toLanguage (engine : SchemaEngine) : engine.toLanguage.engine = engine := by
  funext schema
  rw [SchemaLanguage.engine, toLanguage]
  cases engine schema with
  | none => rfl
  | some check => rfl

theorem completes_toLanguage (engine : SchemaEngine) : engine.Completes engine.toLanguage := by
  have hcompletes := engine.toLanguage.completes_engine
  rwa [engine_toLanguage] at hcompletes

lemma answers_toLanguage (engine : SchemaEngine) (schema v : Json) :
    engine.toLanguage.Answers schema v := by
  intro search hsearch
  obtain ⟨check, -, rfl⟩ := Option.map_eq_some_iff.1 hsearch
  rfl

lemma Completes.exists_search {engine : SchemaEngine} {language : SchemaLanguage}
    (h : engine.Completes language) {schema : Json} {check : SchemaCheck}
    (hcheck : engine schema = some check) : ∃ search, language schema = some search :=
  Option.isSome_iff_exists.1 ((h.isSome_iff schema).1 (Option.isSome_of_eq_some hcheck))

/-- Where a check comes to an end, its report is the one of the language. -/
lemma Completes.exists_of_answers {engine : SchemaEngine} {language : SchemaLanguage}
    (h : engine.Completes language) {schema v : Json} {check : SchemaCheck}
    (hcheck : engine schema = some check) (hanswers : language.Answers schema v) :
    ∃ search, language schema = some search ∧ search v = some (check v) := by
  obtain ⟨search, hsearch⟩ := h.exists_search hcheck
  obtain ⟨found, hfound⟩ := Option.isSome_iff_exists.1 (hanswers search hsearch)
  have hreport : check v = found := h.report_eq schema check search v found hcheck hsearch hfound
  exact ⟨search, hsearch, by rw [hfound, hreport]⟩

end SchemaEngine

end LintConfig
