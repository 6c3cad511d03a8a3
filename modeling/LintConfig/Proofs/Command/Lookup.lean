import Mathlib
import LintConfig.Proofs.Command.Check

/-!
# What the commands say of an identifier

Three commands look identifiers up: a check those of all entries that are used, `resolve` and
`schema` the one they are given.  They share the registry that the selected source loads, so they
have to agree.

**One configuration.**  The outcomes of `resolve` and `schema` are told apart by resolution alone
(`runResolve_of_ok`, `runResolve_of_error`, `code_runSchema_eq_zero_iff`).  A check that ends well
has resolved every entry that is used (`resolves_of_accepted`).

**One source.**  Command lines that differ in the command alone select the same source
(`runCommandLine_of_load`), so **`lookup_agreement`** puts the parts together.
-/

namespace LintConfig

/-- A command line that asks for another command on the same source. -/
def AsksFor (env : Environment) (invocation : Invocation) (command : Command)
    (arguments : List String) : Prop :=
  Invocation.parse? env arguments = some { invocation with command }

/-- The text of the error that a check reports for an identifier that is not found. -/
def unknownRuleText (id : String) (lookup : LookupError) : String :=
  "Key \"rules\": Key \"" ++ id ++ "\": " ++ lookup.message

section Configuration

variable {engine : SchemaEngine} {config : Configuration} {id : String}

lemma message_unknownRule (lookup : LookupError) :
    (EntryError.unknownRule id lookup).message = unknownRuleText id lookup := by
  -- over variables, so that no two literals are ever compared with the identifier in between
  have key : ∀ p q c s m p' c' : String, p' = p ++ q → c' = q ++ (c ++ s) →
      p ++ (q ++ id ++ q) ++ c ++ s ++ m = p' ++ id ++ c' ++ m := by
    intro p q c s m p' c' hp hc
    simp only [hp, hc, String.append_assoc]
  exact key _ _ _ _ _ _ _ (by decide) (by decide)

lemma runResolve_of_ok {name : RuleName} {rule : RuleDefinition}
    (h : resolve config.plugins id = .ok (name, rule)) :
    Command.runResolve config id
      = .success ("plugin: " ++ name.plugin ++ "\nrule:   " ++ name.rule ++ "\n") := by
  rw [Command.runResolve, h]

lemma runResolve_of_error {failure : LookupFailure}
    (h : resolve config.plugins id = .error failure) :
    Command.runResolve config id
      = { code := 1, stdout := ""
          stderr := "\x1b[31merror[" ++ (explain config.plugins id failure.toError).kind.code
            ++ "]\x1b[0m: " ++ (explain config.plugins id failure.toError).message ++ "\n" } := by
  rw [Command.runResolve, h]
  rfl

lemma code_runResolve_eq_zero_iff :
    (Command.runResolve config id).code = 0
      ↔ ∃ name rule, resolve config.plugins id = .ok (name, rule) := by
  cases h : resolve config.plugins id with
  | ok found =>
      obtain ⟨name, rule⟩ := found
      rw [runResolve_of_ok h]
      simp [Outcome.success]
  | error failure =>
      rw [runResolve_of_error h]
      simp

lemma code_runSchema_eq_zero_iff :
    (Command.runSchema config id).code = 0
      ↔ ∃ name rule, resolve config.plugins id = .ok (name, rule) := by
  rw [Command.runSchema]
  cases resolve config.plugins id with
  | ok found =>
      obtain ⟨name, rule⟩ := found
      simp [Outcome.success]
  | error failure => simp [Outcome.failed, Outcome.failure]

/-- A check reports an identifier as unknown where resolution fails, with its explanation. -/
lemma exists_failure_of_unknownRule {lookup : LookupError}
    (h : plainVerdicts engine config.plugins config.rules.entries
      = .error (.unknownRule id lookup)) :
    ∃ failure, resolve config.plugins id = .error failure
      ∧ lookup = explain config.plugins id failure.toError := by
  obtain ⟨id', entry, -, hfault⟩ := plainVerdicts_error_iff.1 h
  cases hfault with
  | unresolved _ hresolve => exact ⟨_, hresolve, rfl⟩

end Configuration

section Source

variable {engine : SchemaEngine} {t : FileTree} {env : Environment} {arguments : List String}
  {invocation : Invocation} {config : Configuration} {id : String}

/-- The severity of a loaded entry is the one at its head. -/
lemma severity?_of_load {view : FileView} {source : ConfigSource}
    (h : source.load view = .ok config) {e : String × RuleEntry} (he : e ∈ config.rules.entries) :
    ∃ severity options, e.2 = severity.toJson :: options
      ∧ config.severity? e.1 = some severity := by
  obtain ⟨file, -, hentries⟩ := loaded_of_load h
  obtain ⟨severity, options, heq⟩ := ConfigFile.exists_severity_of_forall₂ hentries he
  exact ⟨severity, options, heq, severity?_of_mem he heq⟩

/-- **In a configuration that a check accepts, every entry that is used resolves.** -/
lemma resolves_of_accepted {view : FileView} {source : ConfigSource}
    (h : source.load view = .ok config)
    (hverdict : plainVerdicts engine config.plugins config.rules.entries = .ok ())
    (hid : id ∈ config.rules.keys) (hreserved : id ≠ "__proto__")
    (hoff : config.severity? id ≠ some .off) :
    ∃ name rule, resolve config.plugins id = .ok (name, rule) := by
  obtain ⟨e, he, rfl⟩ := List.mem_map.1 hid
  obtain ⟨severity, options, heq, hseverity⟩ := severity?_of_load h he
  have hpasses := plainVerdicts_ok_iff.1 hverdict e he
  rw [heq, passes_toJson_iff] at hpasses
  rcases hpasses with hproto | hisOff | ⟨name, rule, hresolve, -⟩
  · exact absurd hproto hreserved
  · rw [hseverity, hisOff] at hoff
    exact absurd rfl hoff
  · exact ⟨name, rule, hresolve⟩

lemma runCommandLine_of_load (hparse : Invocation.parse? env arguments = some invocation)
    (hload : (ConfigSource.select t.view invocation).load t.view = .ok config)
    {run : Configuration → Outcome}
    (hrun : invocation.run engine t.view
      = Command.withConfiguration t.view (ConfigSource.select t.view invocation) run) :
    (runCommandLineWith engine t env arguments).1 = run config := by
  rw [runCommandLineWith, hparse]
  simp only [hrun, Command.withConfiguration, hload, FileTree.perform]

lemma runCommandLine_resolve
    (hload : (ConfigSource.select t.view invocation).load t.view = .ok config)
    (h : AsksFor env invocation (.resolve id) arguments) :
    (runCommandLineWith engine t env arguments).1 = Command.runResolve config id :=
  runCommandLine_of_load h hload rfl

lemma runCommandLine_schema
    (hload : (ConfigSource.select t.view invocation).load t.view = .ok config)
    (h : AsksFor env invocation (.schema id) arguments) :
    (runCommandLineWith engine t env arguments).1 = Command.runSchema config id :=
  runCommandLine_of_load h hload rfl

end Source

/-- **The commands agree about identifiers**, on every source that loads and with every engine.

* If a check ends with an unknown rule, the message of its error names the place and then says what
  `resolve` says of that identifier after the code of the failure.  It stands in the report for
  programs; for people it is the message of a diagnostic.
* If a check ends well, `resolve` finds every configured identifier that is used.
* `schema` succeeds on the identifiers on which `resolve` does. -/
theorem lookup_agreement (engine : SchemaEngine) (t : FileTree) (env : Environment)
    (arguments : List String) (invocation : Invocation) (format : ReportFormat)
    (config : Configuration)
    (hcheck : AsksFor env invocation (.check format) arguments)
    (hload : (ConfigSource.select t.view invocation).load t.view = .ok config) :
    (∀ id lookup,
        (RuleValidator.validate engine {} config).1 = .error (.unknownRule id lookup) →
        (runCommandLineWith engine t env arguments).1.code = 1
          ∧ (match format with
            | .json => ∃ report : Json,
                (runCommandLineWith engine t env arguments).1.stdout = report.pretty ++ "\n"
                  ∧ report.member? "error" = some (.str (unknownRuleText id lookup))
            | .text => ∃ error : EntryError,
                (runCommandLineWith engine t env arguments).1.diagnostic? = some error
                  ∧ error.message = unknownRuleText id lookup)
          ∧ ∀ arguments', AsksFor env invocation (.resolve id) arguments' →
            (runCommandLineWith engine t env arguments').1
              = { code := 1, stdout := ""
                  stderr := "\x1b[31merror[" ++ lookup.kind.code ++ "]\x1b[0m: "
                    ++ lookup.message ++ "\n" })
      ∧ ((runCommandLineWith engine t env arguments).1.code = 0 →
        ∀ id ∈ config.rules.keys, id ≠ "__proto__" → config.severity? id ≠ some .off →
          ∀ arguments', AsksFor env invocation (.resolve id) arguments' →
            (runCommandLineWith engine t env arguments').1.code = 0)
      ∧ ∀ id arguments' arguments'', AsksFor env invocation (.resolve id) arguments' →
          AsksFor env invocation (.schema id) arguments'' →
          ((runCommandLineWith engine t env arguments'').1.code = 0
            ↔ (runCommandLineWith engine t env arguments').1.code = 0) := by
  have hrun : (runCommandLineWith engine t env arguments).1
      = Command.runCheck engine (ConfigSource.select t.view invocation) config format :=
    runCommandLine_of_load hcheck hload rfl
  refine ⟨fun id lookup hunknown => ?_, fun hcode id hid hreserved hoff arguments' hresolve => ?_,
    fun id arguments' arguments'' hresolve hschema => ?_⟩
  · rw [hrun, runCheck_of_error hunknown]
    refine ⟨by cases format <;> rfl, ?_, fun arguments' hresolve => ?_⟩
    · cases format with
      | json =>
          refine ⟨_, rfl, ?_⟩
          rw [member?_error_json, Option.map_some, message_unknownRule]
      | text => exact ⟨_, rfl, message_unknownRule lookup⟩
    · rw [validate_of_load hload] at hunknown
      obtain ⟨failure, hfailure, rfl⟩ := exists_failure_of_unknownRule hunknown
      rw [runCommandLine_resolve hload hresolve, runResolve_of_error hfailure]
  · rw [runCommandLine_resolve hload hresolve, code_runResolve_eq_zero_iff]
    have haccepted : plainVerdicts engine config.plugins config.rules.entries = .ok () := by
      rw [← validate_of_load hload]
      cases hverdict : (RuleValidator.validate engine {} config).1 with
      | ok _ => rfl
      | error error =>
          -- a check with a fault does not end with code zero
          rw [hrun, runCheck_of_error hverdict] at hcode
          cases format <;> exact nomatch hcode
    exact resolves_of_accepted hload haccepted hid hreserved hoff
  · rw [runCommandLine_resolve hload hresolve, runCommandLine_schema hload hschema,
      code_runResolve_eq_zero_iff, code_runSchema_eq_zero_iff]

/-- Checking the directory whose configuration turns on a rule that is nowhere declared. -/
def strayCheck : Invocation := ⟨none, ⟨"."⟩, none, .check .text⟩

/-- The identifier that a verdict reports as unknown. -/
def unknownId? : Except EntryError Unit → Option String
  | .error (.unknownRule id _) => some id
  | _ => none

lemma exists_of_unknownId? {verdict : Except EntryError Unit} {id : String}
    (h : unknownId? verdict = some id) : ∃ lookup, verdict = .error (.unknownRule id lookup) := by
  unfold unknownId? at h
  split at h
  · next lookup =>
      obtain rfl := Option.some.inj h
      exact ⟨lookup, rfl⟩
  · cases h

lemma exists_unknownRule_strayTree :
    ∃ config lookup,
      (ConfigSource.select strayTree.view strayCheck).load strayTree.view = .ok config
        ∧ (RuleValidator.validate .draft04 {} config).1
          = .error (.unknownRule "stray" lookup) := by
  have hunknown : ((ConfigSource.select strayTree.view strayCheck).load
      strayTree.view).toOption.map (fun config =>
        unknownId? (RuleValidator.validate .draft04 {} config).1) = some (some "stray") := by
    decide +kernel
  cases hload : (ConfigSource.select strayTree.view strayCheck).load strayTree.view with
  | error failure =>
      rw [hload] at hunknown
      cases hunknown
  | ok config =>
      rw [hload, Except.toOption, Option.map_some] at hunknown
      obtain ⟨lookup, hverdict⟩ := exists_of_unknownId? (Option.some.inj hunknown)
      exact ⟨config, lookup, rfl, hverdict⟩

/-- A rule that is nowhere declared fails the check and the lookup alike. -/
theorem lookup_agreement_strayTree :
    AsksFor bareEnvironment strayCheck (.check .text) ["check"]
      ∧ AsksFor bareEnvironment strayCheck (.resolve "stray") ["resolve", "stray"]
      ∧ ∃ (error : EntryError) (lookup : LookupError),
        (runCommandLine strayTree bareEnvironment ["check"]).1.diagnostic? = some error
          ∧ error.message = "Key \"rules\": Key \"stray\": " ++ lookup.message
          ∧ (runCommandLine strayTree bareEnvironment ["resolve", "stray"]).1.stderr
            = "\x1b[31merror[" ++ lookup.kind.code ++ "]\x1b[0m: " ++ lookup.message ++ "\n" := by
  have hcheck : AsksFor bareEnvironment strayCheck (.check .text) ["check"] := by rfl
  have hresolve : AsksFor bareEnvironment strayCheck (.resolve "stray") ["resolve", "stray"] := by
    rfl
  obtain ⟨config, lookup, hload, hverdict⟩ := exists_unknownRule_strayTree
  obtain ⟨hfails, -, -⟩ := lookup_agreement .draft04 strayTree bareEnvironment _ strayCheck .text
    config hcheck hload
  obtain ⟨-, ⟨error, hdiagnostic, hmessage⟩, hlookup⟩ := hfails "stray" lookup hverdict
  refine ⟨hcheck, hresolve, error, lookup, ?_, ?_, ?_⟩
  · rw [runCommandLine]
    exact hdiagnostic
  · rw [hmessage]
    rfl
  · rw [runCommandLine, hlookup _ hresolve]

end LintConfig
