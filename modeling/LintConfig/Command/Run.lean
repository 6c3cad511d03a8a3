import LintConfig.Command.Arguments
import LintConfig.Command.Listing
import LintConfig.Command.Outcome
import LintConfig.Command.Source
import LintConfig.Configuration.Validation

/-!
# Running commands

`Invocation.run` says what an invocation does, as a function of what the files are and of the engine
that options are checked with.  Only `init` writes anything.

**What is looked at.**  `Invocation.paths` lists the paths that a run depends on: the files that may
be the configuration, the manifests that the selected one names, and the file that `init` writes.
-/

namespace LintConfig

namespace CheckReport

/-- How many rules of a configuration have a severity other than off. -/
def enabledCount (config : Configuration) : Nat :=
  (config.rules.keys.filter fun id =>
    match config.severity? id with
    | some severity => severity ≠ .off
    | none => false).length

/-- The report for programs: the file, how many rules there are and how many are used, and the first
fault if there is one. -/
def json (source : ConfigSource) (config : Configuration) (fault : Option EntryError) : Json :=
  let file : Json := match source.path? with
    | some p => .str p.text
    | none => .null
  .obj <| [("config", file), ("rules", Json.ofNat config.rules.size),
    ("enabled", Json.ofNat (enabledCount config))]
    ++ fault.toList.map fun e => ("error", .str e.message)

/-- The report for people, of a configuration without faults. -/
def text (source : ConfigSource) (config : Configuration) : String :=
  let file := match source.path? with
    | some p => p.text
    | none => "<defaults>"
  "\x1b[32mok\x1b[0m " ++ file ++ ": " ++ toString config.rules.size ++ " rule(s) configured, "
    ++ toString (enabledCount config) ++ " enabled\n"

end CheckReport

namespace Command

/-- Checks a configuration. -/
def runCheck (engine : SchemaEngine) (source : ConfigSource) (config : Configuration)
    (format : ReportFormat) : Outcome :=
  let fault : Option EntryError := match (RuleValidator.validate engine {} config).1 with
    | .ok () => none
    | .error e => some e
  let code := if fault.isSome then 1 else 0
  match format, fault with
  | .json, fault => { code, stdout := (CheckReport.json source config fault).pretty ++ "\n" }
  | .text, none => { code, stdout := CheckReport.text source config }
  | .text, some e => { code, diagnostic? := some e }

/-- Says which rule an identifier denotes. -/
def runResolve (config : Configuration) (id : String) : Outcome :=
  match LintConfig.resolve config.plugins id with
  | .ok (name, _) => .success ("plugin: " ++ name.plugin ++ "\nrule:   " ++ name.rule ++ "\n")
  | .error failure =>
    let error := explain config.plugins id failure.toError
    .failure ("\x1b[31merror[" ++ error.kind.code ++ "]\x1b[0m: " ++ error.message)

/-- Prints the options schema of the rule that an identifier denotes. -/
def runSchema (config : Configuration) (id : String) : Outcome :=
  match LintConfig.resolve config.plugins id with
  | .ok (_, rule) => .success (((rule.form.optionsSchema.schema?).getD .null).pretty ++ "\n")
  | .error failure => .failed failure.message

/-- Lists the rules of a configuration. -/
def runListRules (config : Configuration) : Outcome :=
  match config.plugins with
  | some registry => .success (Listing.text registry)
  | none => .success ""

/-- The configuration file of a project. -/
def projectFile (project : Path) : Path := project.join ⟨"flatlint.toml"⟩

/-- What is said after a new configuration file has been written. -/
def nextSteps (file : Path) : String :=
  "Created " ++ file.text ++ "\n\nNext steps:\n"
    ++ "  1. Edit flatlint.toml to configure rules\n  2. Run: flatlint check\n"

/-- Writes a new configuration file, but over an existing one only if that is wanted. -/
def runInit (view : FileView) (project : Path) (force : Bool) (preset : Preset) : Action :=
  let file := projectFile project
  if view.leadsSomewhere file && !force then
    .finish (.failed ("Configuration file already exists at " ++ file.text
      ++ ". Use --force to overwrite."))
  else
    .write file preset.render (.success (nextSteps file))
      (.failed ("Failed to write " ++ file.text))

/-- Runs a command on a configuration that has to be loaded first. -/
def withConfiguration (view : FileView) (source : ConfigSource) (run : Configuration → Outcome) :
    Action :=
  match source.load view with
  | .ok config => .finish (run config)
  | .error failure => .finish (.failed failure.message)

end Command

namespace Invocation

/-- What an invocation does. -/
def run (engine : SchemaEngine) (view : FileView) (invocation : Invocation) : Action :=
  let source := ConfigSource.select view invocation
  match invocation.command with
  | .check format =>
    Command.withConfiguration view source fun config =>
      Command.runCheck engine source config format
  | .resolve id => Command.withConfiguration view source fun config => Command.runResolve config id
  | .schema id => Command.withConfiguration view source fun config => Command.runSchema config id
  | .listRules => Command.withConfiguration view source Command.runListRules
  | .init force preset => Command.runInit view invocation.project force preset

/-- The manifests that the selected configuration file names. -/
def manifestPaths (view : FileView) (invocation : Invocation) : List Path :=
  let source := ConfigSource.select view invocation
  match source.read view with
  | .ok file => file.plugins.values.map source.manifestDir.join
  | .error _ => []

/-- The paths that a run depends on, as far as the files in view tell. -/
def paths (view : FileView) (invocation : Invocation) : List Path :=
  invocation.config.toList ++ (ConfigSource.candidates invocation).filterMap ConfigSource.path?
    ++ [Command.projectFile invocation.project] ++ manifestPaths view invocation

end Invocation

/-- Runs a command line in a directory, with an engine to check options with. -/
def runCommandLineWith (engine : SchemaEngine) (t : FileTree) (env : Environment)
    (arguments : List String) : Outcome × FileTree :=
  match Invocation.parse? env arguments with
  | none => (.badArguments, t)
  | some invocation => t.perform (invocation.run engine t.view)

/-- Runs a command line in a directory. -/
def runCommandLine (t : FileTree) (env : Environment) (arguments : List String) :
    Outcome × FileTree :=
  runCommandLineWith .draft04 t env arguments

end LintConfig
