import LintConfig.Builtin
import LintConfig.Command.Invocation
import LintConfig.ConfigFile.Loading

/-!
# Where the configuration comes from

A command works on one configuration file.  If it is named, it is that one, whether it exists or
not; otherwise it is the first candidate that is a regular file: two names in the project directory,
then one in the directory of the user's configuration.  Without any there are only the built-in
rules.

A file that was selected and cannot be loaded is a failure.  No other candidate stands in for it.
-/

namespace LintConfig

/-- The configuration that a command works on. -/
inductive ConfigSource where
  /-- A file that was named. -/
  | explicit (path : Path)
  /-- A file in the project directory. -/
  | project (path : Path)
  /-- The file in the directory of the user's configuration. -/
  | global (path : Path)
  /-- No file. -/
  | builtinOnly (project : Path)
  deriving DecidableEq

namespace ConfigSource

/-- The names of configuration files in a project, the first one preferred. -/
def projectNames : List Path := [⟨"flatlint.toml"⟩, ⟨".flatlint.toml"⟩]

/-- The name of the user's configuration file. -/
def globalName : Path := ⟨"config.toml"⟩

/-- The file, if there is one. -/
def path? : ConfigSource → Option Path
  | explicit p | project p | global p => some p
  | builtinOnly _ => none

/-- The directory that manifest paths are seen from: that of the configuration file. -/
def manifestDir (source : ConfigSource) : Path :=
  match source with
  | builtinOnly dir => dir
  | explicit p | project p | global p => p.directory

/-- How the source is named in messages. -/
def label : ConfigSource → String
  | explicit p | project p => p.text
  | global p => p.text ++ " (global)"
  | builtinOnly _ => "<built-in rules only>"

/-- The files that are looked for if none is named, the first one preferred. -/
def candidates (invocation : Invocation) : List ConfigSource :=
  (projectNames.map fun name => project (invocation.project.join name))
    ++ (invocation.globalDir.toList.map fun dir => global (dir.join globalName))

/-- Whether the file of a source is a regular file. -/
def isPresent (view : FileView) (source : ConfigSource) : Bool :=
  match source.path? with
  | some p => view.isFile p
  | none => false

/-- The source that is used. -/
def select (view : FileView) (invocation : Invocation) : ConfigSource :=
  match invocation.config with
  | some p => explicit p
  | none =>
    ((candidates invocation).find? (isPresent view)).getD (builtinOnly invocation.project)

/-- The configuration file of a source; without a file it is empty. -/
def read (view : FileView) (source : ConfigSource) : Except ConfigError ConfigFile :=
  match source.path? with
  | some p => ConfigFile.read view p
  | none => .ok {}

end ConfigSource

/-- Why there is no configuration to work on. -/
inductive LoadFailure where
  /-- The configuration file cannot be read. -/
  | file (source : ConfigSource) (cause : ConfigError)
  /-- A plugin or a rule entry of it cannot be used. -/
  | content (source : ConfigSource) (cause : ConfigError)

/-- The message of a failure. -/
def LoadFailure.message : LoadFailure → String
  | file source _ => "Failed to load config: " ++ source.label
  | content source _ => "Failed to load plugins for " ++ source.label

/-- The configuration of a source, with the built-in plugin registered. -/
def ConfigSource.load (view : FileView) (source : ConfigSource) :
    Except LoadFailure Configuration :=
  match source.read view with
  | .error cause => .error (.file source cause)
  | .ok file =>
    let (builtins, next) := builtin.build 0
    match file.load view source.manifestDir builtins next with
    | .error cause => .error (.content source cause)
    | .ok config => .ok config

end LintConfig
