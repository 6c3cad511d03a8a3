import LintConfig.FileTree
import LintConfig.Preset

/-!
# Invocations

What a command line asks for, with everything that the environment adds to it.
-/

namespace LintConfig

/-- How the result of a check is written. -/
inductive ReportFormat where
  /-- For people. -/
  | text
  /-- For programs. -/
  | json
  deriving DecidableEq

namespace ReportFormat

/-- The name of a format. -/
def name : ReportFormat → String
  | text => "text"
  | json => "json"

/-- The format with a name. -/
def ofName? (s : String) : Option ReportFormat := [text, json].find? (fun f => f.name = s)

end ReportFormat

/-- What is to be done. -/
inductive Command where
  /-- Validate every configured rule. -/
  | check (format : ReportFormat)
  /-- Say which rule an identifier denotes. -/
  | resolve (id : String)
  /-- Print the options schema of a rule. -/
  | schema (id : String)
  /-- List the rules of every plugin. -/
  | listRules
  /-- Write a new configuration file. -/
  | init (force : Bool) (preset : Preset)
  deriving DecidableEq

/-- A command, and where to look for the configuration it works on. -/
structure Invocation where
  /-- The configuration file, if it is named. -/
  config : Option Path
  /-- The project directory. -/
  project : Path
  /-- The directory of the user's configuration, if there is one. -/
  globalDir : Option Path
  command : Command
  deriving DecidableEq

end LintConfig
