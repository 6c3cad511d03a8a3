import LintConfig.Command.Invocation

/-!
# Command lines

A command line has two levels: what stands before the name of the command, and what stands after
it.  Some options may stand on both levels; the value after the command is the one that counts.

**Options** have a long name, and some a short one.  A value follows its option as the next word, or
in the same word after an equals sign; a short option may have it attached directly, and short
options without values may share a word.  A value in a word of its own does not begin with a dash,
unless it is a dash.  On one level an option stands once.

**Words.**  After two dashes every word stands for itself.

Anything else is no command line, and `Invocation.parse?` fails.
-/

namespace LintConfig

/-- The variables that are set, with their values. -/
abbrev Environment := String → Option String

/-- An option of a command line. -/
structure OptionSpec where
  long : String
  short : Option Char
  takesValue : Bool
  deriving DecidableEq

/-- What stands on one level of a command line. -/
structure CommandLevel where
  /-- The options by their long names, with their values. -/
  options : List (String × String) := []
  /-- The words that belong to no option. -/
  words : List String := []
  /-- The command that ends the level, and what follows it. -/
  command : Option (String × List String) := none

namespace CommandLevel

/-- The level with more options in front. -/
def withOptions (options : List (String × String)) (level : CommandLevel) : CommandLevel :=
  { level with options := options ++ level.options }

/-- The level with one more word in front. -/
def withWord (word : String) (level : CommandLevel) : CommandLevel :=
  { level with words := word :: level.words }

/-- The value of an option. -/
def value? (level : CommandLevel) (name : String) : Option String := level.options.lookup name

/-- Whether no option stands twice. -/
def isConsistent (level : CommandLevel) : Bool := (level.options.map Prod.fst).Nodup

end CommandLevel

/-- What a word says about options. -/
inductive OptionWord where
  /-- Nothing: it is a word like others. -/
  | plain
  /-- It holds options with their values, and maybe one whose value is the next word. -/
  | options (complete : List (String × String)) (pending : Option String)
  /-- It looks like options, but is none. -/
  | invalid

namespace OptionWord

/-- A word that begins with two dashes. -/
def ofLong (specs : List OptionSpec) (cs : List Char) : OptionWord :=
  let name := String.ofList (cs.takeWhile (· ≠ '='))
  match specs.find? (fun s => s.long = name), cs.dropWhile (· ≠ '=') with
  | none, _ => invalid
  | some spec, [] => if spec.takesValue then options [] (some name) else options [(name, "")] none
  | some spec, _ :: value =>
    if spec.takesValue then options [(name, String.ofList value)] none else invalid

/-- A word that begins with one dash. -/
def ofShort (specs : List OptionSpec) : List Char → List (String × String) → OptionWord
  | [], complete => options complete none
  | c :: rest, complete =>
    match specs.find? (fun s => s.short = some c) with
    | none => invalid
    | some spec =>
      if spec.takesValue then
        match rest with
        | [] => options complete (some spec.long)
        | '=' :: value => options (complete ++ [(spec.long, String.ofList value)]) none
        | value => options (complete ++ [(spec.long, String.ofList value)]) none
      else ofShort specs rest (complete ++ [(spec.long, "")])

/-- What a word says about the options of a level. -/
def read (specs : List OptionSpec) (word : String) : OptionWord :=
  match word.toList with
  | '-' :: '-' :: rest => ofLong specs rest
  | ['-'] => plain
  | '-' :: rest => ofShort specs rest []
  | _ => plain

end OptionWord

/-- Whether a word may be the value of the option before it. -/
def isValue (word : String) : Bool := word = "-" || word.toList.head? ≠ some '-'

/-- Reads a level of a command line, up to the first command. -/
def CommandLevel.read? (specs : List OptionSpec) (commands : List String) :
    List String → Option CommandLevel
  | [] => some {}
  | word :: rest =>
    if commands.contains word then some { command := some (word, rest) }
    else if word = "--" then some { words := rest }
    else
      match OptionWord.read specs word with
      | .plain => (read? specs commands rest).map (withWord word)
      | .invalid => none
      | .options complete none =>
        (read? specs commands rest).map (withOptions complete)
      | .options complete (some name) =>
        match rest with
        | [] => none
        | value :: rest =>
          if isValue value then
            (read? specs commands rest).map (withOptions (complete ++ [(name, value)]))
          else none

namespace Invocation

/-- The options that may stand on both levels. -/
def sharedOptions : List OptionSpec := [
  ⟨"verbose", some 'v', false⟩, ⟨"config", some 'c', true⟩, ⟨"project", some 'p', true⟩]

/-- The names of the commands. -/
def commandNames : List String := ["check", "resolve", "schema", "list-rules", "init"]

/-- The further options of a command. -/
def ownOptions (command : String) : List OptionSpec :=
  if command = "check" then [⟨"format", some 'f', true⟩]
  else if command = "init" then [⟨"force", none, false⟩, ⟨"preset", none, true⟩]
  else []

/-- The value that an option stands for, or a default if the option is missing. -/
def valueOr {α : Type} (level : CommandLevel) (name : String) (read : String → Option α)
    (default : α) : Option α :=
  match level.value? name with
  | none => some default
  | some value => read value

/-- The command of a name, with the level after it. -/
def command? (name : String) (level : CommandLevel) : Option Command :=
  match name, level.words with
  | "check", [] => (valueOr level "format" ReportFormat.ofName? .text).map .check
  | "resolve", [id] => some (.resolve id)
  | "schema", [id] => some (.schema id)
  | "list-rules", [] => some .listRules
  | "init", [] =>
    (valueOr level "preset" Preset.ofName? .recommended).map
      (.init (level.value? "force").isSome)
  | _, _ => none

/-- A path, which is not empty. -/
def path? (text : String) : Option Path := if text = "" then none else some ⟨text⟩

/-- The path that an option names; the level after the command counts first.  `none` stands for a
path that is malformed on one of the levels. -/
def pathOption? (before after : CommandLevel) (name : String) : Option (Option Path) := do
  let outer ← (before.value? name).mapM path?
  let inner ← (after.value? name).mapM path?
  return inner <|> outer

/-- The variable that names a configuration file. -/
def configVariable : String := "FLATLINT_CONFIG"

/-- The variable that names the directory of the user's configuration. -/
def globalDirVariable : String := "FLATLINT_CONFIG_DIR"

/-- The configuration file that the environment names.  It has to be a path on every level that
names none itself. -/
def configFromEnvironment? (env : Environment) (before after : CommandLevel) :
    Option (Option Path) :=
  match env configVariable with
  | none => some none
  | some text =>
    if (before.value? "config").isSome ∧ (after.value? "config").isSome then some none
    else (path? text).map some

/-- The directory of the user's configuration. -/
def globalDir? (env : Environment) : Option Path :=
  match env globalDirVariable with
  | some dir => some ⟨dir⟩
  | none => (env "HOME").map fun home => (Path.mk home).join ⟨".flatlint"⟩

/-- The invocation that a command line and its environment stand for. -/
def parse? (env : Environment) (arguments : List String) : Option Invocation := do
  let before ← CommandLevel.read? sharedOptions commandNames arguments
  let (name, rest) ← before.command
  let after ← CommandLevel.read? (sharedOptions ++ ownOptions name) [] rest
  if before.words = [] ∧ before.isConsistent ∧ after.isConsistent then
    let command ← command? name after
    let config ← pathOption? before after "config"
    let fallback ← configFromEnvironment? env before after
    let project ← pathOption? before after "project"
    return {
      config := config <|> fallback
      project := project.getD ⟨"."⟩
      globalDir := globalDir? env
      command }
  else none

end Invocation

end LintConfig
