import LintConfig.Configuration
import LintConfig.Json.Printer
import LintConfig.Path
import LintConfig.Plugin.Manifest
import LintConfig.Toml.Document

/-!
# Configuration files

A configuration file is a TOML document with two tables: `plugins` gives a manifest path for each
plugin name, `rules` gives an entry for each rule identifier.

**Entries.**  The entry of a rule is a severity, or an array that begins with one.
`ConfigFile.normalize` brings both to the form in which entries are validated: a list with the level
of the severity at its head.

**Order.**  Both tables keep the order of the file, so the first fault of a file is the one that is
reported.
-/

namespace LintConfig

/-- Why a configuration cannot be loaded. -/
inductive ConfigError where
  /-- A file cannot be read as text. -/
  | unreadable (path : Path)
  /-- The file is not TOML, or not of the shape of a configuration file. -/
  | malformed
  /-- A manifest does not declare a plugin. -/
  | badManifest (path : Path) (cause : ManifestError)
  /-- A plugin has a name that no plugin may have. -/
  | reservedName (name : String)
  /-- The entry of a rule is an empty array. -/
  | missingSeverity (id : String)
  /-- The head of the entry of a rule is no severity. -/
  | invalidSeverity (id : String) (head : Json)

/-- The message, where it depends on nothing but the configuration. -/
def ConfigError.message? : ConfigError → Option String
  | unreadable _ | malformed | badManifest _ _ => none
  | reservedName name => some ("Plugin name \"" ++ name ++ "\" is reserved")
  | missingSeverity id =>
    some ("Key \"rules\": Key \"" ++ id ++ "\": expected a severity")
  | invalidSeverity id head =>
    some ("Key \"rules\": Key \"" ++ id ++ "\": expected severity \"off\", \"warn\", \"error\", "
      ++ "0, 1 or 2 but got " ++ head.text)

/-- A configuration file as read: manifest paths by plugin name, and rule entries as written. -/
structure ConfigFile where
  plugins : OrderedMap String Path := ∅
  rules : OrderedMap String Toml.Value := ∅

namespace ConfigFile

/-! ## Reading -/

/-- The entries of a table.  A date-time counts as the table that marks it. -/
def entries? : Toml.Value → Option (List (String × Toml.Value))
  | .table entries => some entries
  | .dateTime d => some [(Toml.dateTimeKey, .string d.text)]
  | _ => none

/-- The entries of the table under a key; there are none if the key is missing. -/
def tableOf? (document : List (String × Toml.Value)) (key : String) :
    Option (List (String × Toml.Value)) :=
  match document.lookup key with
  | some v => entries? v
  | none => some []

/-- A manifest path. -/
def path? : Toml.Value → Option Path
  | .string s => some ⟨s⟩
  | _ => none

/-- Reads a configuration file. -/
def parse? (text : String) : Option ConfigFile := do
  let document ← Toml.parse? text
  let plugins ← (← tableOf? document "plugins").mapM fun (name, v) => (path? v).map (name, ·)
  let rules ← (← tableOf? document "rules").mapM fun (id, v) => v.settle?.map (id, ·)
  return { plugins := .ofList plugins, rules := .ofList rules }

/-! ## Rule entries -/

/-- The entry with a severity in place of its head. -/
def withSeverity (id : String) (head : Json) (options : List Json) :
    Except ConfigError RuleEntry :=
  match Severity.ofJson? head with
  | some severity => .ok (severity.toJson :: options)
  | none => .error (.invalidSeverity id head)

/-- The entry that a value stands for. -/
def normalize (id : String) : Json → Except ConfigError RuleEntry
  | .arr [] => .error (.missingSeverity id)
  | .arr (head :: options) => withSeverity id head options
  | head => withSeverity id head []

/-- The entries that the values of a list stand for, up to the first that stands for none. -/
def normalizeAll : List (String × Toml.Value) → Except ConfigError (List (String × RuleEntry))
  | [] => .ok []
  | (id, v) :: rest =>
    match normalize id v.toJson with
    | .error error => .error error
    | .ok entry =>
      match normalizeAll rest with
      | .error error => .error error
      | .ok entries => .ok ((id, entry) :: entries)

/-- The entries of all rules. -/
def ruleEntries (file : ConfigFile) : Except ConfigError (OrderedMap String RuleEntry) :=
  (normalizeAll file.rules.entries).map OrderedMap.ofList

end ConfigFile

end LintConfig
