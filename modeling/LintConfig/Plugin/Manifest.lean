import LintConfig.Plugin
import LintConfig.Json.Document

/-!
# Plugin manifests

A manifest is a JSON text that declares a plugin.

**Records.**  Plugins, their information, rule objects, information blocks and documentation blocks
are records: each is written as an object or, by position, as an array.  Members that a record does
not have are ignored; in the two outer records they are not even interpreted.  A member that it has
may stand only once.  `Record.byName?` and `Record.byPosition?` are the two readings.

**Absence.**  Where a value is optional, null is the same as leaving it out.

**Two failures.**  The shape of the whole manifest is checked before the names of its rules, so
`ManifestError.emptyRuleName` is only reported of a manifest that is otherwise well formed.
-/

namespace LintConfig

/-- Why a manifest is not read. -/
inductive ManifestError where
  /-- It is not JSON, or not of the shape of a manifest. -/
  | malformed
  /-- A rule has the empty string as its name. -/
  | emptyRuleName
  deriving DecidableEq

/-- The text of a failure that has one of its own. -/
def ManifestError.message : ManifestError → String
  | malformed => "invalid plugin manifest"
  | emptyRuleName => "plugin declares a rule with an empty name"

/-! ## Records -/

namespace Record

/-- The members of a record that is written as an object: those with the names of the record, if
none of them is repeated. -/
def byName? {α : Type} (names : List String) (members : List (String × α)) :
    Option (List (String × α)) :=
  let known := members.filter fun m => names.contains m.1
  if (known.map Prod.fst).Nodup then some known else none

/-- The members of a record that is written as an array: as many of them, in the order of their
names, as there are items. -/
def byPosition? {α : Type} (names : List String) (items : List α) : Option (List (String × α)) :=
  if items.length ≤ names.length then some (names.zip items) else none

/-- The members of a record in either form. -/
def ofJson? (names : List String) : Json → Option (List (String × Json))
  | .obj members => byName? names members
  | .arr items => byPosition? names items
  | _ => none

/-- The names and documents of the members of an object; the documents are not interpreted. -/
def namedDocuments? : List (List TextUnit × Document) → Option (List (String × Document))
  | [] => some []
  | (units, d) :: rest =>
    match Document.string? units, namedDocuments? rest with
    | some name, some found => some ((name, d) :: found)
    | _, _ => none

/-- The members of a record in either form, not yet interpreted. -/
def ofDocument? (names : List String) : Document → Option (List (String × Document))
  | .obj members => (namedDocuments? members).bind (byName? names)
  | .arr items => byPosition? names items
  | _ => none

/-- The value of a member that has a default. -/
def field? {α β : Type} (members : List (String × α)) (name : String) (default : β)
    (read : α → Option β) : Option β :=
  match members.lookup name with
  | none => some default
  | some v => read v

/-- The value of an optional member: absent if it is left out or null. -/
def optional? {β : Type} (members : List (String × Json)) (name : String)
    (read : Json → Option β) : Option (Option β) :=
  field? members name none fun
    | .null => some none
    | v => (read v).map some

end Record

/-! ## Rules -/

namespace Manifest

/-- A boolean. -/
def bool? : Json → Option Bool
  | .bool b => some b
  | _ => none

/-- A string. -/
def string? : Json → Option String
  | .str s => some s
  | _ => none

/-- A list of strings. -/
def strings? : Json → Option (List String)
  | .arr items => items.mapM string?
  | _ => none

/-- A documentation block. -/
def docs? (v : Json) : Option RuleDocs := do
  let members ← Record.ofJson? ["description"] v
  let description ← Record.optional? members "description" string?
  return { description }

/-- An information block. -/
def info? (v : Json) : Option RuleMeta := do
  let members ← Record.ofJson? ["schema", "deprecated", "replacedBy", "docs"] v
  let schema ← Record.optional? members "schema" some
  let deprecated ← Record.field? members "deprecated" false bool?
  let replacedBy ← Record.field? members "replacedBy" [] strings?
  let docs ← Record.optional? members "docs" docs?
  return { schema := schema.map Json.sort, deprecated, replacedBy, docs }

/-- A rule object. -/
def declaration? (v : Json) : Option RuleDeclaration := do
  let members ← Record.ofJson? ["create", "schema", "meta"] v
  let create ← Record.field? members "create" false bool?
  let schema ← Record.optional? members "schema" some
  let info ← Record.optional? members "meta" info?
  return { create, schema := schema.map Json.sort, info }

/-- Whether a value marks a rule in function form: the word itself, or an object with the word as
its only key and null as the value. -/
def isFunction : Json → Bool
  | .str s => s = "function"
  | .obj [(k, .null)] => k = "function"
  | _ => false

/-- A rule in either form. -/
def rule? (v : Json) : Option RuleForm :=
  if isFunction v then some .function else (declaration? v).map .object

/-! ## Plugins -/

/-- How many levels a manifest opens around the value of a rule. -/
def ruleLevel : Nat := 2

/-- The rules of a plugin, each name with its reading, in the order of the text. -/
def rules? : Document → Option (List (String × RuleForm))
  | .obj members => do
    let named ← Record.namedDocuments? members
    named.mapM fun (name, d) =>
      (d.toJson? (Document.nestingLimit - ruleLevel)).bind fun v => (rule? v).map (name, ·)
  | _ => none

/-- What a plugin says about itself; null is the same as nothing. -/
def pluginInfo? : Document → Option (Option PluginMeta)
  | .null => some none
  | d => do
    let members ← Record.ofDocument? ["name", "version"] d
    let text (d : Document) : Option (Option String) :=
      match d with
      | .null => some none
      | .str units => (Document.string? units).map some
      | _ => none
    let name ← Record.field? members "name" none text
    let version ← Record.field? members "version" none text
    return some { name, version }

/-- The information and the rules of a document of the shape of a manifest. -/
def shape? (d : Document) : Option (Option PluginMeta × List (String × RuleForm)) := do
  let members ← Record.ofDocument? ["meta", "rules"] d
  let info ← Record.field? members "meta" none pluginInfo?
  let rules ← Record.field? members "rules" [] rules?
  return (info, rules)

/-- The plugin that a manifest declares.  Of rules with the same name the last one is meant, at the
place of the first. -/
def parse (text : String) : Except ManifestError PluginDeclaration :=
  match (Document.read? text).bind shape? with
  | none => .error .malformed
  | some (info, rules) =>
    if rules.any fun r => r.1 = "" then .error .emptyRuleName
    else .ok { info, rules := .ofList rules }

end Manifest

end LintConfig
