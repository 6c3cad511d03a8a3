import LintConfig.Json
import LintConfig.Uri.Resolution

/-!
# Drafts of the schema language

Schemas are read by the rules of a draft.  The schemas of options are of draft 4 whatever they say
of themselves; a schema inside of another one can name a later draft for itself.

**Identifiers.**  A schema can have an identifier, which is relative to the one around it.  One that
begins with the mark of a fragment makes the schema an anchor instead.
-/

namespace LintConfig

/-- The drafts of the schema language. -/
inductive Draft where
  | draft04
  | draft06
  | draft07
  | draft2019
  | draft2020
  deriving DecidableEq

namespace Draft

/-- The drafts in the order of their age. -/
def all : List Draft := [draft04, draft06, draft07, draft2019, draft2020]

/-- What the addresses of all documents of a draft begin with. -/
def folder : Draft → String
  | draft04 => "http://json-schema.org/draft-04/"
  | draft06 => "http://json-schema.org/draft-06/"
  | draft07 => "http://json-schema.org/draft-07/"
  | draft2019 => "https://json-schema.org/draft/2019-09/"
  | draft2020 => "https://json-schema.org/draft/2020-12/"

/-- The address of the schema of all schemas of a draft. -/
def address (d : Draft) : String := d.folder ++ "schema"

/-- Whether a text is an address in the folder of a draft. -/
def isStandard (text : String) : Bool :=
  all.any fun d => d.folder.toList.isPrefixOf text.toList

/-- Whether the keywords of a draft come in vocabularies, so that a schema of the draft is only
understood where its vocabularies are in force. -/
def hasVocabularies : Draft → Bool
  | draft04 | draft06 | draft07 => false
  | draft2019 | draft2020 => true

/-- Whether a keyword may ask for something in a draft.  Formats are annotations in the last two. -/
def hasKeyword (d : Draft) (keyword : String) : Bool :=
  match keyword with
  | "exclusiveMinimum" | "exclusiveMaximum" | "const" | "contains" | "propertyNames" =>
    d ≠ draft04
  | "if" | "then" | "else" => d ≠ draft04 && d ≠ draft06
  | "contentEncoding" | "contentMediaType" => d = draft06 || d = draft07
  | "dependentRequired" | "dependentSchemas" => d.hasVocabularies
  | "prefixItems" => d = draft2020
  | "format" => !d.hasVocabularies
  | "$recursiveRef" => d = draft2019
  | "$dynamicRef" => d = draft2020
  | _ => true

/-- The keyword that holds the identifier of a schema. -/
def identifierKeyword : Draft → String
  | draft04 => "id"
  | _ => "$id"

/-- A text without the marks of a fragment at its end. -/
def withoutFinalMarks (text : String) : String :=
  String.ofList (text.toList.reverse.dropWhile (· = '#')).reverse

/-- The draft that a schema names for itself. -/
def named? (schema : Json) : Option Draft :=
  match schema.member? "$schema" with
  | some (.str text) => all.find? fun d => d.address = withoutFinalMarks text
  | _ => none

/-- The draft of a schema inside of another one: the one it names for itself.  A name that is none
of a draft stands for the last one. -/
def ofSchema (surrounding : Draft) (schema : Json) : Draft :=
  match schema.member? "$schema" with
  | some (.str _) => (named? schema).getD draft2020
  | _ => surrounding

/-- The text that identifies a schema, as it is written. -/
def written? (d : Draft) (schema : Json) : Option String :=
  match schema.member? d.identifierKeyword with
  | some (.str text) => some text
  | _ => none

/-- The identifier of a schema.  In the older drafts a reference has none, since it stands for the
whole object. -/
def identifier? (d : Draft) (schema : Json) : Option String :=
  if !d.hasVocabularies && (schema.member? "$ref").isSome then none
  else
    (d.written? schema).bind fun text =>
      if text.toList.head? = some '#' then none else some (withoutFinalMarks text)

/-- The name by which a schema is an anchor. -/
def anchor? (d : Draft) (schema : Json) : Option String :=
  (d.written? schema).bind fun text =>
    match text.toList with
    | '#' :: name => some (String.ofList name)
    | _ => none

/-- What references in a schema are relative to, given what they are relative to around it.  There
is nothing if the identifier of the schema is malformed. -/
def home? (d : Draft) (surrounding : Uri) (schema : Json) : Option Uri :=
  match d.identifier? schema with
  | some text => surrounding.resolve? text
  | none => some surrounding

end Draft

end LintConfig
