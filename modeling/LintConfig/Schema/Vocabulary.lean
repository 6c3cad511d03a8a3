import LintConfig.Schema.Draft

/-!
# Vocabularies

The later drafts sort most of their keywords into vocabularies, and a schema of such a draft asks
only for what the vocabularies that are in force know.  A keyword outside of all vocabularies is
known anyway.

**In force** are the vocabularies of the draft that a whole schema names for itself.  It may also
name a document that declares its own ones, which is what `Vocabulary.declared?` reads.
-/

namespace LintConfig

/-- A set of keywords that can be in force in the later drafts. -/
inductive Vocabulary where
  /-- Keywords that hold schemas. -/
  | applicator
  /-- Keywords that look at a value by itself. -/
  | validation
  deriving DecidableEq

namespace Vocabulary

/-- All vocabularies. -/
def all : List Vocabulary := [applicator, validation]

/-- The name of a vocabulary. -/
def name : Vocabulary → String
  | applicator => "applicator"
  | validation => "validation"

/-- The vocabulary with an address, in one of the drafts that have any. -/
def ofAddress? (address : String) : Option Vocabulary :=
  all.find? fun v =>
    Draft.all.any fun d => d.hasVocabularies && d.folder ++ "vocab/" ++ v.name = address

/-- The keywords of a vocabulary. -/
def keywords : Vocabulary → List String
  | applicator =>
    ["additionalProperties", "allOf", "anyOf", "contains", "dependentSchemas", "else", "if",
      "items", "not", "oneOf", "patternProperties", "prefixItems", "properties", "propertyNames",
      "then"]
  | validation =>
    ["const", "dependentRequired", "enum", "exclusiveMaximum", "exclusiveMinimum", "maxItems",
      "maxLength", "maxProperties", "maximum", "minItems", "minLength", "minProperties", "minimum",
      "multipleOf", "pattern", "required", "type", "uniqueItems"]

/-- The vocabulary that a keyword belongs to. -/
def ofKeyword? (keyword : String) : Option Vocabulary :=
  all.find? fun v => v.keywords.contains keyword

/-- The vocabularies among those that a document declares.  There are none to be read if one of its
addresses is malformed. -/
def ofAddresses? (home : Uri) (addresses : List String) : Option (List Vocabulary) :=
  if addresses.all fun text => (ofAddress? text).isSome || (home.resolve? text).isSome then
    some (addresses.filterMap ofAddress?)
  else none

/-- The vocabularies that a document declares to be in force, if it declares any.  Addresses are
relative to the given one. -/
def declared? (home : Uri) (document : Json) : Option (List Vocabulary) :=
  match document.member? "$vocabulary" with
  | some (.obj members) =>
    ofAddresses? home <| members.filterMap fun (address, v) =>
      match v with
      | .bool true => some address
      | _ => none
  | _ => none

end Vocabulary

/-- The vocabularies of a draft. -/
def Draft.vocabularies (d : Draft) : List Vocabulary :=
  if d.hasVocabularies then Vocabulary.all else []

end LintConfig
