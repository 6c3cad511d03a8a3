import LintConfig.Schema.MetaSchema.Parts

/-!
# The schemas of schemas of drafts 2019-09 and 2020-12

These drafts describe their schemas in several documents, one for each vocabulary, and in one that
joins them.  Where a schema holds another one, the documents refer to the whole by a reference of
its own kind, so that the vocabularies apply together at every depth.
-/

namespace LintConfig

namespace MetaSchema

/-- How the documents of a draft refer to the whole. -/
structure Whole where
  /-- What the addresses of the documents begin with. -/
  folder : String
  /-- The schema that refers to the whole. -/
  recursion : Json
  /-- The member that makes a document a part of the whole. -/
  membership : String × Json

/-- The whole of draft 2019-09. -/
def whole2019 : Whole where
  folder := "https://json-schema.org/draft/2019-09/"
  recursion := .object [("$recursiveRef", "#")]
  membership := ("$recursiveAnchor", true)

/-- The whole of draft 2020-12. -/
def whole2020 : Whole where
  folder := "https://json-schema.org/draft/2020-12/"
  recursion := .object [("$dynamicRef", "#meta")]
  membership := ("$dynamicAnchor", "meta")

namespace Whole

/-- A document of a draft. -/
def document (w : Whole) (path : String) (members : List (String × Json)) : Json :=
  .object <| ("$schema", w.folder ++ "schema") :: ("$id", w.folder ++ path) :: w.membership
    :: ("type", schemaType) :: members

/-- The declaration of vocabularies by their names, each with whether it has to be known. -/
def declaration (w : Whole) (vocabularies : List (String × Bool)) : String × Json :=
  ("$vocabulary", .object <| vocabularies.map fun (name, needed) =>
    (w.folder ++ "vocab/" ++ name, .bool needed))

/-- A document for a vocabulary. -/
def vocabulary (w : Whole) (name : String) (properties : List (String × Json))
    (definitions : List (String × Json)) : Json :=
  w.document ("meta/" ++ name) <| w.declaration [(name, true)]
    :: ("properties", .object properties)
    :: if definitions.isEmpty then [] else [("$defs", .object definitions)]

/-- Keywords that hold a schema, an array of schemas or an object of schemas. -/
def applicators (w : Whole) : List (String × Json) :=
  membersAs w.recursion
    ["contains", "additionalProperties", "propertyNames", "if", "then", "else", "not"]
  ++ membersAs (reference "#/$defs/schemaArray") ["allOf", "anyOf", "oneOf"]
  ++ [("properties", membersOf w.recursion), ("patternProperties", patternsOf w.recursion),
    ("dependentSchemas", membersOf w.recursion)]

/-- The definitions of the document with the applicators. -/
def applicatorDefinitions (w : Whole) : List (String × Json) :=
  [("schemaArray", someOf w.recursion)]

/-- What values are compared with. -/
def validation (w : Whole) : Json :=
  w.vocabulary "validation"
    (numberMembers ["maximum", "exclusiveMaximum", "minimum", "exclusiveMinimum"]
    ++ membersAs (reference "#/$defs/nonNegativeInteger")
      ["maxLength", "maxItems", "maxContains", "maxProperties"]
    ++ membersAs (reference "#/$defs/nonNegativeIntegerDefault0")
      ["minLength", "minItems", "minProperties"]
    ++ [("type", either (reference "#/$defs/simpleTypes")
        (distinctOf (reference "#/$defs/simpleTypes"))),
      ("const", true),
      ("enum", .object [("type", "array"), ("items", true)]),
      ("multipleOf", .object [("type", "number"), ("exclusiveMinimum", 0)]),
      ("pattern", ofFormat "regex"),
      ("uniqueItems", mark),
      ("minContains", .object [("$ref", "#/$defs/nonNegativeInteger"), ("default", 1)]),
      ("required", reference "#/$defs/stringArray"),
      ("dependentRequired", .object [("type", "object"),
        ("additionalProperties", reference "#/$defs/stringArray")])])
    [("nonNegativeInteger", natural),
      ("nonNegativeIntegerDefault0", .object [
        ("$ref", "#/$defs/nonNegativeInteger"), ("default", 0)]),
      ("simpleTypes", typeName),
      ("stringArray", distinctNames)]

/-- What schemas say of themselves. -/
def metaData (w : Whole) : Json :=
  w.vocabulary "meta-data"
    (membersAs (ofType "string") ["title", "description"]
    ++ membersAs mark ["deprecated", "readOnly", "writeOnly"]
    ++ [("default", Json.bool true), ("examples", .object [("type", "array"), ("items", true)])]) []

/-- What strings hold. -/
def content (w : Whole) : Json :=
  w.vocabulary "content"
    (membersAs (ofType "string") ["contentMediaType", "contentEncoding"]
    ++ [("contentSchema", w.recursion)]) []

/-- Keywords of older drafts, which are still described. -/
def olderKeywords (w : Whole) : List (String × Json) :=
  [("definitions", membersOf w.recursion),
    ("dependencies", .object [("type", "object"), ("additionalProperties",
      either w.recursion (reference "meta/validation#/$defs/stringArray"))])]

/-- The document that joins vocabularies, each with whether it has to be known. -/
def joined (w : Whole) (vocabularies : List (String × Bool)) (properties : List (String × Json)) :
    Json :=
  w.document "schema" [
    w.declaration vocabularies,
    ("allOf", .arr (vocabularies.map fun (name, _) => reference ("meta/" ++ name))),
    ("properties", .object properties)]

end Whole

/-! ## Draft 2019-09 -/

/-- A string of a format that has at most one mark of a fragment, at its end. -/
def identifierPattern : Json := "^[^#]*#?$"

/-- The core of draft 2019-09. -/
def core2019 : Json :=
  whole2019.vocabulary "core" (
    membersAs (ofFormat "uri-reference") ["$ref", "$recursiveRef"]
    ++ [("$id", .object [("type", "string"), ("format", "uri-reference"),
        ("pattern", identifierPattern)]),
      ("$schema", ofFormat "uri"),
      ("$anchor", .object [("type", "string"), ("pattern", "^[A-Za-z][-A-Za-z0-9.:_]*$")]),
      ("$recursiveAnchor", mark),
      ("$vocabulary", .object [("type", "object"), ("propertyNames", ofFormat "uri"),
        ("additionalProperties", ofType "boolean")]),
      ("$comment", ofType "string"),
      ("$defs", membersOf whole2019.recursion)]) []

/-- The applicators of draft 2019-09. -/
def applicator2019 : Json :=
  whole2019.vocabulary "applicator"
    (whole2019.applicators
    ++ membersAs whole2019.recursion
      ["additionalItems", "unevaluatedItems", "unevaluatedProperties"]
    ++ [("items", either whole2019.recursion (reference "#/$defs/schemaArray"))])
    whole2019.applicatorDefinitions

/-- The documents of draft 2019-09. -/
def documents2019 : List Json := [
  whole2019.joined [("core", true), ("applicator", true), ("validation", true),
      ("meta-data", true), ("format", false), ("content", true)]
    whole2019.olderKeywords,
  core2019, applicator2019, whole2019.validation, whole2019.metaData,
  whole2019.vocabulary "format" [("format", ofType "string")] [], whole2019.content]

/-! ## Draft 2020-12 -/

/-- The core of draft 2020-12. -/
def core2020 : Json :=
  whole2020.vocabulary "core"
    (membersAs (reference "#/$defs/uriReferenceString") ["$ref", "$dynamicRef"]
    ++ membersAs (reference "#/$defs/anchorString") ["$anchor", "$dynamicAnchor"]
    ++ [("$id", .object [("$ref", "#/$defs/uriReferenceString"), ("pattern", identifierPattern)]),
      ("$schema", reference "#/$defs/uriString"),
      ("$vocabulary", .object [("type", "object"),
        ("propertyNames", reference "#/$defs/uriString"),
        ("additionalProperties", ofType "boolean")]),
      ("$comment", ofType "string"),
      ("$defs", .object [("type", "object"), ("additionalProperties", whole2020.recursion)])])
    [("anchorString", .object [("type", "string"), ("pattern", "^[A-Za-z_][-A-Za-z0-9._]*$")]),
      ("uriString", ofFormat "uri"),
      ("uriReferenceString", ofFormat "uri-reference")]

/-- The applicators of draft 2020-12. -/
def applicator2020 : Json :=
  whole2020.vocabulary "applicator"
    (whole2020.applicators
    ++ [("prefixItems", reference "#/$defs/schemaArray"), ("items", whole2020.recursion)])
    whole2020.applicatorDefinitions

/-- The keywords that depend on what others have looked at. -/
def unevaluated2020 : Json :=
  whole2020.vocabulary "unevaluated"
    (membersAs whole2020.recursion ["unevaluatedItems", "unevaluatedProperties"]) []

/-- The documents of draft 2020-12. -/
def documents2020 : List Json := [
  whole2020.joined [("core", true), ("applicator", true), ("unevaluated", true),
      ("validation", true), ("meta-data", true), ("format-annotation", true), ("content", true)]
    (whole2020.olderKeywords ++ [
      ("$recursiveAnchor", reference "meta/core#/$defs/anchorString"),
      ("$recursiveRef", reference "meta/core#/$defs/uriReferenceString")]),
  core2020, applicator2020, unevaluated2020, whole2020.validation, whole2020.metaData,
  whole2020.vocabulary "format-annotation" [("format", ofType "string")] [],
  whole2020.vocabulary "format-assertion" [("format", ofType "string")] [],
  whole2020.content]

end MetaSchema

end LintConfig
