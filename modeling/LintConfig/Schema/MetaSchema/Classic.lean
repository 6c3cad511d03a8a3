import LintConfig.Schema.MetaSchema.Parts

/-!
# The schemas of schemas of drafts 4, 6 and 7

Each of these drafts describes its schemas in one document.
-/

namespace LintConfig

namespace MetaSchema

/-! ## Draft 4 -/

/-- Everything that draft 4 defines by name. -/
def definitions04 : Json := .object [
  ("schemaArray", someOf (reference "#")),
  ("positiveInteger", natural),
  ("positiveIntegerDefault0", .object [
    ("allOf", .arr [reference "#/definitions/positiveInteger", .obj [("default", 0)]])]),
  ("simpleTypes", typeName),
  ("stringArray", distinctOf (ofType "string"))]

/-- What each keyword of draft 4 may hold. -/
def properties04 : Json := .object <|
  membersAs (ofType "string") ["id", "$schema", "title", "description", "format"]
  ++ numberMembers ["maximum", "minimum"]
  ++ membersAs (ofType "boolean") ["exclusiveMaximum", "exclusiveMinimum"]
  ++ membersAs (reference "#/definitions/positiveInteger")
    ["maxLength", "maxItems", "maxProperties"]
  ++ membersAs (reference "#/definitions/positiveIntegerDefault0")
    ["minLength", "minItems", "minProperties"]
  ++ membersAs (.object [
      ("anyOf", .arr [ofType "boolean", reference "#"]), ("default", .obj [])])
    ["additionalItems", "additionalProperties"]
  ++ membersAs (membersOf (reference "#")) ["definitions", "properties", "patternProperties"]
  ++ membersAs (reference "#/definitions/schemaArray") ["allOf", "anyOf", "oneOf"]
  ++ [("default", .obj []),
    ("multipleOf", .object [("type", "number"), ("minimum", 0), ("exclusiveMinimum", true)]),
    ("pattern", ofFormat "regex"),
    ("items", .object [
      ("anyOf", .arr [reference "#", reference "#/definitions/schemaArray"]),
      ("default", .obj [])]),
    ("uniqueItems", mark),
    ("required", reference "#/definitions/stringArray"),
    ("dependencies", .object [
      ("type", "object"),
      ("additionalProperties", either (reference "#") (reference "#/definitions/stringArray"))]),
    ("enum", ofType "array"),
    ("type", either (reference "#/definitions/simpleTypes")
      (distinctOf (reference "#/definitions/simpleTypes"))),
    ("not", reference "#")]

/-- The schema of the schemas of draft 4. -/
def draft04 : Json := .object [
  ("id", "http://json-schema.org/draft-04/schema#"),
  ("$schema", "http://json-schema.org/draft-04/schema#"),
  ("description", "Core schema meta-schema"),
  ("definitions", definitions04),
  ("type", "object"),
  ("properties", properties04),
  ("dependencies", .object [
    ("exclusiveMaximum", .arr ["maximum"]), ("exclusiveMinimum", .arr ["minimum"])]),
  ("default", .obj [])]

/-! ## Drafts 6 and 7 -/

/-- Everything that drafts 6 and 7 define by name. -/
def definitions06 : Json := .object [
  ("schemaArray", someOf (reference "#")),
  ("nonNegativeInteger", natural),
  ("nonNegativeIntegerDefault0", .object [
    ("allOf", .arr [reference "#/definitions/nonNegativeInteger", .obj [("default", 0)]])]),
  ("simpleTypes", typeName),
  ("stringArray", distinctNames)]

/-- What the keywords of drafts 6 and 7 may hold, but for those in which the drafts differ. -/
def sharedProperties06 : List (String × Json) :=
  membersAs (ofFormat "uri-reference") ["$id", "$ref"]
  ++ membersAs (ofType "string") ["title", "description", "format"]
  ++ numberMembers ["maximum", "exclusiveMaximum", "minimum", "exclusiveMinimum"]
  ++ membersAs (reference "#/definitions/nonNegativeInteger")
    ["maxLength", "maxItems", "maxProperties"]
  ++ membersAs (reference "#/definitions/nonNegativeIntegerDefault0")
    ["minLength", "minItems", "minProperties"]
  ++ membersAs (reference "#")
    ["additionalItems", "contains", "additionalProperties", "propertyNames", "not"]
  ++ membersAs (membersOf (reference "#")) ["definitions", "properties"]
  ++ membersAs (reference "#/definitions/schemaArray") ["allOf", "anyOf", "oneOf"]
  ++ [("$schema", ofFormat "uri"),
    ("multipleOf", .object [("type", "number"), ("exclusiveMinimum", 0)]),
    ("pattern", ofFormat "regex"),
    ("uniqueItems", mark),
    ("required", reference "#/definitions/stringArray"),
    ("dependencies", .object [
      ("type", "object"),
      ("additionalProperties", either (reference "#") (reference "#/definitions/stringArray"))]),
    ("type", either (reference "#/definitions/simpleTypes")
      (distinctOf (reference "#/definitions/simpleTypes")))]

/-- One schema, or an array of them. -/
def schemaOrArray (default : Json) : Json := .object [
  ("anyOf", .arr [reference "#", reference "#/definitions/schemaArray"]), ("default", default)]

/-- What each keyword of draft 6 may hold. -/
def properties06 : Json := .object <| sharedProperties06 ++ [
  ("default", .obj []),
  ("examples", .object [("type", "array"), ("items", .obj [])]),
  ("items", schemaOrArray (.obj [])),
  ("patternProperties", membersOf (reference "#")),
  ("const", .obj []),
  ("enum", ofType "array")]

/-- What the keywords of draft 7 may hold that draft 6 describes in another way, or not at all. -/
def ownProperties07 : List (String × Json) := [
  ("default", true),
  ("readOnly", mark),
  ("examples", .object [("type", "array"), ("items", true)]),
  ("items", schemaOrArray true),
  ("patternProperties", patternsOf (reference "#")),
  ("const", true),
  ("enum", .object [("type", "array"), ("items", true)])]

/-- What each keyword of draft 7 may hold. -/
def properties07 : Json := .object <| sharedProperties06
  ++ membersAs (reference "#") ["if", "then", "else"]
  ++ membersAs (ofType "string") ["$comment", "contentMediaType", "contentEncoding"]
  ++ ownProperties07

/-- The schema of the schemas of a draft, at an address. -/
def later (address : String) (properties default : Json) : Json := .object [
  ("$schema", address),
  ("$id", address),
  ("title", "Core schema meta-schema"),
  ("definitions", definitions06),
  ("type", schemaType),
  ("properties", properties),
  ("default", default)]

/-- The schema of the schemas of draft 6. -/
def draft06 : Json := later "http://json-schema.org/draft-06/schema#" properties06 (.obj [])

/-- The schema of the schemas of draft 7. -/
def draft07 : Json := later "http://json-schema.org/draft-07/schema#" properties07 true

end MetaSchema

end LintConfig
