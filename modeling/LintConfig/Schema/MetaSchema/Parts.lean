import LintConfig.Json

/-!
# Parts of the schemas of schemas

What the documents that describe schemas have in common: short words for the schemas that come up in
all of them.
-/

namespace LintConfig

namespace MetaSchema

/-- A reference to another place. -/
def reference (text : String) : Json := .object [("$ref", text)]

/-- A value of one type. -/
def ofType (name : String) : Json := .object [("type", name)]

/-- A string of a format. -/
def ofFormat (name : String) : Json := .object [("type", "string"), ("format", name)]

/-- Either of two schemas. -/
def either (first second : Json) : Json := .object [("anyOf", .arr [first, second])]

/-- An object whose members are all as described. -/
def membersOf (schema : Json) : Json :=
  .object [("type", "object"), ("additionalProperties", schema), ("default", .obj [])]

/-- An object whose members are all as described, and whose names are patterns. -/
def patternsOf (schema : Json) : Json :=
  .object [("type", "object"), ("additionalProperties", schema),
    ("propertyNames", .object [("format", "regex")]), ("default", .obj [])]

/-- An array of values that are all as described, with a first one. -/
def someOf (schema : Json) : Json :=
  .object [("type", "array"), ("minItems", 1), ("items", schema)]

/-- An array of values that are as described and all different, with a first one. -/
def distinctOf (schema : Json) : Json :=
  .object [("type", "array"), ("items", schema), ("minItems", 1), ("uniqueItems", true)]

/-- An integer that is not negative. -/
def natural : Json := .object [("type", "integer"), ("minimum", 0)]

/-- A truth value that is false where it is not given. -/
def mark : Json := .object [("type", "boolean"), ("default", false)]

/-- The name of a type. -/
def typeName : Json :=
  .object [("enum", .arr ["array", "boolean", "integer", "null", "number", "object", "string"])]

/-- Names that are all different. -/
def distinctNames : Json :=
  .object [("type", "array"), ("items", ofType "string"), ("uniqueItems", true),
    ("default", .arr [])]

/-- The members that ask for nothing but a number. -/
def numberMembers (names : List String) : List (String × Json) :=
  names.map fun name => (name, ofType "number")

/-- Members that are all described in the same way. -/
def membersAs (schema : Json) (names : List String) : List (String × Json) :=
  names.map fun name => (name, schema)

/-- An object or a truth value, which is what a schema is in the later drafts. -/
def schemaType : Json := .arr ["object", "boolean"]

end MetaSchema

end LintConfig
