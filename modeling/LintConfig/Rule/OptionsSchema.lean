import LintConfig.Rule

/-!
# The schema of a rule's options

A rule may declare the schema of its options in two shapes: as a list with one schema for each
option, or as one schema for the whole list of options.  `optionsSchema` brings both to one form,
a schema for the list of options.

**Positional.**  `positional` allows at most as many options as there are schemas.

**Whole.**  A schema for the whole list is used as it is, unless its type admits something that is
not an array (`acceptsOnlyArrays`): such a schema cannot have been meant for a list of options.
-/

namespace LintConfig

/-- What a rule's declaration says about its options. -/
inductive OptionsSchema where
  /-- Nothing: any options are accepted. -/
  | absent
  /-- They are a list that satisfies the schema. -/
  | canonical (schema : Json)
  /-- The declared schema admits values that are not lists, and is not used. -/
  | rejected (schema : Json)

namespace OptionsSchema

/-- The schema of a list with at most one item for each of the given schemas. -/
def positional (items : List Json) : Json :=
  let bounds := [("maxItems", Json.ofNat items.length), ("minItems", Json.ofNat 0),
    ("type", Json.str "array")]
  if items.isEmpty then .obj bounds else .obj (("items", .arr items) :: bounds)

/-- Whether a value is the type name of arrays. -/
def namesArray : Json → Bool
  | .str name => name = "array"
  | _ => false

/-- Whether the type in the members of a schema admits nothing but arrays.  A missing or malformed
type is left to the compilation of the schema. -/
def acceptsOnlyArrays (members : List (String × Json)) : Bool :=
  match Json.lookup "type" members with
  | some (.str name) => namesArray (.str name)
  | some (.arr names) => names.all namesArray
  | _ => true

/-- The schema that a rule declares, in whatever shape: the one beside the information block, else
the one in it. -/
def declared? : RuleForm → Option Json
  | .function => none
  | .object declaration => declaration.schema <|> declaration.info.bind (·.schema)

/-- Brings a declared schema to the form of a schema for the list of options. -/
def ofDeclared : Option Json → OptionsSchema
  | some (.arr items) => canonical (positional items)
  | some (.obj members) =>
    if acceptsOnlyArrays members then canonical (.obj members) else rejected (.obj members)
  | _ => absent

/-- The schema that options are checked with, if they are checked. -/
def schema? : OptionsSchema → Option Json
  | canonical schema => some schema
  | absent | rejected _ => none

end OptionsSchema

/-- What a rule says about its options. -/
def RuleForm.optionsSchema (form : RuleForm) : OptionsSchema :=
  .ofDeclared (OptionsSchema.declared? form)

end LintConfig
