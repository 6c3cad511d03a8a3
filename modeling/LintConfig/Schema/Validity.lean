import LintConfig.Pattern.Grammar
import LintConfig.Schema.Fault

/-!
# Which values are schemas

`Json.isSchema` says whether a value is a schema of draft 4.  It looks at the whole value, at
schemas that never apply as much as at those that do, and at what stands beside a reference too.

That a value is a schema does not yet mean that it can be used: nothing is asked here of where its
references lead, nor of what its patterns mean.
-/

namespace LintConfig

namespace Json

/-! ## Values of keywords without schemas -/

/-- Whether a value is a string. -/
def isString : Json → Bool
  | .str _ => true
  | _ => false

/-- Whether a value is a number. -/
def isNumber : Json → Bool
  | .num _ => true
  | _ => false

/-- Whether a value is a truth value. -/
def isBool : Json → Bool
  | .bool _ => true
  | _ => false

/-- Whether a value is a natural number that is written as an integer. -/
def isNatural : Json → Bool
  | .num (.integer i) => 0 ≤ i
  | _ => false

/-- Whether a value is a number below zero that is written as an integer. -/
def isNegativeInteger : Json → Bool
  | .num (.integer i) => i < 0
  | _ => false

/-- Whether a value is a number above zero. -/
def isPositive : Json → Bool
  | .num n => 0 < n.value
  | _ => false

/-- The string that a value is. -/
def string? : Json → Option String
  | .str s => some s
  | _ => none

/-- The number that a value is. -/
def number? : Json → Option Number
  | .num n => some n
  | _ => none

/-- Whether a value is an array of strings, all different, with a first one. -/
def isNames : Json → Bool
  | .arr items =>
    match items.mapM string? with
    | some names => !names.isEmpty && names.Nodup
    | none => false
  | _ => false

/-- Whether a value is the name of a type, or an array of such names, all different, with a first
one. -/
def isTypes : Json → Bool
  | .str s => (TypeName.ofName? s).isSome
  | .arr items =>
    match items.mapM fun v => (string? v).bind TypeName.ofName? with
    | some names => !names.isEmpty && names.Nodup
    | none => false
  | _ => false

/-- Whether a value is a regular expression. -/
def isExpression : Json → Bool
  | .str s => Pattern.isExpression s
  | _ => false

/-- Whether a value is an array. -/
def isArray : Json → Bool
  | .arr _ => true
  | _ => false

/-- Whether a keyword without schemas may hold a value, given the members it stands among. -/
def mayHold (siblings : List (String × Json)) (keyword : String) (v : Json) : Bool :=
  match keyword with
  | "type" => v.isTypes
  | "enum" => v.isArray
  | "minimum" | "maximum" => v.isNumber
  | "exclusiveMinimum" => v.isBool && (lookup "minimum" siblings).isSome
  | "exclusiveMaximum" => v.isBool && (lookup "maximum" siblings).isSome
  | "multipleOf" => v.isPositive
  | "minLength" | "maxLength" | "minItems" | "maxItems" | "minProperties" | "maxProperties" =>
    v.isNatural
  | "uniqueItems" => v.isBool
  | "required" => v.isNames
  | "pattern" => v.isExpression
  | "format" | "id" | "title" | "description" | "$schema" => v.isString
  | _ => true

/-! ## Schemas -/

mutual

/-- Whether a value is a schema of draft 4. -/
def isSchema : Json → Bool
  | .obj members => areKeywords members members
  | _ => false

/-- Whether every value of a list is a schema. -/
def areSchemas : List Json → Bool
  | [] => true
  | v :: rest => v.isSchema && areSchemas rest

/-- Whether a value is an array of schemas with a first one. -/
def isSchemaArray : Json → Bool
  | .arr items => !items.isEmpty && areSchemas items
  | _ => false

/-- Whether the value of every member is a schema. -/
def haveSchemas : List (String × Json) → Bool
  | [] => true
  | (_, v) :: rest => v.isSchema && haveSchemas rest

/-- Whether a value is an object of schemas. -/
def isSchemaObject : Json → Bool
  | .obj members => haveSchemas members
  | _ => false

/-- Whether the value of every member is a schema or an array of names. -/
def haveDependencies : List (String × Json) → Bool
  | [] => true
  | (_, v) :: rest => (v.isSchema || v.isNames) && haveDependencies rest

/-- Whether a value is an object of schemas and arrays of names. -/
def isDependencies : Json → Bool
  | .obj members => haveDependencies members
  | _ => false

/-- Whether members may stand in a schema.  `siblings` are all members of the object. -/
def areKeywords (siblings : List (String × Json)) : List (String × Json) → Bool
  | [] => true
  | (keyword, v) :: rest =>
    (match keyword with
      | "allOf" | "anyOf" | "oneOf" => v.isSchemaArray
      | "not" => v.isSchema
      | "items" => v.isSchema || v.isSchemaArray
      | "additionalItems" | "additionalProperties" => v.isBool || v.isSchema
      | "properties" | "patternProperties" | "definitions" => v.isSchemaObject
      | "dependencies" => v.isDependencies
      | keyword => mayHold siblings keyword v)
      && areKeywords siblings rest

end

end Json

end LintConfig
