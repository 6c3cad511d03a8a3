import LintConfig.Json.Printer
import LintConfig.Schema.Violation

/-!
# What can be wrong with a value

Every keyword of a schema has its own way to fail.  A `Fault` says which one it is and holds what
its message mentions; `Fault.message` is the only place where messages are worded.
-/

namespace LintConfig

/-- The types that a schema can ask for, in the order in which messages list them. -/
inductive TypeName where
  | array
  | boolean
  | integer
  | null
  | number
  | object
  | string
  deriving DecidableEq

namespace TypeName

/-- The types, in the order in which messages list them. -/
def all : List TypeName := [array, boolean, integer, null, number, object, string]

/-- The name of a type. -/
def name : TypeName → String
  | array => "array"
  | boolean => "boolean"
  | integer => "integer"
  | null => "null"
  | number => "number"
  | object => "object"
  | string => "string"

/-- The type with a name. -/
def ofName? (s : String) : Option TypeName := all.find? (fun t => t.name = s)

end TypeName

/-- Which numbers are integers. -/
inductive IntegerRule where
  /-- Those that are held as integers. -/
  | held
  /-- All whole numbers. -/
  | whole
  deriving DecidableEq

/-- Whether a number is an integer by a rule. -/
def IntegerRule.admits : IntegerRule → Number → Bool
  | _, .integer _ => true
  | held, .double _ => false
  | whole, .double d => d.value.den == 1

/-- Whether a value has a type. -/
def TypeName.admits (integers : IntegerRule) : TypeName → Json → Bool
  | array, .arr _ => true
  | boolean, .bool _ => true
  | integer, .num n => integers.admits n
  | null, .null => true
  | number, .num _ => true
  | object, .obj _ => true
  | string, .str _ => true
  | _, _ => false

/-- What a schema can count. -/
inductive Measure where
  /-- The characters of a string. -/
  | characters
  /-- The items of an array. -/
  | items
  /-- The members of an object. -/
  | properties
  deriving DecidableEq

namespace Measure

/-- The count for a value; none for a value in which there is nothing of the kind to count. -/
def count? : Measure → Json → Option Nat
  | characters, .str s => some s.length
  | items, .arr values => some values.length
  | properties, .obj members => some members.length
  | _, _ => none

/-- A number of what is counted, in words. -/
def amount (m : Measure) (n : Nat) : String :=
  toString n ++ " " ++ match m with
    | characters => if n = 1 then "character" else "characters"
    | items => if n = 1 then "item" else "items"
    | properties => if n = 1 then "property" else "properties"

/-- How a count that is too small is worded. -/
def belowWords : Measure → String
  | characters => " is shorter than "
  | items | properties => " has less than "

/-- How a count that is too large is worded. -/
def aboveWords : Measure → String
  | characters => " is longer than "
  | items | properties => " has more than "

end Measure

/-- The two keywords that choose among schemas. -/
inductive Choice where
  | anyOf
  | oneOf
  deriving DecidableEq

/-- The keyword of a choice. -/
def Choice.keyword : Choice → String
  | anyOf => "anyOf"
  | oneOf => "oneOf"

/-- A way in which a value can fail a check. -/
inductive Fault where
  /-- The value has none of the types, of which one may be listed more than once. -/
  | wrongType (value : Json) (types : List TypeName)
  /-- The value is not the one it has to be. -/
  | notConstant (expected : Json)
  /-- The value is not listed. -/
  | notListed (value : Json) (values : List Json)
  /-- The number is less than a limit, or no more than one that is excluded. -/
  | tooSmall (value : Json) (limit : Number) (exclusive : Bool)
  /-- The number is greater than a limit, or no less than one that is excluded. -/
  | tooLarge (value : Json) (limit : Number) (exclusive : Bool)
  /-- The number is no multiple of the divisor. -/
  | notMultiple (value : Json) (divisor : Double)
  /-- A count is less than it has to be. -/
  | tooFew (value : Json) (measure : Measure) (least : Nat)
  /-- A count is greater than it may be. -/
  | tooMany (value : Json) (measure : Measure) (most : Nat)
  /-- Two items are the same. -/
  | repeatedItems (value : Json)
  /-- No item is as it has to be. -/
  | noneContained (value : Json)
  /-- A property is missing. -/
  | missingProperty (name : String)
  /-- There are items after those that are described. -/
  | unexpectedItems (items : List Json)
  /-- There are properties besides those that are described. -/
  | unexpectedProperties (names : List String)
  /-- No value is allowed here. -/
  | refused (value : Json)
  /-- None of the schemas accepts the value. -/
  | noChoice (value : Json) (choice : Choice)
  /-- More than one of the schemas accepts the value. -/
  | ambiguousChoice (value : Json)
  /-- The value satisfies a schema that it must not satisfy. -/
  | notAllowed (value : Json) (schema : Json)
  /-- The pattern does not match the string. -/
  | noMatch (value : Json) (pattern : String)
  /-- The search of the string for a pattern is given up. -/
  | searchGivenUp
  /-- The string does not have the format. -/
  | wrongFormat (value : Json) (format : String)
  /-- The string is not written in base 64. -/
  | notEncoded (value : Json)
  /-- The string holds no JSON document. -/
  | notDocument (value : Json)

namespace Fault

/-- A double in a message: in positional notation, a whole number without a point. -/
def divisorLayout : Double.Layout where
  positional _ := true
  wholeMark := []

/-- A list that is followed by the statement that its elements were unexpected. -/
def unexpected (texts : List String) : String :=
  "(" ++ ", ".intercalate texts ++ (if texts.length = 1 then " was" else " were") ++ " unexpected)"

/-- The text of a limit. -/
def limitText (n : Number) : String := String.ofList n.chars

/-- The message of a fault. -/
def message : Fault → String
  | wrongType value types =>
    let names := (TypeName.all.filter types.contains).map fun t => "\"" ++ t.name ++ "\""
    value.text ++ (if types.length = 1 then " is not of type " else " is not of types ")
      ++ ", ".intercalate names
  | notConstant expected => expected.text ++ " was expected"
  | notListed value values => value.text ++ " is not one of " ++ (Json.arr values).text
  | tooSmall value limit exclusive =>
    value.text ++ (if exclusive then " is less than or equal to the minimum of "
      else " is less than the minimum of ") ++ limitText limit
  | tooLarge value limit exclusive =>
    value.text ++ (if exclusive then " is greater than or equal to the maximum of "
      else " is greater than the maximum of ") ++ limitText limit
  | notMultiple value divisor =>
    value.text ++ " is not a multiple of " ++ String.ofList (divisor.format divisorLayout)
  | tooFew value measure least => value.text ++ measure.belowWords ++ measure.amount least
  | tooMany value measure most => value.text ++ measure.aboveWords ++ measure.amount most
  | repeatedItems value => value.text ++ " has non-unique elements"
  | noneContained value => "None of " ++ value.text ++ " are valid under the given schema"
  | missingProperty name => (Json.str name).text ++ " is a required property"
  | unexpectedItems items =>
    "Additional items are not allowed " ++ unexpected (items.map Json.text)
  | unexpectedProperties names =>
    "Additional properties are not allowed " ++ unexpected (names.map fun n => "'" ++ n ++ "'")
  | refused value => "False schema does not allow " ++ value.text
  | noChoice value choice =>
    value.text ++ " is not valid under any of the schemas listed in the '" ++ choice.keyword
      ++ "' keyword"
  | ambiguousChoice value =>
    value.text ++ " is valid under more than one of the schemas listed in the '"
      ++ Choice.keyword .oneOf ++ "' keyword"
  | notAllowed value schema => schema.text ++ " is not allowed for " ++ value.text
  | noMatch value pattern => value.text ++ " does not match \"" ++ pattern ++ "\""
  | searchGivenUp => "Error executing regex: Max limit for backtracking count exceeded"
  | wrongFormat value format => value.text ++ " is not a \"" ++ format ++ "\""
  | notEncoded value => value.text ++ " is not compliant with \"base64\" content encoding"
  | notDocument value => value.text ++ " is not compliant with \"application/json\" media type"

/-- The fault of the value that a check was given. -/
def violation (f : Fault) : Violation := ⟨"", f.message⟩

end Fault

end LintConfig
