import LintConfig.Pattern.Search
import LintConfig.Schema.Content
import LintConfig.Schema.Format
import LintConfig.Schema.Reference

/-!
# Schemas

A `Schema` is what a JSON schema asks for, with every keyword read.

**Conjunctions.**  A schema object asks for what each of its keywords asks for, so it is the
conjunction `all` of one schema for each keyword, in the byte order of their names.  The keyword
`allOf` is a conjunction again, and so are those that ask for something where a member is present.

**Keywords that belong together.**  A keyword that other keywords change is read together with
them: `exclusiveMinimum` is a part of `atLeastNumber`, `minContains` one of `contains`, and `closed`
stands for `additionalProperties` with the `properties` and `patternProperties` beside it.

**References.**  What a reference leads to is not known while a schema is read; `Schema.substitute`
puts in its place what whoever looks it up finds.
-/

namespace LintConfig

/-- A pattern for property names, as written and as read. -/
structure PropertyPattern where
  source : String
  pattern : Pattern

namespace PropertyPattern

/-- Reads a pattern for property names. -/
def ofSource? (source : String) : Option PropertyPattern :=
  (Pattern.parse? source).map (⟨source, ·⟩)

/-- Whether the pattern matches a name. -/
def occursIn (p : PropertyPattern) (name : String) : Bool := p.pattern.occursIn name

end PropertyPattern

/-- What is asked of a value.  What is asked of a kind of value holds of every other kind. -/
inductive Schema where
  /-- Nothing. -/
  | anything
  /-- The impossible. -/
  | nothing
  /-- What each of the schemas asks for. -/
  | all (parts : List Schema)
  /-- What the schema asks for that the reference leads to. -/
  | reference (target : Reference)
  /-- One of the types. -/
  | types (integers : IntegerRule) (names : List TypeName)
  /-- To be one of the values. -/
  | enum (values : List Json)
  /-- To be the value, or a number that is next to it. -/
  | const (value : Json)
  /-- A number that is not less than the limit, or greater than it if it is excluded. -/
  | atLeastNumber (limit : Number) (exclusive : Bool)
  /-- A number that is not greater than the limit, or less than it if it is excluded. -/
  | atMostNumber (limit : Number) (exclusive : Bool)
  /-- A number that is a multiple of the divisor. -/
  | multipleOf (divisor : Double)
  /-- A count that is not less than a bound. -/
  | atLeast (measure : Measure) (least : Nat)
  /-- A count that is not greater than a bound. -/
  | atMost (measure : Measure) (most : Nat)
  /-- An array without two equal items. -/
  | uniqueItems
  /-- An object with these members. -/
  | required (names : List String)
  /-- An array with every item as described. -/
  | eachItem (schema : Schema)
  /-- An array whose first items are as described, one after the other. -/
  | firstItems (schemas : List Schema)
  /-- An array whose items after the first ones are as described. -/
  | laterItems (first : Nat) (schema : Schema)
  /-- An array with no more than the first items. -/
  | noLaterItems (first : Nat)
  /-- An array with so many items as described, at least and at most. -/
  | contains (least : Nat) (most : Option Nat) (schema : Schema)
  /-- An object whose members with these names are as described. -/
  | properties (schemas : List (String × Schema))
  /-- An object whose members with matching names are as described. -/
  | patternProperties (schemas : List (PropertyPattern × Schema))
  /-- An object each of whose members is described by name or by pattern, or else as given. -/
  | closed (known : List (String × Schema)) (patterns : List (PropertyPattern × Schema))
    (others : Option Schema)
  /-- An object without members, of which the first one is refused. -/
  | noProperties
  /-- An object without members, which is refused itself. -/
  | unnamed
  /-- An object whose names are as described. -/
  | propertyNames (schema : Schema)
  /-- To be accepted by one of the schemas. -/
  | anyOf (schemas : List Schema)
  /-- To be accepted by exactly one of the schemas. -/
  | oneOf (schemas : List Schema)
  /-- Not to be accepted by the schema, which was written as given. -/
  | not (source : Json) (schema : Schema)
  /-- What the schema asks for, of an object with a member of this name. -/
  | ifPresent (name : String) (schema : Schema)
  /-- What the second schema asks for if the first accepts the value, and what the third one asks
  for if it does not. -/
  | conditional (test accepted refused : Schema)
  /-- A string that the pattern matches. -/
  | pattern (source : String) (pattern : Pattern)
  /-- A string of the format. -/
  | format (format : Format)
  /-- A string that holds something. -/
  | content (content : Content)

namespace Schema

variable {m : Type → Type} [Monad m]

mutual

/-- Puts schemas in the place of references, one after the other: keyword by keyword, and in the
order of the names, patterns and items that a keyword describes.  Of an object with all its members
described, those by pattern come first; then come those by name, or the others if some are
described by pattern. -/
def substitute (f : Reference → m Schema) : Schema → m Schema
  | reference target => f target
  | all parts => return all (← substituteList f parts)
  | eachItem schema => return eachItem (← substitute f schema)
  | firstItems schemas => return firstItems (← substituteList f schemas)
  | laterItems first schema => return laterItems first (← substitute f schema)
  | contains least most schema => return contains least most (← substitute f schema)
  | properties schemas => return properties (← substituteNamed f schemas)
  | patternProperties schemas => return patternProperties (← substitutePatterns f schemas)
  | closed known patterns others => do
    let patterns ← substitutePatterns f patterns
    if patterns.isEmpty then
      let known ← substituteNamed f known
      return closed known patterns (← substituteOption f others)
    else
      let others ← substituteOption f others
      return closed (← substituteNamed f known) patterns others
  | propertyNames schema => return propertyNames (← substitute f schema)
  | anyOf schemas => return anyOf (← substituteList f schemas)
  | oneOf schemas => return oneOf (← substituteList f schemas)
  | not source schema => return not source (← substitute f schema)
  | ifPresent name schema => return ifPresent name (← substitute f schema)
  | conditional test accepted refused =>
    return conditional (← substitute f test) (← substitute f accepted) (← substitute f refused)
  | other => return other

/-- `substitute` in an optional schema. -/
def substituteOption (f : Reference → m Schema) : Option Schema → m (Option Schema)
  | none => return none
  | some schema => return some (← substitute f schema)

/-- `substitute` in a list of schemas. -/
def substituteList (f : Reference → m Schema) : List Schema → m (List Schema)
  | [] => return []
  | schema :: rest => return (← substitute f schema) :: (← substituteList f rest)

/-- `substitute` in schemas with names. -/
def substituteNamed (f : Reference → m Schema) : List (String × Schema) → m (List (String × Schema))
  | [] => return []
  | (name, schema) :: rest =>
    return (name, ← substitute f schema) :: (← substituteNamed f rest)

/-- `substitute` in schemas with patterns. -/
def substitutePatterns (f : Reference → m Schema) :
    List (PropertyPattern × Schema) → m (List (PropertyPattern × Schema))
  | [] => return []
  | (p, schema) :: rest =>
    return (p, ← substitute f schema) :: (← substitutePatterns f rest)

end

end Schema

end LintConfig
