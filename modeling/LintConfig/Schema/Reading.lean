import LintConfig.Schema.Basic
import LintConfig.Schema.Validity

/-!
# Reading schemas

`Schema.ofJson?` reads a JSON value as a schema.  It is lenient: whether the value is a schema is
for `Json.isSchema` to say, and a reference may lead to a place that is none.  What cannot be read
is a keyword whose value has the wrong kind, a pattern that is none, and an identifier that is
malformed.

**Settings.**  A `Schema.Setting` is what surrounds a schema: the draft by whose rules it is read,
and what its references are relative to.  Both may change where a schema stands inside of another
one, which is what `Setting.enter?` finds out.

**Two steps.**  A schema object is read member by member into `Part`s, which is the recursion.  Then
`Schema.assemble` makes one schema of the parts, which is where keywords change one another:
`additionalProperties` takes over the keywords that describe properties, and `if` those that depend
on it.

**Keywords without sub-schemas** are read by the functions of `namespace Keyword`.
-/

namespace LintConfig

namespace Keyword

/-- The largest bound of a count that is not written as an integer. -/
def largestBound : Nat := 0xFFFFFFFFFFFFFFFF

/-- The bound of a count.  Draft 4 wants it written as an integer; later drafts take any whole
number, and a negative one for zero. -/
def bound? (d : Draft) (v : Json) : Option Nat :=
  v.number?.bind fun n =>
    if v.isNatural then some n.value.num.toNat
    else if d ≠ .draft04 && n.value.den == 1 then some (min n.value.num.toNat largestBound)
    else none

/-- How many items have to be contained in an array, at least and at most.  Only the later drafts
let the members beside the keyword say so. -/
def contained? (d : Draft) (siblings : List (String × Json)) : Option (Nat × Option Nat) :=
  let beside (keyword : String) : Option (Option Nat) :=
    match Json.lookup keyword siblings with
    | some v => if v.isNegativeInteger then none else (bound? d v).map some
    | none => some none
  if d.hasVocabularies then
    match beside "minContains", beside "maxContains" with
    | some least, some most => some (least.getD 1, most)
    | _, _ => none
  else some (1, none)

/-- A list of names. -/
def names? : Json → Option (List String)
  | .arr items => items.mapM Json.string?
  | _ => none

/-- A list of names that are all different. -/
def distinctNames? (v : Json) : Option (List String) :=
  (names? v).bind fun names => if names.Nodup then some names else none

/-- The name of a type. -/
def typeName? (v : Json) : Option TypeName := v.string?.bind TypeName.ofName?

/-- The name of a type, or a list of such names. -/
def types? : Json → Option (List TypeName)
  | .arr items => items.mapM typeName?
  | v => (typeName? v).map ([·])

/-- Which numbers are integers for a draft. -/
def integers (d : Draft) : IntegerRule := if d = .draft04 then .held else .whole

/-- Whether a limit is excluded by the mark beside it, which is how draft 4 excludes limits. -/
def isExcluded (d : Draft) (siblings : List (String × Json)) (mark : String) : Bool :=
  match d, Json.lookup mark siblings with
  | .draft04, some (.bool true) => true
  | _, _ => false

/-- What a keyword without sub-schemas asks for, given the members it stands among.  The outer
option is none where its value has the wrong kind, the inner one where it asks for nothing. -/
def constraint? (d : Draft) (siblings : List (String × Json)) (keyword : String) (v : Json) :
    Option (Option Schema) :=
  match keyword with
  | "type" => (types? v).map fun names => some (.types (integers d) names)
  | "enum" =>
    match v with
    | .arr values => some (some (.enum values))
    | _ => none
  | "const" => some (some (.const v))
  | "minimum" =>
    v.number?.map fun n => some (.atLeastNumber n (isExcluded d siblings "exclusiveMinimum"))
  | "maximum" =>
    v.number?.map fun n => some (.atMostNumber n (isExcluded d siblings "exclusiveMaximum"))
  | "exclusiveMinimum" => v.number?.map fun n => some (.atLeastNumber n true)
  | "exclusiveMaximum" => v.number?.map fun n => some (.atMostNumber n true)
  | "multipleOf" => (v.number?.bind Number.toDouble?).map fun d => some (.multipleOf d)
  | "minLength" => (bound? d v).map fun n => some (.atLeast .characters n)
  | "maxLength" => (bound? d v).map fun n => some (.atMost .characters n)
  | "minItems" => (bound? d v).map fun n => some (.atLeast .items n)
  | "maxItems" => (bound? d v).map fun n => some (.atMost .items n)
  | "minProperties" => (bound? d v).map fun n => some (.atLeast .properties n)
  | "maxProperties" => (bound? d v).map fun n => some (.atMost .properties n)
  | "uniqueItems" =>
    match v with
    | .bool true => some (some .uniqueItems)
    | _ => some none
  | "required" => (names? v).map fun names => some (.required names)
  | "dependentRequired" =>
    match v with
    | .obj members =>
      (members.mapM fun (name, v) =>
          (distinctNames? v).map fun names => Schema.ifPresent name (.required names)).map
        fun l => some (.all l)
    | _ => none
  | "pattern" =>
    v.string?.bind fun s => (Pattern.parse? s).map fun p => some (.pattern s p)
  | "format" => v.string?.map fun s => (Format.ofName? d s).map .format
  | "contentMediaType" =>
    (Content.ofNames? (some v) (Json.lookup "contentEncoding" siblings)).map (·.map .content)
  | "contentEncoding" =>
    if (Json.lookup "contentMediaType" siblings).isSome then some none
    else (Content.ofNames? none (some v)).map (·.map .content)
  | _ => some none

end Keyword

namespace Schema

namespace Setting

/-- The setting of a schema that stands in a schema of the given setting. -/
def enter? (s : Setting) (v : Json) : Option Setting :=
  let draft := s.draft.ofSchema v
  (draft.home? s.home v).map fun home => { s with draft, home }

/-- A reference as it is written in the setting. -/
def reference (s : Setting) (text : String) : Reference := { setting := s, text }

/-- A reference to the document that was entered first.  Where none was, it is one like any
other. -/
def outermostReference (s : Setting) (text : String) : Reference :=
  { setting := s, text, toOutermost := true }

/-- Whether a keyword asks for anything in the setting. -/
def knows (s : Setting) (keyword : String) : Bool :=
  s.draft.hasKeyword keyword
    && (!s.draft.hasVocabularies || (Vocabulary.ofKeyword? keyword).all s.vocabularies.contains)

end Setting

/-- What one member of a schema object contributes. -/
inductive Part where
  /-- Nothing that a value is checked for. -/
  | silent
  /-- What a value is checked for. -/
  | constraint (schema : Schema)
  /-- Schemas for members by name. -/
  | properties (schemas : List (String × Schema))
  /-- Schemas for members by pattern. -/
  | patternProperties (schemas : List (PropertyPattern × Schema))
  /-- A schema for all other members, or that there are none. -/
  | others (schema : Option Schema)
  /-- That all other members are allowed. -/
  | anyOthers
  /-- A schema that decides which one of two others applies. -/
  | test (schema : Schema)
  /-- The schema that applies if the decision is for it. -/
  | accepted (schema : Schema)
  /-- The schema that applies if the decision is against the other one. -/
  | refused (schema : Schema)

namespace Part

/-- The schemas for members by name, if this is that part. -/
def properties? : Part → Option (List (String × Schema))
  | properties schemas => some schemas
  | _ => none

/-- The schemas for members by pattern, if this is that part. -/
def patternProperties? : Part → Option (List (PropertyPattern × Schema))
  | patternProperties schemas => some schemas
  | _ => none

/-- What is said of all other members, if this is that part. -/
def others? : Part → Option (Option Schema)
  | others schema => some schema
  | _ => none

/-- The schema for values that pass the test, if this is that part. -/
def accepted? : Part → Option Schema
  | accepted schema => some schema
  | _ => none

/-- The schema for values that fail the test, if this is that part. -/
def refused? : Part → Option Schema
  | refused schema => some schema
  | _ => none

/-- What the part asks for among the other parts of an object.  Where something is said of all
other members, that place asks for the described members too.  Where all others are allowed, the
place only holds the schemas for members by pattern, as a condition that never comes to them. -/
def schema (parts : List Part) : Part → Schema
  | silent => anything
  | constraint schema => schema
  | properties schemas =>
    if (parts.findSome? others?).isSome then anything else .properties schemas
  | patternProperties schemas =>
    if (parts.findSome? others?).isSome then anything else .patternProperties schemas
  | others schema =>
    match parts.findSome? properties?, parts.findSome? patternProperties?, schema with
    | none, none, none => noProperties
    | known, patterns, schema => closed (known.getD []) (patterns.getD []) schema
  | anyOthers =>
    match parts.findSome? patternProperties? with
    | some schemas => conditional anything anything (.patternProperties schemas)
    | none => anything
  | test schema =>
    conditional schema ((parts.findSome? accepted?).getD anything)
      ((parts.findSome? refused?).getD anything)
  | accepted _ | refused _ => anything

/-- Whether one of the members has a name. -/
def isAmong (siblings : List (String × Json)) (name : String) : Bool :=
  (Json.lookup name siblings).isSome

/-- How many items an array describes one by one, if one of the members is one of this name. -/
def describedItems? (siblings : List (String × Json)) (name : String) : Option Nat :=
  match Json.lookup name siblings with
  | some (.arr schemas) => some schemas.length
  | _ => none

/-- The part that a keyword is whose value is read as a schema, given this schema.  It is none where
the value is not read as one. -/
def holding? (d : Draft) (siblings : List (String × Json)) (keyword : String) (v : Json) :
    Option (Schema → Part) :=
  match keyword, v with
  | "not", _ => some fun schema => constraint (.not v schema)
  | "items", .obj _ | "items", .bool false =>
    some fun schema =>
      match describedItems? siblings "prefixItems" with
      | some n => constraint (laterItems n schema)
      | none => constraint (eachItem schema)
  | "additionalItems", .obj _ =>
    (describedItems? siblings "items").map fun n schema => constraint (laterItems n schema)
  | "contains", _ =>
    (Keyword.contained? d siblings).map fun (least, most) schema =>
      constraint (contains least most schema)
  | "additionalProperties", .bool _ => none
  | "additionalProperties", _ => some fun schema => others (some schema)
  | "propertyNames", .obj _ => some fun schema => constraint (propertyNames schema)
  | "if", _ => if isAmong siblings "then" || isAmong siblings "else" then some test else none
  | "then", _ => if isAmong siblings "if" then some accepted else none
  | "else", _ => if isAmong siblings "if" then some refused else none
  | _, _ => none

/-- The part that a keyword is whose value holds no schema. -/
def plain? (s : Setting) (siblings : List (String × Json)) (keyword : String) (v : Json) :
    Option Part :=
  match keyword, v with
  | "$ref", _ => v.string?.map fun text => constraint (.reference (s.reference text))
  | "$recursiveRef", _ | "$dynamicRef", _ =>
    v.string?.map fun text => constraint (.reference (s.outermostReference text))
  | "additionalItems", _ =>
    match Json.lookup "items" siblings, v with
    | some (.arr first), .bool false => some (constraint (noLaterItems first.length))
    | none, _ | some (.arr _), _ | some (.obj _), _ | some (.bool _), _ => some silent
    | _, _ => none
  | "contains", _ => none
  | "additionalProperties", .bool false => some (others none)
  | "additionalProperties", .bool true => some anyOthers
  | "propertyNames", .bool false => some (constraint unnamed)
  | _, _ =>
    (Keyword.constraint? s.draft siblings keyword v).map fun found =>
      (found.map constraint).getD silent

end Part

/-- The schema of an object with these parts. -/
def assemble (parts : List Part) : Schema := all (parts.map (Part.schema parts))

/-- The reference that stands for a whole object, if one does.  The inner option is none where the
reference is not a text. -/
def soleReference? (s : Setting) (members : List (String × Json)) : Option (Option Reference) :=
  if s.draft.hasVocabularies then none
  else (Json.lookup "$ref" members).map fun v => v.string?.map s.reference

/-- Reads the patterns that name schemas. -/
def withPatterns? : List (String × Schema) → Option (List (PropertyPattern × Schema))
  | [] => some []
  | (source, schema) :: rest =>
    match PropertyPattern.ofSource? source, withPatterns? rest with
    | some p, some schemas => some ((p, schema) :: schemas)
    | _, _ => none

mutual

/-- Reads a schema in its own setting. -/
def ofJson? (s : Setting) : Json → Option Schema
  | .bool true => some anything
  | .bool false => some nothing
  | .obj members =>
    match soleReference? s members with
    | some target => target.map reference
    | none => (partsOfMembers? s members members).map assemble
  | _ => none

/-- Reads a list of schemas. -/
def listOfItems? (s : Setting) : List Json → Option (List Schema)
  | [] => some []
  | v :: rest =>
    match (s.enter? v).bind fun s => ofJson? s v, listOfItems? s rest with
    | some schema, some schemas => some (schema :: schemas)
    | _, _ => none

/-- Reads an array of schemas. -/
def listOfJson? (s : Setting) : Json → Option (List Schema)
  | .arr items => listOfItems? s items
  | _ => none

/-- Reads schemas with names. -/
def namedOfMembers? (s : Setting) : List (String × Json) → Option (List (String × Schema))
  | [] => some []
  | (name, v) :: rest =>
    match (s.enter? v).bind fun s => ofJson? s v, namedOfMembers? s rest with
    | some schema, some schemas => some ((name, schema) :: schemas)
    | _, _ => none

/-- Reads an object of schemas. -/
def namedOfJson? (s : Setting) : Json → Option (List (String × Schema))
  | .obj members => namedOfMembers? s members
  | _ => none

/-- Reads what members ask for in whose presence something else is asked for: a list of names that
have to be present, where lists are allowed, or a schema. -/
def dependenciesOfMembers? (s : Setting) (lists : Bool) :
    List (String × Json) → Option (List Schema)
  | [] => some []
  | (name, v) :: rest =>
    let asked := match lists, v with
      | true, .arr items => (Keyword.names? (.arr items)).map required
      | _, v => (s.enter? v).bind fun s => ofJson? s v
    match asked, dependenciesOfMembers? s lists rest with
    | some schema, some schemas => some (ifPresent name schema :: schemas)
    | _, _ => none

/-- Reads an object of such members. -/
def dependenciesOfJson? (s : Setting) (lists : Bool) : Json → Option (List Schema)
  | .obj members => dependenciesOfMembers? s lists members
  | _ => none

/-- Reads the members of a schema object.  `siblings` are all of its members. -/
def partsOfMembers? (s : Setting) (siblings : List (String × Json)) :
    List (String × Json) → Option (List Part)
  | [] => some []
  | (keyword, v) :: rest =>
    let part : Option Part :=
      if !s.knows keyword then some .silent
      else
        match Part.holding? s.draft siblings keyword v with
        | some build => ((s.enter? v).bind fun s => ofJson? s v).map build
        | none =>
          match keyword with
          | "allOf" => (listOfJson? s v).map fun l => .constraint (all l)
          | "anyOf" => (listOfJson? s v).map fun l => .constraint (anyOf l)
          | "oneOf" => (listOfJson? s v).map fun l => .constraint (oneOf l)
          | "items" =>
            match v with
            | .arr schemas => (listOfItems? s schemas).map fun l => .constraint (firstItems l)
            | _ => some .silent
          | "properties" => (namedOfJson? s v).map .properties
          | "patternProperties" => ((namedOfJson? s v).bind withPatterns?).map .patternProperties
          | "prefixItems" => (listOfJson? s v).map fun l => .constraint (firstItems l)
          | "dependencies" => (dependenciesOfJson? s true v).map fun l => .constraint (all l)
          | "dependentSchemas" =>
            (dependenciesOfJson? s false v).map fun l => .constraint (all l)
          | keyword => Part.plain? s siblings keyword v
    match part, partsOfMembers? s siblings rest with
    | some part, some parts => some (part :: parts)
    | _, _ => none

end

end Schema

end LintConfig
