import LintConfig.Schema.Basic
import LintConfig.Schema.Check

/-!
# Checking values

`Schema.check` is the check of a value by a schema.  It recurses over the schema; what a reference
asks for is a parameter, so nothing in it depends on how references are followed.

**Order.**  A value is checked in the order of the schema: part by part, property names in the order
of the schema, items and members in the order of the value.

**Choices.**  Whether a value is accepted by the schemas of a choice is a matter of verdicts.  They
are passed one after the other, as long as the count of those that accept is not decided.

**Multiples.**  A whole divisor divides a number if the quotient is whole, and zero divides none.
For any other divisor the quotient is rounded to a double first, and its fraction has to be less
than `2^-52`; the fraction takes the sign of the quotient, so a negative one always passes.

**Constants.**  A number is the constant if the difference, rounded to a double, is less than
`2^-52`; the numbers inside of a value have to be the same.

**Equal items.**  Items are equal if they are the same up to the kind of numbers.  In a long array
zeros have to have the same sign too.
-/

namespace LintConfig

/-- The part of a rational after the point, with its sign. -/
def signedFraction (q : Rat) : Rat := if 0 ≤ q then q - q.floor else q - q.ceil

/-- The double nearest to a multiple of the magnitude of a double, where it is not too large. -/
def Double.scaledMagnitude (d : Double) (factor : Nat) : Rat :=
  match Double.nearest? false factor with
  | some factor => ((Double.nearest? false (d.magnitude * factor.magnitude)).map magnitude).getD 0
  | none => 0

/-- The magnitude of a double with so many decimal places that it looks whole when scaled by their
power of ten, this one or a greater one.  Every double beyond `epsilon` looks whole before it is
scaled by `10 ^ 32`. -/
def Double.decimalMagnitude (d : Double) : (more places : Nat) → Rat
  | 0, _ => d.magnitude
  | more + 1, places =>
    let scale := Nat.pow 10 places
    let scaled := d.scaledMagnitude scale
    if scaled.den = 1 then scaled / scale else decimalMagnitude d more (places + 1)

/-- The magnitude of a double as it is counted where quotients are too large: nothing below
`epsilon`, and else what the first decimals say that look like all of them. -/
def Double.countedMagnitude (d : Double) : Rat :=
  if d.magnitude < epsilon then 0 else d.decimalMagnitude 33 0

/-- Whether a double counts as a multiple of a divisor.  Where the quotient is beyond the largest
double, the quotient of the counted magnitudes has to be whole; of what counts as nothing every
number is a multiple. -/
def Double.isMultipleOf (x divisor : Double) : Bool :=
  let q := x.value / divisor.value
  if divisor.value.den = 1 then divisor.value != 0 && q.den == 1
  else
    match Double.nearest? (decide (q < 0)) (if q < 0 then -q else q) with
    | some rounded => signedFraction rounded.value < Double.epsilon
    | none => (x.countedMagnitude / divisor.countedMagnitude).den == 1

/-- Whether a number counts as a multiple of a divisor. -/
def Number.isMultipleOf (n : Number) (divisor : Double) : Bool :=
  match n.toDouble? with
  | some x => x.isMultipleOf divisor
  | none => true

/-- Whether two numbers are so near to each other that they count as the same constant. -/
def Number.isNear (n m : Number) : Bool :=
  match n.toDouble?, m.toDouble? with
  | some a, some b =>
    let gap := if a.value < b.value then b.value - a.value else a.value - b.value
    (Double.nearest? false gap).any fun d => d.value < Double.epsilon
  | _, _ => false

/-- Whether a number is the zero with a sign. -/
def Number.isNegativeZero : Number → Bool
  | integer _ => false
  | double d => d.negative && d.isZero

namespace Json

mutual

/-- Whether zeros at the same places of two values have the same sign. -/
def sameZeros : Json → Json → Bool
  | num a, num b => a.isNegativeZero == b.isNegativeZero
  | arr a, arr b => sameZerosItems a b
  | obj a, obj b => sameZerosMembers a b
  | _, _ => true

/-- `sameZeros` item by item. -/
def sameZerosItems : List Json → List Json → Bool
  | a :: as, b :: bs => a.sameZeros b && sameZerosItems as bs
  | _, _ => true

/-- `sameZeros` member by member. -/
def sameZerosMembers : List (String × Json) → List (String × Json) → Bool
  | (_, a) :: as, (_, b) :: bs => a.sameZeros b && sameZerosMembers as bs
  | _, _ => true

end

/-- Whether no two values of a list are the same. -/
def distinctBy (same : Json → Json → Bool) : List Json → Bool
  | [] => true
  | v :: rest => !rest.any (same v) && distinctBy same rest

/-- Whether a value counts as a constant. -/
def isConstant : Json → Json → Bool
  | num n, num m => n.isNear m
  | v, w => v.equivalent w

/-- How many items an array can have before zeros are told apart by their sign. -/
def shortArray : Nat := 15

/-- Whether no two items of an array are equal. -/
def distinct (items : List Json) : Bool :=
  if items.length ≤ shortArray then distinctBy equivalent items
  else distinctBy (fun v w => v.equivalent w && v.sameZeros w) items

end Json

namespace Schema

/-- Reports a fault unless a check was passed. -/
def report (passed : Bool) (fault : Fault) : List Violation :=
  if passed then [] else [fault.violation]

/-- Whether a number is at least a limit, or greater than it if it is excluded. -/
def respectsMinimum (n limit : Number) (exclusive : Bool) : Bool :=
  if exclusive then limit.value < n.value else limit.value ≤ n.value

/-- Whether a number is at most a limit, or less than it if it is excluded. -/
def respectsMaximum (n limit : Number) (exclusive : Bool) : Bool :=
  if exclusive then n.value < limit.value else n.value ≤ limit.value

/-- Whether a member of an object is described by its name or by a pattern. -/
def describes (known : List (String × Schema)) (patterns : List (PropertyPattern × Schema))
    (name : String) : Bool :=
  known.any (fun e => e.1 = name) || patterns.any (fun e => e.1.occursIn name)

/-- How many accepted items decide whether there are as many as there have to be. -/
def decisiveCount (least : Nat) : (most : Option Nat) → Nat
  | none => max least 1
  | some most => most + 1

mutual

/-- The check of a value, given the checks that references ask for. -/
def check (target : Reference → Json → Check) : Schema → Json → Check
  | anything, _ => .finding []
  | nothing, v => .finding [(Fault.refused v).violation]
  | all parts, v => .inTurn (checksOfList target parts v)
  | reference r, v => target r v
  | types integers names, v =>
    .finding (report (names.any fun t => t.admits integers v) (.wrongType v names))
  | enum values, v => .finding (report (values.any v.equivalent) (.notListed v values))
  | const value, v => .finding (report (v.isConstant value) (.notConstant value))
  | atLeastNumber limit exclusive, v =>
    match v with
    | .num n => .finding (report (respectsMinimum n limit exclusive) (.tooSmall v limit exclusive))
    | _ => .finding []
  | atMostNumber limit exclusive, v =>
    match v with
    | .num n => .finding (report (respectsMaximum n limit exclusive) (.tooLarge v limit exclusive))
    | _ => .finding []
  | multipleOf divisor, v =>
    match v with
    | .num n => .finding (report (n.isMultipleOf divisor) (.notMultiple v divisor))
    | _ => .finding []
  | atLeast measure least, v =>
    match measure.count? v with
    | some n => .finding (report (least ≤ n) (.tooFew v measure least))
    | none => .finding []
  | atMost measure most, v =>
    match measure.count? v with
    | some n => .finding (report (n ≤ most) (.tooMany v measure most))
    | none => .finding []
  | uniqueItems, v => .finding (report (Json.distinct v.items) (.repeatedItems v))
  | required names, v =>
    match v with
    | .obj members => .finding <| names.flatMap fun name =>
      report (Json.lookup name members).isSome (.missingProperty name)
    | _ => .finding []
  | eachItem schema, v =>
    .inTurn (v.items.zipIdx.map fun (w, i) =>
      (check target schema w).under (Violation.underIndex i))
  | firstItems schemas, v => .inTurn (checksOfFirst target 0 schemas v.items)
  | laterItems first schema, v =>
    .inTurn ((v.items.zipIdx.drop first).map fun (w, i) =>
      (check target schema w).under (Violation.underIndex i))
  | noLaterItems first, v =>
    .finding (report (v.items.drop first).isEmpty (.unexpectedItems (v.items.drop first)))
  | contains least most schema, v =>
    match v with
    | .arr items =>
      .counting (decisiveCount least most) (items.map fun w => check target schema w) fun count =>
        report (least ≤ count && most.all (count ≤ ·)) (.noneContained v)
    | _ => .finding []
  | properties schemas, v => .inTurn (checksOfProperties target schemas v.members)
  | patternProperties schemas, v => .inTurn (checksOfPatterns target schemas v.members)
  | closed known patterns others, v =>
    let unexpected :=
      if others.isSome then []
      else (v.members.map Prod.fst).filter fun name => !describes known patterns name
    .inTurn <| (v.members.map fun (name, w) =>
        (Check.inTurn <| checksOfNamed target known name w
          ++ checksOfMatching target patterns name w
          ++ if describes known patterns name then []
            else [checkOfOthers target others name w]).under
          (Violation.underName name))
      ++ [.finding (report unexpected.isEmpty (.unexpectedProperties unexpected))]
  | noProperties, v =>
    match v.members with
    | [] => .finding []
    | (_, w) :: _ => .finding [(Fault.refused w).violation]
  | unnamed, v => .finding (report v.members.isEmpty (.refused v))
  | propertyNames schema, v =>
    .inTurn (v.members.map fun (name, _) =>
      (check target schema (.str name)).under fun violation => ⟨"", violation.message⟩)
  | anyOf schemas, v =>
    .counting 1 (checksOfList target schemas v) fun count =>
      report (count != 0) (.noChoice v .anyOf)
  | oneOf schemas, v =>
    .counting 2 (checksOfList target schemas v) fun count =>
      match count with
      | 0 => [(Fault.noChoice v .oneOf).violation]
      | 1 => []
      | _ => [(Fault.ambiguousChoice v).violation]
  | not source schema, v =>
    .choosing (check target schema v) (.finding [(Fault.notAllowed v source).violation])
      (.finding [])
  | ifPresent name schema, v =>
    if (v.member? name).isSome then check target schema v else .finding []
  | conditional test accepted refused, v =>
    .choosing (check target test v) (check target accepted v) (check target refused v)
  | pattern source p, v =>
    match v with
    | .str s =>
      match p.search s with
      | .found => .finding []
      | .missing => .finding [(Fault.noMatch v source).violation]
      | .givenUp => .finding [Fault.searchGivenUp.violation]
    | _ => .finding []
  | format f, v =>
    match v with
    | .str s => .finding (report (f.accepts s) (.wrongFormat v f.name))
    | _ => .finding []
  | content c, v =>
    match v with
    | .str s => .finding ((c.fault? s).toList.map Fault.violation)
    | _ => .finding []

/-- The check of a member that is not described, which is unexpected unless a schema is given. -/
def checkOfOthers (target : Reference → Json → Check) : Option Schema → String → Json → Check
  | none, name, _ => .early (Fault.unexpectedProperties [name]).violation
  | some schema, _, v => check target schema v

/-- The checks of a value by the schemas of a list. -/
def checksOfList (target : Reference → Json → Check) : List Schema → Json → List Check
  | [], _ => []
  | schema :: rest, v => check target schema v :: checksOfList target rest v

/-- The check of each item by the schema at its own position, the first one standing at the given
index. -/
def checksOfFirst (target : Reference → Json → Check) (index : Nat) :
    List Schema → List Json → List Check
  | schema :: schemas, v :: items =>
    (check target schema v).under (Violation.underIndex index)
      :: checksOfFirst target (index + 1) schemas items
  | _, _ => []

/-- The checks of the members that have the names of the schemas. -/
def checksOfProperties (target : Reference → Json → Check) :
    List (String × Schema) → List (String × Json) → List Check
  | [], _ => []
  | (name, schema) :: rest, members =>
    (match Json.lookup name members with
      | some v => [(check target schema v).under (Violation.underName name)]
      | none => [])
      ++ checksOfProperties target rest members

/-- The checks of the members whose names the patterns of the schemas match. -/
def checksOfPatterns (target : Reference → Json → Check) :
    List (PropertyPattern × Schema) → List (String × Json) → List Check
  | [], _ => []
  | (p, schema) :: rest, members =>
    ((members.filter fun e => p.occursIn e.1).map fun (name, v) =>
        (check target schema v).under (Violation.underName name))
      ++ checksOfPatterns target rest members

/-- The check of a value by the schema with a name. -/
def checksOfNamed (target : Reference → Json → Check) :
    List (String × Schema) → String → Json → List Check
  | [], _, _ => []
  | (k, schema) :: rest, name, v =>
    if k = name then [check target schema v] else checksOfNamed target rest name v

/-- The checks of a value by the schemas whose patterns match its name. -/
def checksOfMatching (target : Reference → Json → Check) :
    List (PropertyPattern × Schema) → String → Json → List Check
  | [], _, _ => []
  | (p, schema) :: rest, name, v =>
    (if p.occursIn name then [check target schema v] else [])
      ++ checksOfMatching target rest name v

end

end Schema

end LintConfig
