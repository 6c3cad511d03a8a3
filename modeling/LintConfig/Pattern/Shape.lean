import LintConfig.Pattern
import LintConfig.Pattern.Encoding

/-!
# Shapes of patterns

An automaton is not built from a pattern as it stands, but from its `Shape`: the sequence of single
characters is one text, a choice between characters or between sets is one set, what all parts of a
choice begin with stands before it, and repetitions that change nothing are left out.

Looks around, atomic parts, references and conditionals have no shape of their own, since automata
know nothing of them.
-/

namespace LintConfig

/-- What an automaton is built from. -/
inductive Shape where
  | empty
  /-- Characters one after the other, at least one. -/
  | text (chars : List Char)
  /-- One character from ranges of code points, which hold none or more than one. -/
  | set (ranges : List (Nat × Nat))
  /-- A position at which something holds. -/
  | position (condition : Pattern.Condition)
  /-- A group that is counted.  It has a number if something refers to it. -/
  | group (number : Option Nat) (body : Shape)
  /-- At least `least` repetitions, and at most `most` of them if that is given. -/
  | iterate (body : Shape) (least : Nat) (most : Option Nat) (greedy : Bool)
  /-- One after the other. -/
  | seq (parts : List Shape)
  /-- One of these. -/
  | choice (parts : List Shape)

namespace Shape

/-! ## Questions about shapes -/

mutual

/-- Whether two shapes are the same.  Two groups are not, since they are counted apart. -/
def same : Shape → Shape → Bool
  | empty, empty => true
  | text cs, text ds => cs == ds
  | set r, set s => r == s
  | position c, position d => c = d
  | iterate p m n g, iterate q m' n' g' => same p q && m == m' && n == n' && g == g'
  | seq ps, seq qs => sameList ps qs
  | choice ps, choice qs => sameList ps qs
  | _, _ => false

/-- Whether two lists hold the same shapes in the same order. -/
def sameList : List Shape → List Shape → Bool
  | [], [] => true
  | p :: ps, q :: qs => same p q && sameList ps qs
  | _, _ => false

end

mutual

/-- The number of shapes in a shape, itself included. -/
def count : Shape → Nat
  | group _ body => body.count + 1
  | iterate body _ _ _ => body.count + 1
  | seq parts => countOfList parts + 1
  | choice parts => countOfList parts + 1
  | _ => 1

/-- The number of shapes in a list and inside them. -/
def countOfList : List Shape → Nat
  | [] => 0
  | p :: rest => p.count + countOfList rest

end

mutual

/-- Whether no match moves on. -/
def staysPut : Shape → Bool
  | empty | position _ => true
  | text _ | set _ => false
  | group _ body => body.staysPut
  | iterate body _ most _ => most.isSome && body.staysPut
  | seq parts => allStayPut parts
  | choice parts => allStayPut parts

/-- Whether no match of any of the shapes moves on. -/
def allStayPut : List Shape → Bool
  | [] => true
  | p :: rest => p.staysPut && allStayPut rest

end

mutual

/-- The least number of characters of a match, if there are matches. -/
def least? : Shape → Option Nat
  | empty | position _ => some 0
  | text chars => some chars.length
  | set ranges => if ranges.isEmpty then none else some 1
  | group _ body => body.least?
  | iterate body least _ _ => body.least?.map (· * least)
  | seq parts => (leastOfList? parts).map fun found => found.foldl (· + ·) 0
  | choice parts => (leastOfList? parts).bind List.min?

/-- The least numbers of characters for each of the shapes, if all have matches. -/
def leastOfList? : List Shape → Option (List Nat)
  | [] => some []
  | p :: rest =>
    match p.least?, leastOfList? rest with
    | some n, some found => some (n :: found)
    | _, _ => none

end

mutual

/-- Whether a condition holds wherever a match begins, as far as one can tell from the parts. -/
def opensWith (condition : Pattern.Condition) : Shape → Bool
  | position c => c = condition
  | group _ body => body.opensWith condition
  | iterate body least _ _ => least != 0 && body.opensWith condition
  | seq parts => firstOpensWith condition parts
  | choice parts => allOpenWith condition parts
  | _ => false

/-- `opensWith` for the sequence of shapes. -/
def firstOpensWith (condition : Pattern.Condition) : List Shape → Bool
  | [] => false
  | p :: rest => p.opensWith condition || (p.staysPut && firstOpensWith condition rest)

/-- `opensWith` for each of the shapes. -/
def allOpenWith (condition : Pattern.Condition) : List Shape → Bool
  | [] => true
  | p :: rest => p.opensWith condition && allOpenWith condition rest

end

mutual

/-- Whether a condition holds wherever a match ends, as far as one can tell from the parts. -/
def closesWith (condition : Pattern.Condition) : Shape → Bool
  | position c => c = condition
  | group _ body => body.closesWith condition
  | iterate body least _ _ => least != 0 && body.closesWith condition
  | seq parts => lastClosesWith condition parts
  | choice parts => allCloseWith condition parts
  | _ => false

/-- `closesWith` for the sequence of shapes. -/
def lastClosesWith (condition : Pattern.Condition) : List Shape → Bool
  | [] => false
  | p :: rest => lastClosesWith condition rest || (allStayPut rest && p.closesWith condition)

/-- `closesWith` for each of the shapes. -/
def allCloseWith (condition : Pattern.Condition) : List Shape → Bool
  | [] => true
  | p :: rest => p.closesWith condition && allCloseWith condition rest

end

/-! ## Building shapes -/

/-- The characters of ranges: a text if there is only one. -/
def ofRanges (ranges : List (Nat × Nat)) : Shape :=
  match ranges with
  | [(low, high)] => if low = high then text [Char.ofNat low] else set ranges
  | ranges => set ranges

/-- The shapes that stand one after the other in a shape. -/
def steps : Shape → List Shape
  | empty => []
  | seq parts => parts
  | p => [p]

/-- Puts a shape in front of others.  Texts that follow each other are joined. -/
def cons : Shape → List Shape → List Shape
  | text cs, text ds :: rest => text (cs ++ ds) :: rest
  | p, rest => p :: rest

/-- One shape and then another one. -/
def andThen (first second : Shape) : Shape :=
  match first.steps.foldr cons second.steps with
  | [] => empty
  | [p] => p
  | parts => seq parts

/-- One after the other. -/
def sequence (parts : List Shape) : Shape := parts.foldr andThen empty

/-- The range of a single character, if the shape is one. -/
def characterRange? : Shape → Option (Nat × Nat)
  | text [c] => some (c.toNat, c.toNat)
  | _ => none

/-- The ranges of a set, if the shape is one. -/
def setRanges? : Shape → Option (List (Nat × Nat))
  | set ranges => some ranges
  | _ => none

/-- The parts of a sequence, if the shape is one. -/
def parts? : Shape → Option (List Shape)
  | seq parts => some parts
  | _ => none

/-- How many shapes two lists have in common at their beginnings. -/
def commonLength : List Shape → List Shape → Nat
  | p :: ps, q :: qs => if p.same q then commonLength ps qs + 1 else 0
  | _, _ => 0

/-- One of these.  What all sequences among them begin with is taken out, which leaves a choice of
fewer shapes; this bounds the fuel. -/
def chooseWithin : (fuel : Nat) → List Shape → Shape
  | 0, parts => choice parts
  | fuel + 1, parts =>
    let flat := parts.flatMap fun
      | choice parts => parts
      | p => [p]
    match flat with
    | [] => set []
    | [p] => p
    | p :: rest =>
      match flat.mapM characterRange?, flat.mapM setRanges?, flat.mapM parts? with
      | some ranges, _, _ => ofRanges (CharSet.ofRanges ranges).ranges
      | _, some ranges, _ => set (CharSet.ofRanges ranges.flatten).ranges
      | _, _, some (first :: others) =>
        let n := others.foldl (fun n l => min n (commonLength first l)) first.length
        if n = 0 then choice flat
        else
          let rests := (first :: others).map fun l => sequence (l.drop n)
          sequence (first.take n ++ [chooseWithin fuel rests])
      | _, _, _ => choice (p :: rest)

/-- One of these. -/
def choose : List Shape → Shape
  | [p] => p
  | parts => chooseWithin (countOfList parts) parts

/-- Repetitions.  What does not move on need not be repeated. -/
def repeated (body : Shape) (least : Nat) (most : Option Nat) (greedy : Bool) : Shape :=
  let (least, most) :=
    if body.staysPut then (min least 1, some (min (most.getD 1) 1)) else (least, most)
  if most = some 0 then empty
  else if least = 1 ∧ most = some 1 then body
  else iterate body least most greedy

end Shape

namespace Pattern

/-- The shapes of the alternatives of a pattern. -/
def shapes : Pattern → List Shape
  | empty | same _ | known _ => [.empty]
  | one set => [.ofRanges set.ranges]
  | position condition => [.position condition]
  | seq first second => [(Shape.choose (shapes first)).andThen (.choose (shapes second))]
  | alt left right => .choose (shapes left) :: shapes right
  | iterate body least most greedy => [.repeated (.choose (shapes body)) least most greedy]
  | group number body => [.group number (.choose (shapes body))]
  | held body => [.choose (shapes body)]
  | atomic body => [.choose (shapes body)]
  | around _ _ body => [.choose (shapes body)]
  | conditional test _ _ => [.choose (shapes test)]

/-- The shape of a pattern. -/
def shape (p : Pattern) : Shape := .choose p.shapes

end Pattern

end LintConfig
