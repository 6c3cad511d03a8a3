import LintConfig.Pattern.Alphabet

/-!
# Patterns

A `Pattern` is a regular expression with anchors, atomic parts, looks at what is around, references
to its groups, and conditionals.

A match starts at a position of a text and ends at one.  Here are the conditions on single positions
and the widths of matches.
-/

namespace LintConfig

/-- What can be asked of a position without moving on. -/
inductive Pattern.Condition where
  /-- The start of the text. -/
  | start
  /-- The end of the text. -/
  | stop
  /-- The start of a line. -/
  | lineStart
  /-- The end of a line. -/
  | lineStop
  /-- A word character on one side only. -/
  | wordBoundary
  /-- Word characters on both sides or on none. -/
  | noWordBoundary
  /-- A word character on the right side only. -/
  | wordStart
  /-- A word character on the left side only. -/
  | wordStop
  deriving DecidableEq

/-- A regular expression. -/
inductive Pattern where
  | empty
  /-- One character of a set. -/
  | one (set : CharSet)
  /-- A position at which something holds. -/
  | position (condition : Pattern.Condition)
  | seq (first second : Pattern)
  | alt (left right : Pattern)
  /-- At least `least` repetitions, and at most `most` of them if that is given; as many as possible
  are preferred if it is greedy. -/
  | iterate (body : Pattern) (least : Nat) (most : Option Nat) (greedy : Bool)
  /-- A group that is counted.  It has a number if something refers to it. -/
  | group (number : Option Nat) (body : Pattern)
  /-- Once more what the group of a number has matched. -/
  | same (number : Nat)
  /-- A position where the group of a number has begun before. -/
  | known (number : Nat)
  /-- The second pattern after the preferred match of the first one, or the third one where there is
  no match of the first one. -/
  | conditional (test accepted refused : Pattern)
  /-- A group that only holds its body together. -/
  | held (body : Pattern)
  /-- Only the preferred match of the body. -/
  | atomic (body : Pattern)
  /-- A position from which the body matches, onwards if it looks ahead and backwards if not; or a
  position from which it does not match. -/
  | around (ahead : Bool) (holds : Bool) (body : Pattern)

namespace Pattern

/-- One pattern after the other. -/
def inSequence : List Pattern → Pattern
  | [] => empty
  | [p] => p
  | p :: rest => seq p (inSequence rest)

/-- The same pattern with numbers for none but the given groups. -/
def keepNumbers (numbers : List Nat) : Pattern → Pattern
  | seq first second => seq (keepNumbers numbers first) (keepNumbers numbers second)
  | alt left right => alt (keepNumbers numbers left) (keepNumbers numbers right)
  | iterate body least most greedy => iterate (keepNumbers numbers body) least most greedy
  | group number body => group (number.filter numbers.contains) (keepNumbers numbers body)
  | held body => held (keepNumbers numbers body)
  | conditional test accepted refused =>
    conditional (keepNumbers numbers test) (keepNumbers numbers accepted)
      (keepNumbers numbers refused)
  | atomic body => atomic (keepNumbers numbers body)
  | around ahead holds body => around ahead holds (keepNumbers numbers body)
  | p => p

/-- The numbers of the groups in a pattern. -/
def numbers : Pattern → List Nat
  | seq first second => numbers first ++ numbers second
  | alt left right => numbers left ++ numbers right
  | iterate body _ _ _ => numbers body
  | group number body => number.toList ++ numbers body
  | conditional test accepted refused => numbers test ++ numbers accepted ++ numbers refused
  | held body => numbers body
  | atomic body => numbers body
  | around _ _ body => numbers body
  | empty | one _ | position _ | same _ | known _ => []

/-- What a group holds that only holds it together. -/
def released : Pattern → Pattern
  | held body => body
  | p => p

/-! ## Positions -/

/-- Whether a word character stands at an index. -/
def isWordAt (text : Array Char) (i : Nat) : Bool :=
  match text[i]? with
  | some c => CharSet.anyWord.contains c
  | none => false

/-- Whether a word character stands before a position. -/
def isWordBefore (text : Array Char) (i : Nat) : Bool := i != 0 && isWordAt text (i - 1)

/-- Whether a condition holds at a position of a text. -/
def Condition.holdsAt (text : Array Char) (i : Nat) : Condition → Bool
  | start => i == 0
  | stop => i == text.size
  | lineStart => i == 0 || text[i - 1]? == some '\n'
  | lineStop => i == text.size || text[i]? == some '\n'
  | wordBoundary => isWordBefore text i != isWordAt text i
  | noWordBoundary => isWordBefore text i == isWordAt text i
  | wordStart => !isWordBefore text i && isWordAt text i
  | wordStop => isWordBefore text i && !isWordAt text i

/-! ## Widths -/

/-- The number of characters of every match, if it is the same for all. -/
def width? : Pattern → Option Nat
  | empty | position _ | known _ | around _ _ _ => some 0
  | one _ => some 1
  | seq first second =>
    match width? first, width? second with
    | some a, some b => some (a + b)
    | _, _ => none
  | alt left right =>
    match width? left, width? right with
    | some a, some b => if a = b then some a else none
    | _, _ => none
  | iterate body least most _ => if most = some least then (width? body).map (· * least) else none
  | group _ body => width? body
  | same _ => none
  | conditional test accepted refused =>
    match width? test, width? accepted, width? refused with
    | some a, some b, some c => if a + b = c then some c else none
    | _, _, _ => none
  | held body => width? body
  | atomic body => width? body

/-- Whether there may be a match that does not move on. -/
def canStay : Pattern → Bool
  | one _ => false
  | seq first second => canStay first && canStay second
  | alt left right => canStay left || canStay right
  | iterate body least _ _ => least == 0 || canStay body
  | group _ body => canStay body
  | conditional test accepted refused =>
    (canStay test && canStay accepted) || canStay refused
  | held body => canStay body
  | atomic body => canStay body
  | empty | position _ | same _ | known _ | around _ _ _ => true

end Pattern

end LintConfig
