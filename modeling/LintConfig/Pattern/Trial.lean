import LintConfig.Pattern

/-!
# Trials

Automata know nothing of looks around, atomic parts, references, conditionals and the boundaries of
words.  A pattern with one of these is hard: it is matched by trying one way after the other, and
only parts of it are left to automata.  `Pattern.trial` says what is tried, and which parts these
are.  A group may be inside of such a part even if something refers to it.

**Sequences.**  The steady parts at the beginning, which are not hard and have matches of one width
only, are left to one automaton, and as much as possible at the end to another one.

**Looks behind.**  Each alternative is looked for on its own, from as far back as it is wide.
-/

namespace LintConfig

/-- How often something is repeated. -/
structure Trial.Rounds where
  /-- The least number of rounds. -/
  least : Nat
  /-- The greatest number of rounds, if there is one. -/
  most : Option Nat
  /-- Whether as many rounds as possible are preferred. -/
  greedy : Bool
  /-- Whether there may be rounds that do not move on. -/
  canStay : Bool

/-- What is tried, with parts that are matched at once. -/
inductive Trial (α : Type) where
  | part (p : α)
  | seq (first second : Trial α)
  | alt (left right : Trial α)
  | iterate (body : Trial α) (rounds : Trial.Rounds)
  /-- The group of a number. -/
  | group (number : Nat) (body : Trial α)
  /-- Once more what the group of a number has matched. -/
  | same (number : Nat)
  /-- A position where the group of a number has begun before. -/
  | known (number : Nat)
  /-- The first way through the test and then the second trial, or the third one where no way leads
  through the test. -/
  | conditional (test accepted refused : Trial α)
  /-- Only the first way through the body that is found. -/
  | atomic (body : Trial α)
  /-- A position from which there is a way through the body, or is none.  The body is tried from so
  many characters further back. -/
  | around (back : Nat) (holds : Bool) (body : Trial α)

namespace Trial

/-- The same trial with other parts. -/
def map {α β : Type} (f : α → β) : Trial α → Trial β
  | part p => part (f p)
  | seq first second => seq (first.map f) (second.map f)
  | alt left right => alt (left.map f) (right.map f)
  | iterate body rounds => iterate (body.map f) rounds
  | group number body => group number (body.map f)
  | same number => same number
  | known number => known number
  | conditional test accepted refused =>
    conditional (test.map f) (accepted.map f) (refused.map f)
  | atomic body => atomic (body.map f)
  | around back holds body => around back holds (body.map f)

/-- The parts of a trial in order. -/
def parts {α : Type} : Trial α → List α
  | part p => [p]
  | seq first second => first.parts ++ second.parts
  | alt left right => left.parts ++ right.parts
  | iterate body _ => body.parts
  | group _ body => body.parts
  | same _ | known _ => []
  | conditional test accepted refused => test.parts ++ accepted.parts ++ refused.parts
  | atomic body => body.parts
  | around _ _ body => body.parts

/-- One trial after the other. -/
def inSequence : List (Trial Pattern) → Trial Pattern
  | [] => part .empty
  | [t] => t
  | t :: rest => seq t (inSequence rest)

end Trial

namespace Pattern

/-- Whether matching the pattern is more than automata can do. -/
def isHard : Pattern → Bool
  | empty | one _ => false
  | position condition =>
    [.wordBoundary, .noWordBoundary, .wordStart, .wordStop].contains condition
  | seq first second => isHard first || isHard second
  | alt left right => isHard left || isHard right
  | iterate body _ _ _ => isHard body
  | group _ body => isHard body
  | held body => isHard body
  | same _ | known _ | conditional _ _ _ | atomic _ | around _ _ _ => true

/-- Whether an automaton can match the pattern, and all its matches are of the same width. -/
def isSteady (p : Pattern) : Bool := p.width?.isSome && !p.isHard

/-- A part of a sequence, with the trial for it in case that it is divided. -/
abbrev Piece := Pattern × Trial Pattern

namespace Piece

/-- The trial for patterns that one automaton matches, if there are any. -/
def together (pieces : List Piece) : List (Trial Pattern) :=
  if pieces.isEmpty then [] else [.part (inSequence (pieces.map Prod.fst))]

/-- The trial for a sequence.  If it has to be divided, no automaton is left with matches of several
widths. -/
def trial (divided : Bool) (pieces : List Piece) : Trial Pattern :=
  let isEasy (piece : Piece) := if divided then piece.1.isSteady else !piece.1.isHard
  match pieces with
  | [(p, t)] => if divided || p.isHard then t else .part p
  | pieces =>
    if !divided && pieces.all isEasy then .inSequence (together pieces)
    else
      let first := pieces.takeWhile fun piece => piece.1.isSteady
      let rest := pieces.drop first.length
      let last := (rest.reverse.takeWhile isEasy).reverse
      let middle := rest.take (rest.length - last.length)
      .inSequence (together first ++ middle.map Prod.snd ++ together last)

/-- The trial for what may be a choice, which is divided then. -/
def alternatives (divided : Bool) : List Piece → Trial Pattern
  | [(.alt _ _, t)] => t
  | [(.held _, t)] => t
  | pieces => trial divided pieces

/-- The trial for the rest of a choice. -/
def otherwise (divided : Bool) : List Piece → Trial Pattern
  | [(.alt _ _, t)] => t
  | pieces => trial divided pieces

end Piece

/-- The trial for a look behind, with the trial for what is looked for. -/
def behind (holds : Bool) : Pattern → Trial Pattern → Trial Pattern
  | alt left right, .alt first second =>
    let found := Trial.around ((width? left).getD 0) holds first
    if holds then .alt found (behind holds right second)
    else .seq found (behind holds right second)
  | p, t => .around ((width? p).getD 0) holds t

/-- The parts of a pattern that is read as a sequence. -/
def pieces (divided : Bool) : Pattern → List Piece
  | seq first second => (first, Piece.trial true (pieces true first)) :: pieces true second
  | alt left right =>
    [(alt left right, .alt (Piece.trial divided (pieces divided left))
      (Piece.otherwise divided (pieces divided right)))]
  | iterate body least most greedy =>
    let inner := divided || (least, most) ≠ (0, some 1)
    [(iterate body least most greedy,
      .iterate (Piece.trial inner (pieces inner body)) ⟨least, most, greedy, body.canStay⟩)]
  | group number body =>
    let inner := Piece.trial divided (pieces divided body)
    [(group number body, match number with
      | some n => .group n inner
      | none => inner)]
  | same number => [(same number, .same number)]
  | known number => [(known number, .known number)]
  | conditional test accepted refused =>
    [(conditional test accepted refused,
      .conditional (Piece.trial divided (pieces divided test))
        (Piece.trial divided (pieces divided accepted))
        (Piece.trial divided (pieces divided refused)))]
  | held body => [(held body, Piece.alternatives divided (pieces divided body))]
  | atomic body => [(atomic body, .atomic (Piece.trial false (pieces false body)))]
  | around ahead holds body =>
    let inner := pieces false body
    [(around ahead holds body,
      if ahead then .around 0 holds (Piece.trial false inner)
      else behind holds body.released (Piece.alternatives false inner))]
  | p => [(p, .part p)]

/-- What is tried to match a pattern. -/
def trial (p : Pattern) : Trial Pattern := Piece.trial p.isHard (pieces p.isHard p)

end Pattern

end LintConfig
