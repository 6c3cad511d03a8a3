import LintConfig.Pattern.Automaton
import LintConfig.Pattern.Moves
import LintConfig.Pattern.Trial

/-!
# Searching

`Pattern.search` says whether a pattern matches anywhere in a text.  For a pattern that is hard one
way after the other is tried: where there are two ways the preferred one is taken, and the other one
is kept for the case that it fails.  A search that has failed too often is given up.

What is still to do is a list of tasks.  No task holds more than a part of the pattern and what it
needs to go on, so a way that is kept is a list of tasks and a position.

**Ends of atomic parts.**  At such an end the ways are forgotten that have come up since its mark
was set, which is the last mark that is left.  The test of a conditional is atomic too.  Where it
fails, its end is never reached and its mark is left over: the next end uses this mark instead of
its own, and so on.
-/

namespace LintConfig

namespace Search

/-- What a search comes to. -/
inductive Outcome where
  | found
  | missing
  | givenUp
  deriving DecidableEq

/-- How often a search may fail and go on. -/
def maxFailures : Nat := 1000000

/-- The matches of a part of a pattern. -/
structure Part where
  /-- For each position whether a match starts there. -/
  isStart : Array Bool
  /-- The place after the preferred match that starts at such a place. -/
  follow : Place → Place

/-- Whether a match of the part starts at a position. -/
def Part.startsAt (p : Part) (i : Nat) : Bool := p.isStart[i]?.getD false

/-- What is to do on the way to a match. -/
inductive Task where
  | attempt (t : Trial Part)
  /-- Another round after so many, of which the last one started at a position that counts. -/
  | again (body : Trial Part) (rounds : Trial.Rounds) (count : Nat) (last : Option Nat)
  /-- The end of a group. -/
  | leave (group : Nat)
  /-- Goes on from a position. -/
  | goTo (position : Nat)
  /-- Keeps no other ways than these. -/
  | forget (others : List (List Task × Place))
  /-- Fails, and keeps no other ways than these. -/
  | refuse (others : List (List Task × Place))

/-- What is to do and where it is done. -/
abbrev Way := List Task × Place

/-- Where a step leads. -/
inductive Step where
  /-- On this way, with other ones in the order in which they are tried. -/
  | on (way : Way) (others : List Way)
  /-- Nowhere; the other ways are left. -/
  | failed (others : List Way)

/-- Another round, or what comes after the last one.  A round that has led nowhere is the last one
if there is no limit to their number. -/
def round (body : Trial Part) (rounds : Trial.Rounds) (count : Nat) (last : Option Nat)
    (todo : List Task) (here : Place) (others : List Way) : Step :=
  let counts := rounds.least ≤ count
  let next :=
    .attempt body ::
      .again body rounds (count + 1) (if counts then some here.position else none) :: todo
  if rounds.most = some count then .on (todo, here) others
  else if rounds.most.isNone && rounds.canStay && last = some here.position then
    .on (todo, here) others
  else if !counts then .on (next, here) others
  else if rounds.greedy then .on (next, here) ((todo, here) :: others)
  else .on (todo, here) ((next, here) :: others)

/-- The tasks after a mark has been left over, so that each end of an atomic part uses the mark of
the one before it. -/
def withMark (others : List Way) : List Task → List Task
  | [] => []
  | .forget ways :: rest => .forget others :: withMark ways rest
  | task :: rest => task :: withMark others rest

/-- The first step of a trial.  To know that there is a way through a part one need not walk it. -/
def attempt (text : Array Char) (t : Trial Part) (todo : List Task) (here : Place)
    (others : List Way) : Step :=
  match t with
  | .part p =>
    if p.startsAt here.position then .on (todo, p.follow here) others
    else .failed others
  | .seq first second => .on (.attempt first :: .attempt second :: todo, here) others
  | .alt left right => .on (.attempt left :: todo, here) ((.attempt right :: todo, here) :: others)
  | .iterate body rounds => round body rounds 0 none todo here others
  | .group number body => .on (.attempt body :: .leave number :: todo, here.enter number) others
  | .same number =>
    match here.again? text number with
    | some there => .on (todo, there) others
    | none => .failed others
  | .known number => if here.knows number then .on (todo, here) others else .failed others
  | .conditional test accepted refused =>
    .on (.attempt test :: .forget others :: .attempt accepted :: todo, here)
      ((.attempt refused :: withMark others todo, here) :: others)
  | .atomic body => .on (.attempt body :: .forget others :: todo, here) others
  | .around back holds body =>
    let others' := if holds then others else (todo, here) :: others
    if here.position < back then .failed others'
    else
      match body with
      | .part p =>
        let start := here.moveTo (here.position - back)
        let isThere := p.startsAt start.position
        if holds && isThere then .on (todo, (p.follow start).moveTo here.position) others
        else .failed (if isThere then others else others')
      | body =>
        let after := if holds then .goTo here.position else .refuse others
        .on (.attempt body :: after :: todo, here.moveTo (here.position - back)) others'

/-- The step of a task. -/
def step (text : Array Char) (task : Task) (todo : List Task) (here : Place) (others : List Way) :
    Step :=
  match task with
  | .attempt t => attempt text t todo here others
  | .again body rounds count last => round body rounds count last todo here others
  | .leave group => .on (todo, here.leave group) others
  | .goTo position => .on (todo, here.moveTo position) others
  | .forget others => .on (todo, here) others
  | .refuse others => .failed others

/-- Follows a way, and the other ways if it fails.  So many failures are left. -/
def follow (text : Array Char) : (fuel failures : Nat) → List Task → Place → List Way → Outcome
  | 0, _, _, _, _ => .givenUp
  | _ + 1, _, [], _, _ => .found
  | fuel + 1, failures, task :: todo, here, others =>
    match step text task todo here others with
    | .on (todo, here) others => follow text fuel failures todo here others
    | .failed [] => .missing
    | .failed ((todo, here) :: others) =>
      match failures with
      | 0 => .givenUp
      | failures + 1 => follow text fuel failures todo here others

/-- A bound on the steps that a trial takes without failing, in a text of so many characters. -/
def maxSteps (length : Nat) : Trial Part → Nat
  | .part _ => 1
  | .seq first second => maxSteps length first + maxSteps length second + 1
  | .alt left right => maxSteps length left + maxSteps length right + 1
  | .iterate body rounds =>
    (max rounds.least (rounds.most.getD 0) + length + 2) * (maxSteps length body + 1) + 1
  | .group _ body => maxSteps length body + 2
  | .same _ | .known _ => 1
  | .conditional test accepted refused =>
    maxSteps length test + maxSteps length accepted + maxSteps length refused + 2
  | .atomic body => maxSteps length body + 2
  | .around _ _ body => maxSteps length body + 2

/-- Searches a text for what a trial finds.  Each start is tried, the first one first. -/
def run (t : Trial Part) (text : Array Char) : Outcome :=
  let next (here : Place) : Place := here.moveTo (here.position + 1)
  let skip : Trial Part := .part ⟨Array.replicate text.size true, next⟩
  let t := Trial.seq (.iterate skip ⟨0, none, false, false⟩) t
  follow text ((maxFailures + 1) * (maxSteps text.size t + 1)) maxFailures [.attempt t] ⟨0, [], []⟩
    []

end Search

namespace Pattern

/-- The matches of a part in a text.  If there are groups in it whose matches are of interest, an
automaton is asked for them. -/
def part (text : Array Char) (p : Pattern) : Search.Part :=
  let moves := p.moves text
  let all := Positions.all text.size
  if p.numbers.isEmpty then
    let found := moves.into all
    ⟨found.starts.toArray text.size, fun here => here.moveTo (found.pick here.position)⟩
  else
    let automaton := p.shape.automaton
    ⟨(moves.starts all).toArray text.size, fun here =>
      (automaton.walk? text (here.without p.numbers)).getD here⟩

/-- Searches a text for the pattern. -/
def search (p : Pattern) (text : String) : Search.Outcome :=
  let text := text.toList.toArray
  if p.isHard then Search.run (p.trial.map (part text)) text
  else if (p.moves text).starts (.all text.size) = 0 then .missing
  else .found

/-- Whether a search of a text finds the pattern. -/
def occursIn (p : Pattern) (text : String) : Bool := p.search text = .found

end Pattern

end LintConfig
