import LintConfig.Pattern

/-!
# Matching

A match leads from a position of a text to a position.  `Pattern.moves` tells of a set of positions
from which other ones matches lead to them.  This is enough to say whether a pattern occurs in a
text, and it takes time for each round of a repetition but not for each pair of positions.

**Preference.**  `Moves.into` says which one of the matches that end in a given set is preferred:
each part of a pattern picks the first of its own from which the rest can be matched.

**Repetition.**  A round that does not lead on ends a repetition.  No more rounds than there are
positions can lead on, so counts are cut off there.
-/

namespace LintConfig

/-- A set of positions, as the number whose bits stand for the positions in the set. -/
abbrev Positions := Nat

namespace Positions

/-- The set of the positions of a text with a property. -/
def among (length : Nat) (holds : Nat → Bool) : Positions :=
  (List.range (length + 1)).foldr (fun i s => s * 2 + if holds i then 1 else 0) 0

/-- All positions of a text. -/
def all (length : Nat) : Positions := (1 <<< (length + 1)) - 1

/-- The positions of the first set that are not in the second. -/
def without (s t : Positions) : Positions := (s ||| t) ^^^ t

/-- So many rounds. -/
def exactly (round : Positions → Positions) : (n : Nat) → Positions → Positions
  | 0, s => s
  | n + 1, s => if s = 0 then 0 else exactly round n (round s)

/-- At most so many rounds.  Of the positions that have been reached, only those are of interest
that are new. -/
def atMost (round : Positions → Positions) : (n : Nat) → (new reached : Positions) → Positions
  | 0, _, reached => reached
  | n + 1, new, reached =>
    let new := (round new).without reached
    if new = 0 then reached else atMost round n new (reached ||| new)

/-- The sets for no round, at most one round and so on, up to one that holds all later ones. -/
def levels (round : Positions → Positions) : (n : Nat) → Positions → List Positions
  | 0, s => [s]
  | n + 1, s =>
    let next := s ||| round s
    if next = s then [s] else s :: levels round n next

/-- How many positions are looked up at once. -/
def chunk : Nat := 32

/-- For each position of a text whether it is in the set.  The set is cut into small ones. -/
def toArray (length : Nat) (s : Positions) : Array Bool :=
  (List.range (length / chunk + 1)).foldl
    (fun found n =>
      let bits := (s >>> (n * chunk)) % (1 <<< chunk)
      (List.range chunk).foldl (fun found i => found.push (bits.testBit i)) found)
    #[]

end Positions

/-- The preferred ones of the matches that end in a set. -/
structure Preference where
  /-- The positions at which there are such matches. -/
  starts : Positions
  /-- Where the preferred one of these matches ends that starts at such a position. -/
  pick : Nat → Nat

/-- How matches lead from sets of positions to sets of positions. -/
structure Moves where
  /-- The starts of the matches that end in a set. -/
  starts : Positions → Positions
  /-- The preferred ones of the matches that end in a set. -/
  into : Positions → Preference

namespace Moves

/-- No move from some positions, and no match from the others. -/
def stay (among : Positions) : Moves where
  starts s := s &&& among
  into s := ⟨s &&& among, id⟩

/-- A move to the next position from some positions. -/
def step (among : Positions) : Moves where
  starts s := (s >>> 1) &&& among
  into s := ⟨(s >>> 1) &&& among, (· + 1)⟩

/-- A match of the first, and then a match of the second. -/
def compose (first second : Moves) : Moves where
  starts s := first.starts (second.starts s)
  into s :=
    let after := second.into s
    let before := first.into after.starts
    ⟨before.starts, fun i => after.pick (before.pick i)⟩

/-- A match of the first, or else one of the second. -/
def either (first second : Moves) : Moves where
  starts s := first.starts s ||| second.starts s
  into s :=
    let left := first.into s
    let right := second.into s
    ⟨left.starts ||| right.starts,
      fun i => if left.starts.testBit i then left.pick i else right.pick i⟩

/-- Where the preferred round from a position ends after which others lead to the goal.  They do so
from `reached`, and `preference` is for the rounds that end there.  After a round that does not move
on, no other one follows. -/
def next? (round : Moves) (goal reached : Positions) (preference : Preference) (i : Nat) :
    Option Nat :=
  let stop? (p : Preference) : Option Nat := if p.starts.testBit i then some (p.pick i) else none
  if stop? preference = some i && !goal.testBit i then
    stop? (round.into (reached.without (1 <<< i)))
  else stop? preference

/-- Where the preferred rounds end that start at a position.  `next` says where a round ends after
which there are at most so many others. -/
def settle (greedy : Bool) (goal : Positions) (next : (left : Nat) → Nat → Option Nat) :
    (rounds : Nat) → Nat → Nat
  | 0, i => i
  | left + 1, i =>
    if !greedy && goal.testBit i then i
    else
      match next left i with
      | some stop => if stop = i then i else settle greedy goal next left stop
      | none => i

/-- The preferred ones of at most so many rounds that end in a set. -/
def upTo (round : Moves) (greedy : Bool) (most : Nat) (goal : Positions) : Preference :=
  let levels := (Positions.levels round.starts most goal).toArray
  let steps := levels.map fun reached => (reached, round.into reached)
  let last := levels.size - 1
  let next (left i : Nat) : Option Nat :=
    steps[min left last]?.bind fun (reached, preference) => next? round goal reached preference i
  ⟨levels[last]?.getD goal, settle greedy goal next most⟩

/-- The preferred ones of any number of rounds that end in a set of positions below a limit.  Where
they end is found out for each position, the last one first. -/
def anyNumber (round : Moves) (greedy : Bool) (limit : Nat) (goal : Positions) : Preference :=
  let reached := Positions.atMost round.starts limit goal goal
  let preference := round.into reached
  let stopAfter (stops : Array Nat) (i : Nat) : Nat := stops[limit - 1 - i]?.getD i
  let stops : Thunk (Array Nat) := Thunk.mk fun _ =>
    (List.range limit).foldl
      (fun stops n =>
        let i := limit - 1 - n
        let stop := if !greedy && goal.testBit i then i
          else
            match next? round goal reached preference i with
            | some stop => stopAfter stops stop
            | none => i
        stops.push stop)
      #[]
  ⟨reached, fun i => stopAfter stops.get i⟩

/-- The preferred ones of so many rounds that end in a set, the first round first. -/
def firsts (round : Moves) : (n : Nat) → (goal : Positions) → List Preference → List Preference
  | 0, _, found => found
  | n + 1, goal, found =>
    let preference := round.into goal
    firsts round n preference.starts (preference :: found)

/-- Rounds of matches: so many, and at most so many more or any number of them.  No more than
`limit` rounds lead on. -/
def rounds (round : Moves) (greedy : Bool) (least : Nat) (more : Option Nat) (limit : Nat) :
    Moves :=
  let least := min least limit
  let most := min (more.getD limit) limit
  { starts := fun s => Positions.exactly round.starts least (Positions.atMost round.starts most s s)
    into := fun s =>
      let last := if more.isSome then upTo round greedy most s else anyNumber round greedy limit s
      let firsts := firsts round least last.starts []
      ⟨(firsts.head?.map Preference.starts).getD last.starts,
        fun i => last.pick (firsts.foldl (fun i preference => preference.pick i) i)⟩ }

end Moves

namespace Pattern

/-- How matches of a pattern lead through a text.  A pattern that is hard has none of its own. -/
def moves (text : Array Char) : Pattern → Moves
  | empty => .stay (.all text.size)
  | one set => .step (.among text.size fun i => (text[i]?.map set.contains).getD false)
  | position condition => .stay (.among text.size fun i => condition.holdsAt text i)
  | seq first second => (moves text first).compose (moves text second)
  | alt left right => (moves text left).either (moves text right)
  | iterate body least most greedy =>
    (moves text body).rounds greedy least (most.map (· - least)) (text.size + 1)
  | group _ body => moves text body
  | held body => moves text body
  | same _ | known _ | conditional _ _ _ | atomic _ | around _ _ _ => .stay 0

end Pattern

end LintConfig
