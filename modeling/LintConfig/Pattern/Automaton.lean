import Std.Data.HashSet
import LintConfig.Pattern.Place
import LintConfig.Pattern.Shape

/-!
# Automata

An automaton goes through a text from state to state.  `Shape.automaton` builds one, and
`Automaton.walk?` follows it to the end of the preferred match and tells what the groups with
numbers have matched.

**Preference.**  From a state that has several next ones the preferred one is tried first.  No state
is entered twice at one position: what can be done from there has been tried before, or is being
tried.  So a round of a repetition that stays where it is follows no other one, and the groups keep
what they have matched before.

**Repetitions** are written out, with the states of the body once for each round that is counted.
Where there is no limit, the last round leads back to its own start.
-/

namespace LintConfig

/-- What is done in a state of an automaton, and which states come next. -/
inductive Automaton.State where
  /-- Reads a character from ranges of code points. -/
  | read (ranges : List (Nat × Nat)) (next : Nat)
  /-- Goes on where something holds. -/
  | check (condition : Pattern.Condition) (next : Nat)
  /-- The start of the group of a number. -/
  | enter (group : Nat) (next : Nat)
  /-- The end of the group of a number. -/
  | leave (group : Nat) (next : Nat)
  /-- Goes on with one of these states, the preferred one first. -/
  | choose (nexts : List Nat)
  /-- The end of the match. -/
  | accept

/-- An automaton, with the number of its first state. -/
structure Automaton where
  states : Array Automaton.State
  first : Nat

namespace Automaton

/-! ## Walking through a text -/

/-- The states that come next at a place, with the places where they are entered. -/
def State.nexts (text : Array Char) (here : Place) : State → List (Nat × Place)
  | read ranges next =>
    match text[here.position]? with
    | some c =>
      if ranges.any fun (low, high) => low ≤ c.toNat && c.toNat ≤ high then
        [(next, here.moveTo (here.position + 1))]
      else []
    | none => []
  | check condition next =>
    if condition.holdsAt text here.position then [(next, here)] else []
  | enter group next => [(next, here.enter group)]
  | leave group next => [(next, here.leave group)]
  | choose nexts => nexts.map fun next => (next, here)
  | accept => []

/-- The most ways on which a state leads on. -/
def State.wayCount : State → Nat
  | choose nexts => nexts.length
  | accept => 0
  | _ => 1

/-- Follows the first of some ways, and the others if it fails.  No state is entered at a position
where it has been seen. -/
def follow (states : Array State) (text : Array Char) :
    (fuel : Nat) → (ways : List (Nat × Place)) → (seen : Std.HashSet (Nat × Nat)) → Option Place
  | 0, _, _ => none
  | _ + 1, [], _ => none
  | fuel + 1, (state, here) :: others, seen =>
    if seen.contains (state, here.position) then follow states text fuel others seen
    else
      match states[state]? with
      | some .accept => some here
      | some s =>
        follow states text fuel (s.nexts text here ++ others) (seen.insert (state, here.position))
      | none => follow states text fuel others seen

/-- The place after the preferred match that starts at a place.  As no state is entered twice at a
position, there are no more ways than the states have steps at all positions, and the first one. -/
def walk? (a : Automaton) (text : Array Char) (here : Place) : Option Place :=
  let steps := a.states.foldl (fun n s => n + s.wayCount) 0
  follow a.states text (steps * (text.size + 1) + 2) [(a.first, here)] ∅

/-! ## Fragments -/

/-- Adds states that match something and then go on with a given state.  It says which one of them
comes first. -/
abbrev Fragment := (next : Nat) → Array State → Nat × Array State

namespace Fragment

/-- No states. -/
def nothing : Fragment := fun next states => (next, states)

/-- A single state. -/
def single (state : (next : Nat) → State) : Fragment := fun next states =>
  (states.size, states.push (state next))

/-- One fragment and then another one. -/
def andThen (first second : Fragment) : Fragment := fun next states =>
  let (middle, states) := second next states
  first middle states

/-- One of some fragments, the first one being preferred. -/
def choice (fragments : List Fragment) : Fragment := fun next states =>
  let (starts, states) := fragments.foldr
    (fun fragment (starts, states) =>
      let (start, states) := fragment next states
      (start :: starts, states))
    (([] : List Nat), states)
  (states.size, states.push (.choose starts))

/-- Another round that starts in a state, or what comes next. -/
def roundOr (greedy : Bool) (start next : Nat) : State :=
  .choose (if greedy then [start, next] else [next, start])

/-- So many rounds. -/
def exactly (round : Fragment) : (n : Nat) → Fragment
  | 0 => nothing
  | n + 1 => round.andThen (exactly round n)

/-- At most so many rounds. -/
def atMost (round : Fragment) (greedy : Bool) : (n : Nat) → Fragment
  | 0 => nothing
  | n + 1 => fun next states =>
    let (start, states) := round.andThen (atMost round greedy n) next states
    (states.size, states.push (roundOr greedy start next))

/-- At least one round.  After each of them comes the state that is set last. -/
def atLeastOne (round : Fragment) (greedy : Bool) : Fragment := fun next states =>
  let after := states.size
  let (start, states) := round after (states.push .accept)
  (start, states.setIfInBounds after (roundOr greedy start next))

/-- Any number of rounds.  If rounds may stay where they are, the first one is entered from a state
of its own. -/
def anyNumber (round : Fragment) (greedy canStay : Bool) : Fragment := fun next states =>
  let (start, after) := atLeastOne round greedy next states
  if canStay then (after.size, after.push (roundOr greedy start next)) else (states.size, after)

/-- Rounds, of which there are at least so many, and at most so many if that is given. -/
def rounds (round : Fragment) (greedy canStay : Bool) (least : Nat) (most : Option Nat) :
    Fragment :=
  match most, least with
  | some most, least => (exactly round least).andThen (atMost round greedy (most - least))
  | none, 0 => anyNumber round greedy canStay
  | none, least + 1 => (exactly round least).andThen (atLeastOne round greedy)

end Fragment

end Automaton

namespace Shape

open Automaton

mutual

/-- The states for a shape. -/
def fragment : Shape → Fragment
  | empty => .nothing
  | text chars =>
    chars.foldr
      (fun c rest => (Fragment.single (.read [(c.toNat, c.toNat)])).andThen rest) .nothing
  | set ranges => .single (.read ranges)
  | position condition => .single (.check condition)
  | group number body =>
    match number with
    | some n => (Fragment.single (.enter n)).andThen (body.fragment.andThen (.single (.leave n)))
    | none => body.fragment
  | iterate body least most greedy =>
    body.fragment.rounds greedy ((body.least?.getD 0) == 0) least most
  | seq parts => (fragments parts).foldr Fragment.andThen .nothing
  | choice parts => .choice (fragments parts)

/-- The states for each of the shapes. -/
def fragments : List Shape → List Fragment
  | [] => []
  | p :: rest => p.fragment :: fragments rest

end

/-- The automaton for a shape. -/
def automaton (p : Shape) : Automaton :=
  let (first, states) := p.fragment 0 #[.accept]
  ⟨states, first⟩

end Shape

end LintConfig
