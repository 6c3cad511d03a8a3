/-!
# Places of a search

A search walks through a text.  A `Place` is where it has come to, together with what the groups of
the pattern have matched on the way there.

**Groups.**  The start of a group is known when its body begins, and its end when its body is done.
A group that begins once more keeps the end of its last match until then.  Groups inside of what is
matched at once are known when all of it is done, and those that have no part in the match are
forgotten.
-/

namespace LintConfig

/-- A position of a text, and the groups on the way there. -/
structure Place where
  position : Nat
  /-- Where groups have begun, by their numbers. -/
  starts : List (Nat × Nat) := []
  /-- Where groups have ended, by their numbers. -/
  stops : List (Nat × Nat) := []

namespace Place

/-- The same list with another position for a group. -/
def put (group position : Nat) (known : List (Nat × Nat)) : List (Nat × Nat) :=
  (group, position) :: known.filter fun (other, _) => other != group

/-- The place at another position, with the same groups. -/
def moveTo (p : Place) (position : Nat) : Place := { p with position }

/-- The place where a group has begun. -/
def enter (p : Place) (group : Nat) : Place := { p with starts := put group p.position p.starts }

/-- The place where a group has ended. -/
def leave (p : Place) (group : Nat) : Place := { p with stops := put group p.position p.stops }

/-- The place where some groups have no match. -/
def without (p : Place) (groups : List Nat) : Place :=
  let others (known : List (Nat × Nat)) : List (Nat × Nat) :=
    known.filter fun (group, _) => !groups.contains group
  { p with starts := others p.starts, stops := others p.stops }

/-- Whether a group has begun.  The whole pattern, which has the number zero, has. -/
def knows (p : Place) (group : Nat) : Bool := group == 0 || (p.starts.lookup group).isSome

/-- Where the match of a group begins and where it ends, if both are known. -/
def captured? (p : Place) (group : Nat) : Option (Nat × Nat) :=
  match p.starts.lookup group, p.stops.lookup group with
  | some start, some stop => if start ≤ stop then some (start, stop) else none
  | _, _ => none

/-- The place after the text that a group has matched, if this text comes here once more. -/
def again? (p : Place) (text : Array Char) (group : Nat) : Option Place :=
  (p.captured? group).bind fun (start, stop) =>
    if Nat.all (stop - start) fun k _ => text[p.position + k]? == text[start + k]? then
      some (p.moveTo (p.position + (stop - start)))
    else none

end Place

end LintConfig
