import LintConfig.Schema.Violation

/-!
# Checks

A `Check` finds out what is wrong with a value.  It need not come to an end: a schema may ask of a
value what it asks of it anyway, and then there is no answer.

**Demand.**  A check is made for a verdict or for a report.  The first violation decides a verdict,
and nothing is looked at after it; a report is complete.

**Order.**  A check that consists of others makes them one after the other, and only those that are
needed for its answer.  So it comes to an end exactly if all of those do.
-/

namespace LintConfig

/-- What a check is made for. -/
inductive Demand where
  /-- To find out whether anything is wrong. -/
  | verdict
  /-- To find everything that is wrong. -/
  | report
  deriving DecidableEq

/-- Whether nothing more has to be found. -/
def Demand.isMet : Demand → List Violation → Bool
  | verdict, found => !found.isEmpty
  | report, _ => false

/-- What is found on demand, if the search comes to an end. -/
abbrev Check := Demand → Option (List Violation)

namespace Check

/-- The check that finds the given violations. -/
def finding (violations : List Violation) : Check := fun _ => some violations

/-- The check that finds a violation for a verdict and leaves the report of it to another one. -/
def early (violation : Violation) : Check
  | .verdict => some [violation]
  | .report => some []

/-- The check that does not come to an end. -/
def endless : Check := fun _ => none

/-- A check of a part of a value, as seen from the whole. -/
def under (place : Violation → Violation) (check : Check) : Check :=
  fun demand => (check demand).map (List.map place)

/-- Whether nothing is wrong. -/
def accepts? (check : Check) : Option Bool := (check .verdict).map List.isEmpty

/-- Checks one after the other. -/
def inTurn : List Check → Check
  | [], _ => some []
  | check :: rest, demand =>
    match check demand with
    | none => none
    | some found => if demand.isMet found then some found else (inTurn rest demand).map (found ++ ·)

/-- How many checks accept, counted no further than a limit. -/
def acceptances? : (limit : Nat) → List Check → Option Nat
  | 0, _ => some 0
  | _ + 1, [] => some 0
  | limit + 1, check :: rest =>
    match check.accepts? with
    | none => none
    | some true => (acceptances? limit rest).map (· + 1)
    | some false => acceptances? (limit + 1) rest

/-- What follows from how many checks accept. -/
def counting (limit : Nat) (checks : List Check) (judge : Nat → List Violation) : Check :=
  fun _ => (acceptances? limit checks).map judge

/-- One of two checks, by the verdict of a third one. -/
def choosing (test accepted refused : Check) : Check := fun demand =>
  match test.accepts? with
  | none => none
  | some true => accepted demand
  | some false => refused demand

end Check

end LintConfig
