/-!
# Violations

What a compiled schema reports about a value: where it is wrong, and in which way.

The place is a JSON pointer.  It is built from the inside out: a check knows nothing of where its
value stands, and whoever looked into an array or object puts the item or member in front of the
places found inside (`Violation.under`).
-/

namespace LintConfig

/-- One failed check of a value. -/
structure Violation where
  /-- The JSON pointer to the value, empty for the outermost one. -/
  path : String
  /-- What is wrong with it. -/
  message : String
  deriving DecidableEq

namespace Violation

/-- A name as a segment of a JSON pointer: the tilde and the slash are escaped. -/
def pointerSegment (name : String) : String :=
  String.ofList <| name.toList.flatMap fun c =>
    if c = '~' then ['~', '0'] else if c = '/' then ['~', '1'] else [c]

/-- The violation as seen from the object that holds the value under a name. -/
def underName (name : String) (v : Violation) : Violation :=
  { v with path := "/" ++ pointerSegment name ++ v.path }

/-- The violation as seen from the array that holds the value at an index. -/
def underIndex (index : Nat) (v : Violation) : Violation :=
  { v with path := "/" ++ toString index ++ v.path }

/-- A text without the dots at its end. -/
def withoutFinalDots (s : String) : String :=
  String.ofList (s.toList.reverse.dropWhile (· = '.')).reverse

/-- The violation in one line: place and message, which always ends in one dot. -/
def display (v : Violation) : String :=
  (if v.path = "" then "/" else v.path) ++ " " ++ withoutFinalDots v.message ++ "."

end Violation

end LintConfig
