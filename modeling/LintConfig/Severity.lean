import LintConfig.Json.Document

/-!
# Severities

The first item of every rule entry says how violations of the rule are reported.  It may be
spelled as a level or as a name, and `Severity.ofJson?` reads both.

**Levels.**  A number is a level when it is less than `2^-52` away from 0, 1 or 2, so integers and
doubles are treated alike.

**Names.**  A string is read without regard to ASCII case.  The stored form (`Severity.parse?`) is
stricter: it knows the lower-case names alone.
-/

namespace LintConfig

/-- How violations of a rule are reported. -/
inductive Severity where
  /-- The rule is disabled. -/
  | off
  /-- Violations are warnings. -/
  | warn
  /-- Violations are errors. -/
  | error
  deriving DecidableEq

namespace Severity

/-- The numeric form. -/
def level : Severity → Nat
  | off => 0
  | warn => 1
  | error => 2

/-- The name. -/
def name : Severity → String
  | off => "off"
  | warn => "warn"
  | error => "error"

/-- The severities by rising level. -/
def all : List Severity := [off, warn, error]

/-- How far a number may be from a level that it stands for; this distance itself is too far. -/
def tolerance : Rat := Double.epsilon

/-- Whether a number stands for the level of a severity. -/
def isLevel (n : Number) (s : Severity) : Bool :=
  let distance := n.value - (s.level : Rat)
  decide (-tolerance < distance) && decide (distance < tolerance)

/-- The severity whose level a number is. -/
def ofNumber? (n : Number) : Option Severity := all.find? (isLevel n)

/-- The level of a severity stands for that severity. -/
theorem ofNumber?_level (s : Severity) : ofNumber? (.integer s.level) = some s := by
  cases s <;> decide +kernel

/-- The severity with a name. -/
def ofName? (name : String) : Option Severity := all.find? (fun s => s.name = name)

/-- The severity that the head of a rule entry stands for. -/
def ofJson? : Json → Option Severity
  | .num n => ofNumber? n
  | .str s => ofName? (String.ofList (s.toList.map Char.toLower))
  | _ => none

/-- The level as a JSON value, the form in which a loaded configuration holds severities. -/
def toJson (s : Severity) : Json := Json.ofNat s.level

/-- Reads the stored form: a lower-case name, or an object with this name as its only key and null
as the value. -/
def ofDocument? : Document → Option Severity
  | .str units => (Document.string? units).bind ofName?
  | .obj [(units, .null)] => (Document.string? units).bind ofName?
  | _ => none

/-- Reads a text that holds the stored form and nothing else. -/
def parse? (text : String) : Option Severity := (Document.read? text).bind ofDocument?

/-- The stored form. -/
def stored (s : Severity) : Json := .str s.name

end Severity

end LintConfig
