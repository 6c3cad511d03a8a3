import LintConfig.Configuration.Validation
import LintConfig.FileTree

/-!
# Outcomes

What a command does, as a value: it ends with an exit code and what it prints, and at most writes
one file before.

**Errors.**  Of what is printed about errors, an outcome holds the line that states the error, and
not the chain of causes behind it nor the lines of the log.  A diagnostic is laid out by whoever
prints it, so an outcome holds the diagnostic itself.

**Performing.**  `FileTree.perform` carries an action out on a tree.  Whether a file can be written
shows only then, so an action that writes comes with both of its outcomes.
-/

namespace LintConfig

/-- How a command ends. -/
structure Outcome where
  /-- The exit code. -/
  code : Nat
  /-- What is printed. -/
  stdout : String := ""
  /-- The line about an error that is printed beside that, if there is one. -/
  stderr : String := ""
  /-- The diagnostic that is printed beside that, if there is one. -/
  diagnostic? : Option EntryError := none
  deriving DecidableEq

namespace Outcome

/-- The end of a command that succeeds. -/
def success (stdout : String) : Outcome := { code := 0, stdout }

/-- The end of a command that fails with an error line. -/
def failure (line : String) : Outcome := { code := 1, stderr := line ++ "\n" }

/-- The end of a command that fails with a message. -/
def failed (message : String) : Outcome := failure ("Error: " ++ message)

/-- The end of a command line that is none. -/
def badArguments : Outcome := { code := 2 }

/-- How the lines begin that state an error. -/
def errorMarks : List String := ["Error: ", "\x1b[31merror["]

/-- The first line that states an error. -/
def errorLine? (o : Outcome) : Option String :=
  ((lines o.stderr.toList).find? fun line =>
    errorMarks.any fun mark => mark.toList.isPrefixOf line).map String.ofList

end Outcome

/-- What a command does. -/
inductive Action where
  /-- It ends. -/
  | finish (outcome : Outcome)
  /-- It writes a file and ends, in one way if that worked and in another way if not. -/
  | write (path : Path) (text : String) (done failed : Outcome)

/-- Carries an action out on a tree. -/
def FileTree.perform (t : FileTree) : Action → Outcome × FileTree
  | .finish outcome => (outcome, t)
  | .write path text done failed =>
    match t.write? path text with
    | some t => (done, t)
    | none => (failed, t)

end LintConfig
