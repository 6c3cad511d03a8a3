import LintConfig.Command.Run

/-!
# The program

Reads the files that a command depends on, runs it on them, and carries out what it says.
-/

namespace LintConfig

/-- The variables that a command line depends on. -/
def readEnvironment : IO Environment := do
  let names := [Invocation.configVariable, Invocation.globalDirVariable, "HOME"]
  let values ← names.mapM fun name => return (name, ← IO.getEnv name)
  return fun name => (values.lookup name).join

/-- What a path leads to. -/
def probe (p : Path) : IO (Option FileEntry) := do
  try
    let place ← IO.FS.realPath p.text
    let found ← place.metadata
    match found.type with
    | .file =>
      try
        return some (.file (String.fromUTF8? (← IO.FS.readBinFile p.text)))
      catch _ => return some (.file none)
    | _ => return some .directory
  catch _ => return none

/-- The view of some paths. -/
def probeAll (paths : List Path) : IO FileView := do
  let found ← paths.mapM fun p => return (p, ← probe p)
  return fun p => (found.lookup p).join

/-- Prints how a command ends; of a diagnostic only its message. -/
def report (outcome : Outcome) : IO UInt32 := do
  IO.print outcome.stdout
  IO.eprint outcome.stderr
  outcome.diagnostic?.forM fun e => IO.eprintln e.message
  return outcome.code.toUInt32

/-- Carries out what a command does. -/
def performIO : Action → IO UInt32
  | .finish outcome => report outcome
  | .write path text done failed => do
    let written ← try IO.FS.writeFile path.text text; pure true catch _ => pure false
    report (if written then done else failed)

end LintConfig

open LintConfig in
/-- Runs the command line that the program was started with. -/
def main (arguments : List String) : IO UInt32 := do
  match Invocation.parse? (← readEnvironment) arguments with
  | none => report .badArguments
  | some invocation =>
    let candidates ← probeAll (invocation.paths .nothing)
    let all ← probeAll (invocation.paths candidates)
    performIO (invocation.run .draft04 all)
