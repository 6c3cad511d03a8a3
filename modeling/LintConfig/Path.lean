import LintConfig.Pieces

/-!
# Paths

A path is a text, and that text is what is shown of it.  What it *means* is a list of `PathStep`s:
two spellings with the same steps are the same path for all purposes but showing it.

**Steps.**  Repeated slashes, a slash at the end and steps that stay in place are no steps, except
for a leading point, which says that the path starts where one is.  A step upwards is kept, since
where it leads is not decided by the text.
-/

namespace LintConfig

/-- A path as written. -/
structure Path where
  text : String
  deriving DecidableEq

/-- One step of a path. -/
inductive PathStep where
  /-- To the root of all directories. -/
  | root
  /-- A leading point: to where one is. -/
  | here
  /-- To the directory above. -/
  | up
  /-- To the entry with a name. -/
  | name (s : String)
  deriving DecidableEq

namespace Path

/-- Whether the path starts at the root. -/
def isAbsolute (p : Path) : Bool := p.text.toList.head? = some '/'

/-- The step that a piece of a path makes, unless it is the first piece. -/
def stepOf? (piece : List Char) : Option PathStep :=
  if piece = [] ∨ piece = ['.'] then none
  else if piece = ['.', '.'] then some .up
  else some (.name (String.ofList piece))

/-- The step that the first piece makes; `isAbsolute` says whether a slash comes before all. -/
def firstStepOf? (isAbsolute : Bool) (piece : List Char) : Option PathStep :=
  if isAbsolute then some .root
  else if piece = ['.'] then some .here
  else stepOf? piece

/-- The pieces of a path, each with the step it makes. -/
def markedPieces (p : Path) : List (Option PathStep × List Char) :=
  match pieces '/' p.text.toList with
  | [] => []
  | first :: rest =>
    (firstStepOf? p.isAbsolute first, first) :: rest.map fun piece => (stepOf? piece, piece)

/-- The steps of a path. -/
def steps (p : Path) : List PathStep := p.markedPieces.filterMap Prod.fst

/-- Whether two paths are the same but for their spelling. -/
def sameAs (p q : Path) : Bool := p.steps = q.steps

/-- The path as seen from where another path leads to.  An absolute path does not depend on that. -/
def join (base p : Path) : Path :=
  if p.isAbsolute then p
  else if base.text = "" ∨ base.text.toList.getLast? = some '/' then ⟨base.text ++ p.text⟩
  else ⟨base.text ++ "/" ++ p.text⟩

/-- The text of a step. -/
def stepText : PathStep → String
  | .root => ""
  | .here => "."
  | .up => ".."
  | .name s => s

/-- The shortest spelling of some steps. -/
def ofSteps : List PathStep → Path
  | [.root] => ⟨"/"⟩
  | steps => ⟨"/".intercalate (steps.map stepText)⟩

/-- The directory that an entry is in, for a path that ends with the entry. -/
def directory (p : Path) : Path :=
  match p.steps.dropLast with
  | [] => ⟨"."⟩
  | steps => ofSteps steps

/-- The pieces after those that make a number of steps. -/
def dropSteps : Nat → List (Option PathStep × List Char) → List (Option PathStep × List Char)
  | 0, marked => marked
  | _ + 1, [] => []
  | n + 1, (none, _) :: rest => dropSteps (n + 1) rest
  | n + 1, (some _, _) :: rest => dropSteps n rest

/-- The path as seen from a directory that it leads through, spelled as it was. -/
def relativeTo? (base p : Path) : Option Path :=
  if base.steps.isPrefixOf p.steps then
    let rest := (dropSteps base.steps.length p.markedPieces).dropWhile fun m => m.1.isNone
    let kept := (rest.reverse.dropWhile fun m => m.1.isNone).reverse
    some ⟨String.ofList (['/'].intercalate (kept.map Prod.snd))⟩
  else none

end Path

end LintConfig
