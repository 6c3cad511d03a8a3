import LintConfig.OrderedMap
import LintConfig.Path

/-!
# Files

What the library needs to know of a file system, and a file system to know it of.

**Views.**  A `FileView` says of every path what it leads to.  Everything that reads files takes a
view, so it is a function of what the files are.

**Trees.**  A `FileTree` is a root directory with everything in it, and a place where one works.
`FileTree.view` follows paths through it one step at a time, absolute ones from the root and others
from the working place; each step has to start from a directory, also one that stays in place, so a
slash after the name of a file leads nowhere.  Above the root is the root itself.
-/

namespace LintConfig

/-- What a path leads to. -/
inductive FileEntry where
  /-- A regular file, with its text if it can be read as text. -/
  | file (text : Option String)
  /-- Anything else. -/
  | directory
  deriving DecidableEq

/-- What every path leads to, if it leads anywhere. -/
abbrev FileView := Path → Option FileEntry

namespace FileView

/-- The view in which no path leads anywhere. -/
def nothing : FileView := fun _ => none

/-- Whether a path leads to a regular file. -/
def isFile (view : FileView) (p : Path) : Bool :=
  match view p with
  | some (.file _) => true
  | _ => false

/-- Whether a path leads to anything. -/
def leadsSomewhere (view : FileView) (p : Path) : Bool := (view p).isSome

/-- The text of the file that a path leads to. -/
def read? (view : FileView) (p : Path) : Option String :=
  match view p with
  | some (.file text) => text
  | _ => none

end FileView

/-- An entry of a tree. -/
inductive FileNode where
  | file (content : ByteArray)
  | directory

/-- A root directory, with the entries in and below it by the names that lead to them. -/
structure FileTree where
  nodes : OrderedMap (List String) FileNode := ∅
  /-- The place from which paths lead that are not absolute. -/
  workingPlace : List String := []

namespace FileTree

/-- The node at a place; the empty list of names is the place of the root. -/
def node? (t : FileTree) : List String → Option FileNode
  | [] => some .directory
  | names => t.nodes.get? names

/-- Whether there is a directory at a place. -/
def isDirectory (t : FileTree) (names : List String) : Bool :=
  match t.node? names with
  | some .directory => true
  | _ => false

/-- The place that the pieces of a path lead to from a directory, if there is something. -/
def walk? (t : FileTree) : (place : List String) → List (List Char) → Option (List String)
  | place, [] => some place
  | place, piece :: rest =>
    if t.isDirectory place then
      if piece = [] ∨ piece = ['.'] then t.walk? place rest
      else if piece = ['.', '.'] then t.walk? place.dropLast rest
      else
        let next := place ++ [String.ofList piece]
        if (t.node? next).isSome then t.walk? next rest else none
    else none

/-- The place from which a path leads. -/
def origin (t : FileTree) (p : Path) : List String := if p.isAbsolute then [] else t.workingPlace

/-- The place that a path leads to. -/
def locate? (t : FileTree) (p : Path) : Option (List String) :=
  if p.text = "" then none else t.walk? (t.origin p) (pieces '/' p.text.toList)

/-- What can be seen of a node. -/
def entryOf : FileNode → FileEntry
  | .file content => .file (String.fromUTF8? content)
  | .directory => .directory

/-- What can be seen of a tree. -/
def view (t : FileTree) : FileView := fun p => ((t.locate? p).bind t.node?).map entryOf

/-- The place where a file can be written under a path: an entry of a directory, unless it is a
directory itself. -/
def writable? (t : FileTree) (p : Path) : Option (List String) :=
  if p.text = "" then none
  else
    let all := pieces '/' p.text.toList
    match t.walk? (t.origin p) all.dropLast, all.getLast? with
    | some place, some last =>
      if Path.stepOf? last = some (.name (String.ofList last)) ∧ t.isDirectory place then
        let target := place ++ [String.ofList last]
        if t.isDirectory target then none else some target
      else none
    | _, _ => none

/-- The tree after a text has been written to a path, if that can be done. -/
def write? (t : FileTree) (p : Path) (text : String) : Option FileTree :=
  (t.writable? p).map fun names => { t with nodes := t.nodes.insert names (.file text.toUTF8) }

/-- Adds directories at the given places where nothing is yet. -/
def addDirectories : List (List String) → FileTree → FileTree
  | [], t => t
  | names :: rest, t =>
    addDirectories rest
      (if (t.node? names).isSome then t else { t with nodes := t.nodes.insert names .directory })

/-- The places on the way to a place. -/
def ancestors (names : List String) : List (List String) :=
  (List.range names.length).map fun n => names.take n

/-- Adds a node at a place, and directories on the way. -/
def add (t : FileTree) (names : List String) (node : FileNode) : FileTree :=
  let t := addDirectories (ancestors names) t
  { t with nodes := t.nodes.insert names node }

/-- The names on the way of a path. -/
def names (p : Path) : List String :=
  p.steps.filterMap fun
    | .name s => some s
    | _ => none

/-- A tree in which there is nothing but the place where one works. -/
def ofWorkingPlace (place : List String) : FileTree :=
  add { workingPlace := place } place .directory

/-- The tree with these files and directories in the place where one works. -/
def ofList (nodes : List (Path × FileNode)) : FileTree :=
  nodes.foldl (fun t e => t.add (t.workingPlace ++ names e.1) e.2) (ofWorkingPlace ["work"])

end FileTree

end LintConfig
