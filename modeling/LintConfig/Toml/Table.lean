import LintConfig.Toml.Value

/-!
# Building tables

The tables of a document come together from headers and dotted keys, which may name one table
several times.  What may be added to a table depends on how it came to be, so while a document is
read its tables are kept as `Node`s that remember it.

**Keys.**  `addPair` adds a value under a dotted key.  It may only add to tables that dotted keys
made, and never replaces anything.

**Headers.**  `addSection` adds what stands below a header.  A table may have one header only, but
the tables on the way to it need none.
-/

namespace LintConfig

namespace Toml

/-- How a table came to be. -/
inductive Origin where
  /-- By a header of its own, or as an element of an array of tables. -/
  | header
  /-- As a table on the way to one with a header. -/
  | implied
  /-- By a dotted key. -/
  | dotted
  deriving DecidableEq

/-- A value of a document that is being read. -/
inductive Node where
  /-- A value that nothing can be added to. -/
  | value (v : Value)
  | table (origin : Origin) (entries : List (String × Node))
  /-- The elements of an array of tables. -/
  | tables (elements : List (List (String × Node)))

/-- The entries of a table, in the order in which their keys came up. -/
abbrev Entries := List (String × Node)

/-- A dotted key: the tables on the way, and the key in the last one. -/
structure Key where
  path : List String
  last : String
  deriving DecidableEq

namespace Entries

/-- The node of a key. -/
def find (key : String) : Entries → Option Node
  | [] => none
  | (k, node) :: rest => if k = key then some node else find key rest

/-- Puts a node under a key: in place of the one that is there, or at the end. -/
def put (key : String) (node : Node) : Entries → Entries
  | [] => [(key, node)]
  | (k, n) :: rest => if k = key then (key, node) :: rest else (k, n) :: put key node rest

/-- The entries without a key. -/
def remove (key : String) (entries : Entries) : Entries := entries.filter fun e => e.1 ≠ key

/-- Changes the entries of the table that a path leads to, starting in a table of the given origin.
Tables that are missing on the way are made; an array of tables leads to its last element.  The way
is closed by values, and by the tables that `mayPass` excludes. -/
def update (made : Origin) (mayPass : Origin → Bool) (change : Origin → Entries → Option Entries) :
    List String → Origin → Entries → Option Entries
  | [], origin, entries => change origin entries
  | step :: rest, _, entries =>
    match find step entries with
    | none =>
      (update made mayPass change rest made []).map fun inner =>
        put step (.table made inner) entries
    | some (.value _) => none
    | some (.table origin inner) =>
      if mayPass origin then
        (update made mayPass change rest origin inner).map fun inner =>
          put step (.table origin inner) entries
      else none
    | some (.tables elements) =>
      match elements.getLast? with
      | none => none
      | some inner =>
        (update made mayPass change rest .header inner).map fun inner =>
          put step (.tables (elements.dropLast ++ [inner])) entries

/-- Adds a value under a key that is not there yet. -/
def addNew (key : String) (v : Value) (entries : Entries) : Option Entries :=
  match find key entries with
  | none => some (put key (.value v) entries)
  | some _ => none

/-- Adds a value under a dotted key. -/
def addPair (entries : Entries) (key : Key) (v : Value) : Option Entries :=
  update .dotted (fun origin => origin ≠ .header)
    (fun origin inner =>
      if key.path.isEmpty ∨ origin = .dotted then addNew key.last v inner else none)
    key.path .header entries

/-- Adds pairs, one after the other. -/
def addPairs : List (Key × Value) → Entries → Option Entries
  | [], entries => some entries
  | (key, v) :: rest, entries => (addPair entries key v).bind (addPairs rest)

end Entries

/-- What a header announces. -/
inductive Header where
  /-- The table of a key. -/
  | table (key : Key)
  /-- A new element of the array of tables of a key. -/
  | element (key : Key)
  deriving DecidableEq

/-- The tables on the way to what a header announces. -/
def Header.path : Header → List String
  | table key => key.path
  | element key => key.path

namespace Entries

/-- Opens what a header announces in the table it belongs to, and adds the pairs below it.  A table
that is only implied so far gets its header now, and moves to the end. -/
def openHeader (pairs : List (Key × Value)) : Header → Entries → Option Entries
  | .table key, entries =>
    match find key.last entries with
    | none => (addPairs pairs []).map fun inner => put key.last (.table .header inner) entries
    | some (.table .implied inner) =>
      (addPairs pairs inner).map fun inner =>
        put key.last (.table .header inner) (remove key.last entries)
    | some _ => none
  | .element key, entries =>
    match find key.last entries with
    | none => (addPairs pairs []).map fun inner => put key.last (.tables [inner]) entries
    | some (.tables elements) =>
      (addPairs pairs []).map fun inner => put key.last (.tables (elements ++ [inner])) entries
    | some _ => none

/-- Adds a header and the pairs below it to a document. -/
def addSection (entries : Entries) (header : Header) (pairs : List (Key × Value)) :
    Option Entries :=
  update .implied (fun _ => true) (fun _ inner => openHeader pairs header inner) header.path .header
    entries

/-- Adds sections, one after the other. -/
def addSections : List (Header × List (Key × Value)) → Entries → Option Entries
  | [], entries => some entries
  | (header, pairs) :: rest, entries =>
    (addSection entries header pairs).bind (addSections rest)

end Entries

mutual

/-- The value that a node has become. -/
def Node.toValue : Node → Value
  | .value v => v
  | .table _ entries => .table (toValues entries)
  | .tables elements => .array (toTables elements)

/-- The entries of a table with their values. -/
def toValues : List (String × Node) → List (String × Value)
  | [] => []
  | (k, node) :: rest => (k, node.toValue) :: toValues rest

/-- The elements of an array of tables. -/
def toTables : List (List (String × Node)) → List Value
  | [] => []
  | entries :: rest => .table (toValues entries) :: toTables rest

end

/-- The table with these pairs and no others, as it is written between braces. -/
def inlineTable? (pairs : List (Key × Value)) : Option Value :=
  (Entries.addPairs pairs []).map fun entries => .table (toValues entries)

end Toml

end LintConfig
