import LintConfig.Toml.Scalar
import LintConfig.Toml.Table

/-!
# TOML documents

`Toml.parse?` reads a document of TOML 1.0 as the entries of its root table.  Only whether a text is
a document is told, not what is wrong with one that is not.

**Layout.**  A pair, a header and a table between braces each end with their line; in an array,
line ends and comments may stand anywhere between the items.

**Limits.**  Arrays and inline tables are nested at most `nestingLimit` deep, and a dotted key has
at most as many parts.
-/

namespace LintConfig

namespace Toml

/-- How deep values are nested, and how many parts a key has, at most. -/
def nestingLimit : Nat := 79

/-- Drops blanks, line ends and comments between the items of an array.  A comment has to end with
its line. -/
def skipLines : (inComment : Bool) → List Char → Option (List Char)
  | false, [] => some []
  | true, [] => none
  | _, '\n' :: rest => skipLines false rest
  | _, '\r' :: '\n' :: rest => skipLines false rest
  | false, c :: rest =>
    if c = ' ' ∨ c = '\t' then skipLines false rest
    else if c = '#' then skipLines true rest
    else some (c :: rest)
  | true, c :: rest => if isPlain c then skipLines true rest else none

/-- What follows the end of a line, which may hold blanks and a comment before it. -/
def endLine? (cs : List Char) : Option (List Char) :=
  let rest := match skipBlanks cs with
    | '#' :: comment => comment.dropWhile isPlain
    | rest => rest
  match rest with
  | [] => some []
  | rest => dropNewline? rest

/-! ## Keys -/

/-- Whether a character may stand in a key without quotes. -/
def isBareKey (c : Char) : Bool := c.isAlphanum || c = '-' || c = '_'

/-- One part of a key. -/
def readKeyPart? (cs : List Char) : Option (String × List Char) :=
  match cs with
  | '"' :: _ | '\'' :: _ => readQuoted? cs
  | _ =>
    match cs.takeWhile isBareKey with
    | [] => none
    | name => some (String.ofList name, cs.dropWhile isBareKey)

/-- The parts of a dotted key, with blanks around each. -/
def readKeyParts? : (fuel : Nat) → List Char → Option (List String × List Char)
  | 0, _ => none
  | fuel + 1, cs =>
    match readKeyPart? (skipBlanks cs) with
    | none => none
    | some (part, rest) =>
      match skipBlanks rest with
      | '.' :: rest => (readKeyParts? fuel rest).map fun (parts, r) => (part :: parts, r)
      | rest => some ([part], rest)

/-- A dotted key. -/
def readKey? (cs : List Char) : Option (Key × List Char) :=
  (readKeyParts? nestingLimit cs).bind fun (parts, rest) =>
    parts.getLast?.map fun last => (⟨parts.dropLast, last⟩, rest)

/-! ## Values -/

mutual

/-- A value, if no more than the given number of arrays and inline tables are nested in it. -/
def readValue? : (fuel levels : Nat) → List Char → Option (Value × List Char)
  | 0, _, _ => none
  | fuel + 1, levels, '[' :: rest =>
    if levels = 0 then none
    else
      match skipLines false rest with
      | none => none
      | some (']' :: rest) => some (.array [], rest)
      | some rest => (readItems? fuel (levels - 1) rest).map fun (items, r) => (.array items, r)
  | fuel + 1, levels, '\x7b' :: rest =>
    if levels = 0 then none
    else
      match skipBlanks rest with
      | '\x7d' :: rest => some (.table [], rest)
      | rest =>
        match readPairs? fuel (levels - 1) rest with
        | none => none
        | some (pairs, rest) => (inlineTable? pairs).map fun v => (v, rest)
  | _ + 1, _, cs => readScalar? cs

/-- The items of an array up to its closing bracket, at least one; a comma may follow the last. -/
def readItems? : (fuel levels : Nat) → List Char → Option (List Value × List Char)
  | 0, _, _ => none
  | fuel + 1, levels, cs =>
    match readValue? fuel levels cs with
    | none => none
    | some (v, rest) =>
      match skipLines false rest with
      | some (']' :: rest) => some ([v], rest)
      | some (',' :: rest) =>
        match skipLines false rest with
        | some (']' :: rest) => some ([v], rest)
        | some rest => (readItems? fuel levels rest).map fun (vs, r) => (v :: vs, r)
        | none => none
      | _ => none

/-- The pairs of an inline table up to its closing brace, at least one. -/
def readPairs? : (fuel levels : Nat) → List Char → Option (List (Key × Value) × List Char)
  | 0, _, _ => none
  | fuel + 1, levels, cs =>
    match readKey? cs with
    | some (key, '=' :: rest) =>
      match readValue? fuel levels (skipBlanks rest) with
      | none => none
      | some (v, rest) =>
        match skipBlanks rest with
        | '\x7d' :: rest => some ([(key, v)], rest)
        | ',' :: rest => (readPairs? fuel levels rest).map fun (ps, r) => ((key, v) :: ps, r)
        | _ => none
    | _ => none

end

/-- A key and its value, with nothing else on the line. -/
def readPair? (cs : List Char) : Option ((Key × Value) × List Char) :=
  match readKey? cs with
  | some (key, '=' :: rest) =>
    let rest := skipBlanks rest
    match readValue? (2 * rest.length + 2) nestingLimit rest with
    | some (v, rest) => (endLine? rest).map fun r => ((key, v), r)
    | none => none
  | _ => none

/-! ## Statements -/

/-- A header after its first bracket, with nothing else on the line. -/
def readHeader? : List Char → Option (Header × List Char)
  | '[' :: rest =>
    match readKey? rest with
    | some (key, ']' :: ']' :: rest) => (endLine? rest).map fun r => (.element key, r)
    | _ => none
  | rest =>
    match readKey? rest with
    | some (key, ']' :: rest) => (endLine? rest).map fun r => (.table key, r)
    | _ => none

/-- One statement of a document. -/
inductive Statement where
  | header (h : Header)
  | pair (key : Key) (v : Value)

/-- The statements of a document. -/
def readStatements? : (fuel : Nat) → List Char → Option (List Statement)
  | 0, _ => none
  | fuel + 1, cs =>
    match skipBlanks cs with
    | [] => some []
    | '[' :: rest =>
      match readHeader? rest with
      | some (h, rest) => (readStatements? fuel rest).map (.header h :: ·)
      | none => none
    | c :: rest =>
      if c = '#' ∨ c = '\n' ∨ c = '\r' then (endLine? (c :: rest)).bind (readStatements? fuel)
      else
        match readPair? (c :: rest) with
        | some ((key, v), rest) => (readStatements? fuel rest).map (.pair key v :: ·)
        | none => none

/-- The pairs before the first header, and the pairs below each header. -/
def sections : List Statement → List (Key × Value) × List (Header × List (Key × Value))
  | [] => ([], [])
  | .pair key v :: rest =>
    let (pairs, later) := sections rest
    ((key, v) :: pairs, later)
  | .header h :: rest =>
    let (pairs, later) := sections rest
    ([], (h, pairs) :: later)

/-- The text without the mark that may stand before it. -/
def dropByteOrderMark : List Char → List Char
  | '\ufeff' :: rest => rest
  | cs => cs

/-- The entries of the root table of a document. -/
def parse? (text : String) : Option (List (String × Value)) :=
  let cs := dropByteOrderMark text.toList
  match readStatements? (cs.length + 1) cs with
  | none => none
  | some statements =>
    let (pairs, later) := sections statements
    ((Entries.addPairs pairs []).bind (Entries.addSections later)).map toValues

end Toml

end LintConfig
