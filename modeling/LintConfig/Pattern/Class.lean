import LintConfig.Pattern.Escape

/-!
# Classes of characters

A class lists characters, ranges and sets between brackets.  Classes can be nested, and their parts
can be joined by operators: `&&` for what both sides have in common, `--` for what the left side has
alone, and `~~` for what one side has alone.  An operator applies to all that stands on its left.

**Literal signs.**  A closing bracket in the first place stands for itself, and so do hyphens in the
first places and in the last one.

**Cases.**  Where both cases of a letter are the same, they are joined before a class is negated and
before an operator is applied.
-/

namespace LintConfig

namespace Pattern

/-- Drops blanks at the start of a text if they are skipped, and remarks, which start with a number
sign and end with the line. -/
def skipBlanks (isBlank : Char → Bool) (skipped : Bool) (cs : List Char) : List Char :=
  if skipped then go false cs else cs
where
  /-- Drops blanks and remarks, the text starting inside of a remark or not. -/
  go : (remark : Bool) → List Char → List Char
    | _, [] => []
    | true, c :: rest => go (c != '\n') rest
    | false, c :: rest =>
      if c = '#' then go true rest else if isBlank c then go false rest else c :: rest

/-- Why a text is outside of the grammar. -/
inductive Refusal where
  | malformed
  /-- The grammar has none of what comes here, but patterns have.  The rest of the text is given. -/
  | beyond (rest : List Char)

/-- How classes are read. -/
structure Manner where
  alphabet : Alphabet := {}
  /-- Blanks are skipped. -/
  spaced : Bool := false
  /-- A set can be named by a property of which the name is not known.  The class only counts as one
  then. -/
  anyProperty : Bool := false

/-- Drops blanks where they are skipped. -/
def Manner.skip (m : Manner) (cs : List Char) : List Char :=
  skipBlanks CharSet.anyBlank.contains m.spaced cs

namespace Class

/-- What a reader leaves: something that it has read, and the rest of the text. -/
abbrev Found (α : Type) := Except Refusal (α × List Char)

/-- Reads the name of a set between colons, as it stands in a class after a bracket. -/
def named? (a : Alphabet) : List Char → Option (CharSet × List Char)
  | ':' :: rest =>
    let (negated, rest) := match rest with
      | '^' :: rest => (true, rest)
      | rest => (false, rest)
    match cutAt ':' rest with
    | (name, some (']' :: rest)) =>
      (CharSet.named? (String.ofList name)).map fun set =>
        (if negated then .complement (a.fold set) else set, rest)
    | _ => none
  | _ => none

/-- Reads one item: a set, or a character that may begin a range. -/
def item (m : Manner) : List Char → Found (CharSet ⊕ Char)
  | [] => .error .malformed
  | '\\' :: rest =>
    match Escape.read? m.alphabet rest with
    | some (.set s, rest) => .ok (.inl s, rest)
    | some (.char c, rest) => .ok (.inr c, rest)
    | some (.bell, rest) => .ok (.inr '\x07', rest)
    | some (.unknownProperty, rest) =>
      if m.anyProperty then .ok (.inl .empty, rest) else .error .malformed
    | some (.condition .wordBoundary, rest) =>
      if m.alphabet.wide then .ok (.inr '\x08', rest) else .error .malformed
    | some (.reference, rest) => .error (.beyond rest)
    | _ => .error .malformed
  | c :: rest => .ok (.inr c, rest)

/-- Reads an item, or a range of two characters. -/
def range (m : Manner) (cs : List Char) : Found CharSet :=
  match item m cs with
  | .error e => .error e
  | .ok (first, rest) =>
    let alone : CharSet := match first with
      | .inl s => s
      | .inr c => .single c
    let rest := m.skip rest
    match rest with
    | '-' :: after =>
      let after := m.skip after
      if after.head? = some ']' || after.head? = some '-' then .ok (alone, rest)
      else
        match first, item m after with
        | .inr low, .ok (.inr high, rest) =>
          if low ≤ high then .ok (.range low high, rest) else .error .malformed
        | _, .error e => .error e
        | _, _ => .error .malformed
    | rest => .ok (alone, rest)

/-- Drops hyphens at the start of a text, and blanks where they are skipped. -/
def afterHyphens (m : Manner) : (fuel : Nat) → List Char → List Char
  | fuel + 1, '-' :: rest => afterHyphens m fuel (m.skip rest)
  | _, cs => cs

/-- The hyphens or the closing bracket in the first places of a class. -/
def leading (m : Manner) (cs : List Char) : CharSet × List Char :=
  match cs with
  | ']' :: rest => (.single ']', rest)
  | '-' :: _ => (.single '-', afterHyphens m cs.length cs)
  | cs => (.empty, cs)

/-- An operator, applied to what stands on its left and to what stands on its right. -/
def operate (a : Alphabet) (operator : CharSet → CharSet → CharSet) (left right : CharSet) :
    CharSet :=
  operator (a.fold left) (a.fold right)

mutual

/-- Reads a class after its opening bracket. -/
def read (m : Manner) : (fuel : Nat) → List Char → Found CharSet
  | 0, _ => .error .malformed
  | fuel + 1, cs =>
    let (negated, cs) := match m.skip cs with
      | '^' :: rest => (true, m.skip rest)
      | cs => (false, cs)
    let (first, cs) := leading m cs
    (body m fuel id first cs).map fun (set, rest) =>
      (if negated then .complement (m.alphabet.fold set) else m.alphabet.fold set, rest)

/-- Reads the rest of a class.  `current` holds what the list has named so far, and `pending`
applies the operator before the list to it. -/
def body (m : Manner) : (fuel : Nat) → (pending : CharSet → CharSet) → (current : CharSet) →
    List Char → Found CharSet
  | 0, _, _, _ => .error .malformed
  | fuel + 1, pending, current, cs =>
    match m.skip cs with
    | [] => .error .malformed
    | ']' :: rest => .ok (pending current, rest)
    | '[' :: rest =>
      match named? m.alphabet rest with
      | some (set, rest) => body m fuel pending (.union current set) rest
      | none =>
        match read m fuel rest with
        | .ok (set, rest) => body m fuel pending (.union current set) rest
        | .error e => .error e
    | '&' :: '&' :: rest =>
      body m fuel (operate m.alphabet .intersection (pending current)) .empty rest
    | '-' :: '-' :: rest =>
      body m fuel (operate m.alphabet CharSet.difference (pending current)) .empty rest
    | '~' :: '~' :: rest =>
      body m fuel (operate m.alphabet CharSet.symmetricDifference (pending current)) .empty rest
    | cs =>
      match range m cs with
      | .ok (set, rest) => body m fuel pending (.union current set) rest
      | .error e => .error e

end

/-- Reads a class after its opening bracket.  Each nested call reads a character or opens a class,
which bounds the fuel. -/
def ofChars (m : Manner) (cs : List Char) : Found CharSet := read m (2 * cs.length + 2) cs

end Class

end Pattern

end LintConfig
