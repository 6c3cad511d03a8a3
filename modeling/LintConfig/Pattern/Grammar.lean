import LintConfig.Pattern.Class
import LintConfig.Pattern.Opening

/-!
# The grammar of regular expressions

`Pattern.isExpression` says whether a text is a regular expression.  This is what the format of that
name asks for, and what a schema has to hold as a `pattern` before anything is asked of its meaning.

**Beyond the grammar.**  Patterns can look at what is around and refer to their groups, which the
grammar cannot.  A text in which one of the two is the first thing outside of the grammar counts as
an expression all the same, whatever comes after it.

**In the end** there are two more rules for a text that keeps to the grammar.  Groups, repetitions,
sequences and alternatives can be nested 250 deep, and only classes can name the bell by its letter.
-/

namespace LintConfig

namespace Pattern.Grammar

/-- The greatest number that can be a bound. -/
def maxBound : Nat := 0xffffffff

/-- The greatest depth of nesting. -/
def maxDepth : Nat := 250

/-- Reads a number with blanks around it. -/
def number? (cs : List Char) : Option (Nat × List Char) :=
  let cs := cs.dropWhile CharSet.anyBlank.contains
  match Address.digits? (cs.takeWhile Char.isDigit) with
  | some n =>
    if n ≤ maxBound then
      some (n, (cs.dropWhile Char.isDigit).dropWhile CharSet.anyBlank.contains)
    else none
  | none => none

/-- What comes after the bounds of a counted repetition, read after the opening brace. -/
def afterBounds? (cs : List Char) : Option (List Char) :=
  match number? cs with
  | some (_, '\x7d' :: rest) => some rest
  | some (_, ',' :: '\x7d' :: rest) => some rest
  | some (least, ',' :: rest) =>
    match number? rest with
    | some (most, '\x7d' :: rest) => if least ≤ most then some rest else none
    | _ => none
  | _ => none

/-- What comes after the quantifier at the start of a text: none where there is no quantifier. -/
def afterQuantifier : List Char → Except Refusal (Option (List Char))
  | c :: rest =>
    if c = '*' ∨ c = '+' ∨ c = '?' then .ok (some rest)
    else if c = '\x7b' then
      match afterBounds? rest with
      | some rest => .ok (some rest)
      | none => .error .malformed
    else .ok none
  | [] => .ok none

/-- Drops the question mark that makes a repetition short. -/
def dropShortMark : List Char → List Char
  | '?' :: rest => rest
  | cs => cs

/-- What has been found out about a text so far. -/
structure State where
  /-- Blanks are skipped. -/
  spaced : Bool := false
  /-- The names of the groups. -/
  names : List (List Char) := []
  /-- The bell has been named outside of a class. -/
  hasBell : Bool := false

namespace State

/-- Drops blanks where they are skipped. -/
def skip (s : State) (cs : List Char) : List Char :=
  skipBlanks CharSet.anyBlank.contains s.spaced cs

/-- The state after switches. -/
def under (s : State) (switches : Switches) : State :=
  { s with spaced := switches.after 'x' s.spaced }

/-- The state after a group has begun; none if there has been one of its name. -/
def enter? (s : State) : Option (List Char) → Option State
  | none => some s
  | some name => if s.names.contains name then none else some { s with names := name :: s.names }

end State

/-- What a reader leaves: something that it has read, the state, and the rest of the text. -/
abbrev Found (α : Type) := Except Refusal (α × State × List Char)

/-- Reads the quantifiers after something of the given depth. -/
def quantifiers (s : State) : (fuel : Nat) → (depth : Nat) → List Char →
    Except Refusal (Nat × List Char)
  | 0, _, _ => .error .malformed
  | fuel + 1, depth, cs =>
    match afterQuantifier (s.skip cs) with
    | .error e => .error e
    | .ok none => .ok (depth, cs)
    | .ok (some rest) => quantifiers s fuel (depth + 1) (dropShortMark rest)

/-- How deep something is that has a number of parts: a single part stands for itself. -/
def depthOf (parts depth : Nat) : Nat := if parts < 2 then depth else depth + 1

mutual

/-- Reads alternatives up to a closing parenthesis or the end.  There have been `before` of them so
far, none deeper than `depth`. -/
def alternatives : (fuel : Nat) → (before depth : Nat) → State → List Char → Found Nat
  | 0, _, _, _, _ => .error .malformed
  | fuel + 1, before, depth, s, cs =>
    match sequence fuel 0 0 s cs with
    | .error e => .error e
    | .ok (d, s, '|' :: rest) => alternatives fuel (before + 1) (max d depth) s rest
    | .ok (d, s, rest) => .ok (depthOf (before + 1) (max d depth), s, rest)

/-- Reads a sequence of quantified parts.  There have been `before` of them so far, none deeper than
`depth`. -/
def sequence : (fuel : Nat) → (before depth : Nat) → State → List Char → Found Nat
  | 0, _, _, _, _ => .error .malformed
  | fuel + 1, before, depth, s, cs =>
    match s.skip cs with
    | [] => .ok (depthOf before depth, s, [])
    | '|' :: rest => .ok (depthOf before depth, s, '|' :: rest)
    | ')' :: rest => .ok (depthOf before depth, s, ')' :: rest)
    | cs =>
      match part fuel s cs with
      | .error e => .error e
      | .ok (none, s, rest) =>
        match afterQuantifier (s.skip rest) with
        | .ok none => sequence fuel (before + 1) depth s rest
        | _ => .error .malformed
      | .ok (some d, s, rest) =>
        match quantifiers s fuel d rest with
        | .error e => .error e
        | .ok (d, rest) => sequence fuel (before + 1) (max d depth) s rest

/-- Reads what quantifiers apply to and says how deep it is.  They do not apply to a switch, which
is read without a depth.  What is switched inside of a group ends with it. -/
def part : (fuel : Nat) → State → List Char → Found (Option Nat)
  | 0, _, _ => .error .malformed
  | fuel + 1, s, cs =>
    match cs with
    | [] => .error .malformed
    | '(' :: rest =>
      let group (inner : State) (rest : List Char) : Found (Option Nat) :=
        match alternatives fuel 0 0 inner rest with
        | .error e => .error e
        | .ok (d, after, ')' :: rest) => .ok (some (d + 1), { after with spaced := s.spaced }, rest)
        | .ok _ => .error .malformed
      match Opening.read? Opening.name? (s.skip rest) with
      | some (.counted name, rest) =>
        match s.enter? name with
        | some inner => group inner rest
        | none => .error .malformed
      | some (.switches, rest) =>
        match Opening.switches? rest with
        | some (switches, ':', rest) => group (s.under switches) rest
        | some (switches, _, rest) => .ok (none, s.under switches, rest)
        | none => .error .malformed
      | some (.around _ _, rest) => .error (.beyond rest)
      | _ => .error .malformed
    | '[' :: rest =>
      match Class.ofChars { spaced := s.spaced, anyProperty := true } rest with
      | .ok (_, rest) => .ok (some 1, s, rest)
      | .error e => .error e
    | '\\' :: rest =>
      match Escape.read? {} rest with
      | some (.bell, rest) => .ok (some 0, { s with hasBell := true }, rest)
      | some (.reference, rest) => .error (.beyond rest)
      | some (_, rest) => .ok (some 0, s, rest)
      | none => .error .malformed
    | c :: rest =>
      if c = '*' ∨ c = '+' ∨ c = '?' ∨ c = '\x7b' then .error .malformed else .ok (some 0, s, rest)

end

/-- Reads a whole text.  Each character takes at most three nested calls, which bounds the fuel. -/
def check (text : String) : Except Refusal Unit :=
  let cs := text.toList
  match alternatives (3 * cs.length + 3) 0 0 {} cs with
  | .error e => .error e
  | .ok (depth, s, rest) =>
    if rest.isEmpty && depth ≤ maxDepth && !s.hasBell then .ok () else .error .malformed

end Pattern.Grammar

/-- Whether a text is a regular expression, or cannot be told from one by the grammar. -/
def Pattern.isExpression (text : String) : Bool :=
  match Pattern.Grammar.check text with
  | .ok _ => true
  | .error (.beyond _) => true
  | .error .malformed => false

end LintConfig
