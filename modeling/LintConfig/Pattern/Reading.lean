import LintConfig.Pattern.Grammar
import LintConfig.Pattern.Reference
import LintConfig.Pattern.Size

/-!
# Reading patterns

`Pattern.parse?` reads the pattern that a text spells.  Not every regular expression spells one: the
reading has rules of its own.

**Braces.**  Only braces without blanks count repetitions, and only where no other quantifier stands
before them.  Any other brace stands for itself.

**Quantifiers.**  After a quantifier a question mark prefers short matches, and after that a plus
sign makes the repetition atomic.  No other quantifier can follow, and there has to be something to
repeat: neither nothing, nor a condition on the position, nor a look around.  A group that is not
counted is what it holds, also in this respect.

**Switches.**  What is switched on holds until it is switched off, or to the end of a group that is
neither counted nor of another kind.

**Conditionals.**  A conditional asks whether a group has begun, or whether a pattern matches.
After the condition comes a choice.  Its first alternative is for the case that the condition holds,
and the others are for the case that it does not.

**Remarks.**  A parenthesis with a question mark and a number sign after it opens a remark, also in
classes.

**Looking back.**  What is looked for behind a position has a fixed width, or is a choice of such.

**Limits.**  Groups can be nested 63 deep, and the pattern has to be small enough.
-/

namespace LintConfig

namespace Pattern

/-- What has been switched on. -/
structure Mode extends Alphabet where
  /-- Anchors match at lines. -/
  multiline : Bool := false
  /-- The point matches a line feed too. -/
  dotMatchesAll : Bool := false
  /-- Short matches are preferred where long ones are otherwise. -/
  swapGreed : Bool := false
  /-- Blanks are skipped. -/
  spaced : Bool := false

/-- The kinds of remarks. -/
inductive Remark where
  /-- To the end of the line. -/
  | line
  /-- To the parenthesis that closes it. -/
  | group

namespace Mode

/-- The mode after something has been switched; none if the letter switches nothing. -/
def switched? (value : Bool) (mode : Mode) (letter : Char) : Option Mode :=
  if letter = 'i' then some { mode with caseless := value }
  else if letter = 'm' then some { mode with multiline := value }
  else if letter = 's' then some { mode with dotMatchesAll := value }
  else if letter = 'U' then some { mode with swapGreed := value }
  else if letter = 'x' then some { mode with spaced := value }
  else if letter = 'u' ∧ value then some mode
  else none

/-- Whether a character is a blank that can be skipped. -/
def isBlank (c : Char) : Bool := [' ', '\t', '\n', '\r'].contains c

/-- Drops remarks, and blanks where they are skipped.  Nothing is dropped before a remark that does
not end. -/
def skip (mode : Mode) (cs : List Char) : List Char := (go none cs).getD cs
where
  /-- What is left of a text that may start inside of a remark; none if the remark does not end. -/
  go : Option Remark → List Char → Option (List Char)
    | some .group, [] => none
    | _, [] => some []
    | some .line, c :: rest => go (if c = '\n' then none else some .line) rest
    | some .group, '\\' :: _ :: rest => go (some .group) rest
    | some .group, c :: rest => go (if c = ')' then none else some .group) rest
    | none, '(' :: '?' :: '#' :: rest => go (some .group) rest
    | none, c :: rest =>
      if mode.spaced && c = '#' then go (some .line) rest
      else if mode.spaced && isBlank c then go none rest
      else some (c :: rest)

/-- Reads switches up to the sign that ends them, and returns the mode under them with this sign and
the rest.  They switch on, and off after a hyphen; there may be nothing after a hyphen, but there is
something besides it. -/
def switches? (mode : Mode) (cs : List Char) : Option (Mode × Char × List Char) :=
  match cs with
  | ')' :: _ | '-' :: ')' :: _ | '-' :: ':' :: _ => none
  | cs => go cs.length true mode cs
where
  /-- Reads switches that switch on or off.  Each takes a character, which bounds the fuel. -/
  go : (fuel : Nat) → (value : Bool) → Mode → List Char → Option (Mode × Char × List Char)
    | 0, _, _, _ => none
    | fuel + 1, value, mode, cs =>
      match mode.skip cs with
      | [] => none
      | c :: rest =>
        if c = ':' ∨ c = ')' then some (mode, c, rest)
        else if c = '-' then if value then go fuel false mode rest else none
        else (switched? value mode c).bind fun mode => go fuel value mode rest

/-- A single character. -/
def single (mode : Mode) (c : Char) : Pattern := .one (mode.fold (.single c))

/-- The point. -/
def point (mode : Mode) : Pattern := .one (if mode.dotMatchesAll then .all else .dot)

/-- The anchor in front. -/
def startAnchor (mode : Mode) : Pattern := .position (if mode.multiline then .lineStart else .start)

/-- The anchor at the end. -/
def stopAnchor (mode : Mode) : Pattern := .position (if mode.multiline then .lineStop else .stop)

end Mode

/-- How deep groups can be nested. -/
def maxGroups : Nat := 63

/-- One pattern after the other; a single one stands for itself, and empty ones are left out. -/
def sequence (parts : List Pattern) : Pattern :=
  inSequence (parts.filter fun p => !isEmpty p)
where
  /-- Whether this is the empty pattern. -/
  isEmpty : Pattern → Bool
    | empty => true
    | _ => false

/-- The pattern in a group that is not counted.  Only a choice needs the group. -/
def holding : Pattern → Pattern
  | alt left right => held (alt left right)
  | p => p

/-- Whether the condition of a conditional is told by a reference. -/
def startsReference (cs : List Char) : Bool :=
  (cs.head?.map fun c => c.isDigit || c = '\'' || c = '<').getD false

/-- Whether the pattern is a reference. -/
def isReference : Pattern → Bool
  | same _ => true
  | _ => false

/-- The condition that a pattern stands for.  A reference to a group asks whether it has begun. -/
def asCondition : Pattern → Pattern
  | same number => known number
  | p => p

/-- The conditional with a condition and a choice.  Where nothing comes after the condition, it
stands for itself. -/
def deciding (condition choice : Pattern) : Pattern :=
  match choice.released with
  | alt empty empty | empty => condition
  | alt accepted refused => conditional condition accepted refused
  | accepted => conditional condition accepted empty

/-- Reads the bounds of a counted repetition, after the opening brace. -/
def bounds? (mode : Mode) (cs : List Char) : Option ((Nat × Option Nat) × List Char) :=
  let cs := mode.skip cs
  let digits := cs.takeWhile Char.isDigit
  match Address.digits? digits, mode.skip (cs.drop digits.length) with
  | some least, '\x7d' :: rest => some ((least, some least), rest)
  | some least, ',' :: rest => limit? least rest
  | none, ',' :: rest => limit? 0 rest
  | _, _ => none
where
  /-- Reads the greater bound. -/
  limit? (least : Nat) (cs : List Char) : Option ((Nat × Option Nat) × List Char) :=
    let cs := mode.skip cs
    let digits := cs.takeWhile Char.isDigit
    match mode.skip (cs.drop digits.length) with
    | '\x7d' :: rest => some ((least, Address.digits? digits), rest)
    | _ => none

/-- Reads a quantifier; none if the text does not start with one. -/
def quantifier? (mode : Mode) : List Char → Option ((Nat × Option Nat) × List Char)
  | '*' :: rest => some ((0, none), rest)
  | '+' :: rest => some ((1, none), rest)
  | '?' :: rest => some ((0, some 1), rest)
  | '\x7b' :: rest => bounds? mode rest
  | _ => none

/-- Whether the pattern can be repeated. -/
def isRepeatable : Pattern → Bool
  | empty | position _ | around _ _ _ => false
  | _ => true

/-- Reads what comes after a pattern: a quantifier with its marks, or nothing. -/
def quantified? (mode : Mode) (p : Pattern) (cs : List Char) : Option (Pattern × List Char) :=
  match quantifier? mode (mode.skip cs) with
  | none => some (p, cs)
  | some ((least, most), rest) =>
    if isRepeatable p && most.all (least ≤ ·) then
      let (short, rest) := match mode.skip rest with
        | '?' :: rest => (true, rest)
        | rest => (false, rest)
      let repeated := iterate p least most (short == mode.swapGreed)
      match rest with
      | '+' :: rest => some (atomic repeated, rest)
      | rest => some (repeated, rest)
    else none

/-- Cuts a class off a text, after its opening bracket: brackets inside it come in pairs, but for a
closing one in the first place.  Remarks are left out of it, and blanks where they are skipped. -/
def cutClass? (mode : Mode) (cs : List Char) : Option (List Char × List Char) :=
  match cs with
  | '^' :: ']' :: rest => (go 0 none rest).map fun (inside, rest) => ('^' :: ']' :: inside, rest)
  | '^' :: rest => (go 0 none rest).map fun (inside, rest) => ('^' :: inside, rest)
  | ']' :: rest => (go 0 none rest).map fun (inside, rest) => (']' :: inside, rest)
  | cs => go 0 none cs
where
  /-- Cuts where the bracket closes that was opened before the given number of others.  The text may
  start inside of a remark. -/
  go : (nested : Nat) → Option Remark → List Char → Option (List Char × List Char)
    | _, _, [] => none
    | nested, some .line, c :: rest => go nested (if c = '\n' then none else some .line) rest
    | nested, some .group, '\\' :: _ :: rest => go nested (some .group) rest
    | nested, some .group, c :: rest => go nested (if c = ')' then none else some .group) rest
    | nested, none, '\\' :: c :: rest =>
      (go nested none rest).map fun (inside, rest) => ('\\' :: c :: inside, rest)
    | nested, none, '(' :: '?' :: '#' :: rest => go nested (some .group) rest
    | 0, none, ']' :: rest => some ([']'], rest)
    | nested, none, c :: rest =>
      if mode.spaced && c = '#' then go nested (some .line) rest
      else if mode.spaced && Mode.isBlank c then go nested none rest
      else
        let nested := if c = '[' then nested + 1 else if c = ']' then nested - 1 else nested
        (go nested none rest).map fun (inside, rest) => (c :: inside, rest)

/-- Reads a class after its opening bracket. -/
def classOf? (mode : Mode) (cs : List Char) : Option (Pattern × List Char) :=
  (cutClass? mode cs).bind fun (inside, rest) =>
    match Class.ofChars { alphabet := mode.toAlphabet } inside with
    | .ok (set, []) => some (.one set, rest)
    | _ => none

/-- Reads an escape after its backslash.  No brace can follow the boundary of a word. -/
def escaped? (mode : Mode) (cs : List Char) : Option (Pattern × List Char) :=
  match Escape.read? mode.toAlphabet cs with
  | some (.set s, rest) => some (.one s, rest)
  | some (.char c, rest) => some (mode.single c, rest)
  | some (.condition c, rest) =>
    let isBoundary := c = .wordBoundary || c = .noWordBoundary
    if isBoundary && rest.head? = some '\x7b' then none else some (position c, rest)
  | some (.bell, rest) => some (mode.single '\x07', rest)
  | some (.unknownProperty, _) | some (.specialBoundary, _) | some (.reference, _) | none => none

/-- Whether the pattern can be looked for behind a position. -/
def canBeBehind (p : Pattern) : Bool := eachHasWidth p.released
where
  /-- Whether each alternative has a width. -/
  eachHasWidth : Pattern → Bool
    | alt left right => (width? left).isSome && eachHasWidth right
    | p => (width? p).isSome

/-- What is known while a text is read. -/
structure State where
  mode : Mode
  groups : Groups := {}

namespace State

/-- Drops remarks, and blanks where they are skipped. -/
def skip (s : State) (cs : List Char) : List Char := s.mode.skip cs

/-- The pattern for a reference, after which the rest of the text is read. -/
def referred? (s : State) : Option (Reference × List Char) → Option (Pattern × State × List Char)
  | some (r, rest) => (s.groups.refer? r).map fun (n, groups) => (same n, { s with groups }, rest)
  | none => none

end State

mutual

/-- Reads alternatives up to a closing parenthesis or the end.  There may have been others. -/
def readAlternatives? : (fuel depth : Nat) → (isFirst : Bool) → State → List Char →
    Option (Pattern × State × List Char)
  | 0, _, _, _, _ => none
  | fuel + 1, depth, isFirst, s, cs =>
    match readSequence? fuel depth s [] cs with
    | some (left, s, '|' :: rest) =>
      (readAlternatives? fuel depth false s rest).map fun (right, found) => (alt left right, found)
    | some (p, s, rest) => if isFirst && s.groups.isMixed then none else some (p, s, rest)
    | none => none

/-- Reads a sequence up to a bar, a closing parenthesis or the end.  `before` holds what has been
read so far, the last part first. -/
def readSequence? : (fuel depth : Nat) → State → (before : List Pattern) → List Char →
    Option (Pattern × State × List Char)
  | 0, _, _, _, _ => none
  | fuel + 1, depth, s, before, cs =>
    match s.skip cs with
    | [] => some (sequence before.reverse, s, [])
    | '|' :: rest => some (sequence before.reverse, s, '|' :: rest)
    | ')' :: rest => some (sequence before.reverse, s, ')' :: rest)
    | cs =>
      match readPart? fuel depth s cs with
      | some (p, s, rest) =>
        match quantified? s.mode p rest with
        | some (p, rest) => readSequence? fuel depth s (p :: before) rest
        | none => none
      | none => none

/-- Reads what a quantifier applies to, and says what is known after it. -/
def readPart? : (fuel depth : Nat) → State → List Char → Option (Pattern × State × List Char)
  | 0, _, _, _ => none
  | fuel + 1, depth, s, cs =>
    match cs with
    | [] => none
    | '(' :: rest =>
      match depth with
      | 0 => none
      | depth + 1 =>
        let group (s : State) (rest : List Char) : Option (Pattern × State × List Char) :=
          match readAlternatives? fuel depth true s rest with
          | some (p, s, ')' :: rest) => some (p, s, rest)
          | _ => none
        match Opening.read? Opening.plainName? (s.skip rest) with
        | some (.counted name, rest) =>
          let groups := s.groups.begin name
          (group { s with groups } rest).map fun (p, found) => (.group groups.count p, found)
        | some (.atomic, rest) => (group s rest).map fun (p, found) => (atomic p, found)
        | some (.around ahead holds, rest) =>
          (group s rest).bind fun (p, found) =>
            if ahead || canBeBehind p then some (around ahead holds p, found) else none
        | some (.switches, rest) =>
          match s.mode.switches? rest with
          | some (mode, ':', rest) =>
            (group { s with mode } rest).map fun (p, after, rest) =>
              (holding p, { after with mode := s.mode }, rest)
          | some (mode, _, rest) => some (empty, { s with mode }, rest)
          | none => none
        | some (.reference, rest) => s.referred? (Reference.ofName? rest)
        | some (.conditional, rest) =>
          let condition :=
            if startsReference rest then s.referred? (Reference.ofCondition? rest)
            else readAlternatives? fuel depth true s rest
          match condition.map fun (p, s, rest) => (p, s, s.skip rest) with
          | some (p, s, ')' :: rest) =>
            (group s rest).bind fun (choice, found) =>
              let isBare := found.2.length + 1 = rest.length
              if isBare && !isReference p then none
              else some (deciding (asCondition p) choice, found)
          | _ => none
        | none => none
    | '[' :: rest => (classOf? s.mode rest).map fun (p, rest) => (p, s, rest)
    | '\\' :: 'K' :: rest => some (atomic empty, s, rest)
    | '\\' :: 'G' :: rest => some (atomic (position .start), s, rest)
    | '\\' :: 'k' :: rest => s.referred? (Reference.read? ('k' :: rest))
    | '\\' :: c :: rest =>
      if c.isDigit then s.referred? (Reference.read? (c :: rest))
      else (escaped? s.mode (c :: rest)).map fun (p, rest) => (p, s, rest)
    | '.' :: rest => some (s.mode.point, s, rest)
    | '^' :: rest => some (s.mode.startAnchor, s, rest)
    | '$' :: rest => some (s.mode.stopAnchor, s, rest)
    | c :: rest =>
      if c = '*' ∨ c = '+' ∨ c = '?' ∨ c = '\\' then none else some (s.mode.single c, s, rest)

end

/-- Reads the pattern that a whole text spells, whatever its size.  Each character takes at most
three nested calls, which bounds the fuel. -/
def ofText? (mode : Mode) (text : String) : Option Pattern :=
  let cs := text.toList
  match readAlternatives? (3 * cs.length + 3) maxGroups true { mode } cs with
  | some (p, s, []) => some (p.keepNumbers s.groups.referred)
  | _ => none

/-- Whether a control character is told by a letter in a text. -/
def namesControl : List Char → Bool
  | '\\' :: 'c' :: _ => true
  | '\\' :: _ :: rest => namesControl rest
  | _ :: rest => namesControl rest
  | [] => false

/-- Whether a character is told in a text by more than eight digits in braces. -/
def hasLongNumber : List Char → Bool
  | '\\' :: c :: '\x7b' :: rest =>
    (['x', 'u', 'U'].contains c && 8 < (rest.takeWhile Address.isHexDigit).length)
      || hasLongNumber rest
  | '\\' :: _ :: rest => hasLongNumber rest
  | _ :: rest => hasLongNumber rest
  | [] => false

/-- Reads the pattern that a text spells.  Beyond the grammar, named sets hold characters of all
scripts, and no letter tells a control character any more. -/
def parse? (text : String) : Option Pattern :=
  let found := match Grammar.check text with
    | .ok _ => ofText? {} text
    | .error (.beyond rest) => if namesControl rest then none else ofText? { wide := true } text
    | .error .malformed => none
  if hasLongNumber text.toList then none else found.filter isSmall

end Pattern

end LintConfig
