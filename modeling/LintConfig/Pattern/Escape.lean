import LintConfig.Address
import LintConfig.Pattern

/-!
# Escapes in patterns

What a backslash stands for together with the characters after it.  `Escape.read?` knows the escapes
of both places where they occur, inside and outside of classes.
-/

namespace LintConfig

/-- The meaning of an escape. -/
inductive Pattern.Escape where
  /-- Any character of a set. -/
  | set (s : CharSet)
  /-- One character. -/
  | char (c : Char)
  /-- A condition on the position. -/
  | condition (c : Pattern.Condition)
  /-- The bell, which only classes may name in this way. -/
  | bell
  /-- The characters with a property of which the name is not known. -/
  | unknownProperty
  /-- A boundary of a word with a name of its own, which no pattern can ask for. -/
  | specialBoundary
  /-- The first digit of a reference to a group. -/
  | reference

namespace Pattern.Escape

/-- The character with a code point, if there is one. -/
def charAt? (n : Nat) : Option Char := if n.isValidChar then some (Char.ofNat n) else none

/-- Reads a code point: the given number of hexadecimal digits, or any number of them in braces. -/
def codePoint? (count : Nat) (cs : List Char) : Option (Char × List Char) :=
  match cs with
  | '\x7b' :: rest =>
    match cutAt '\x7d' rest with
    | (digits, some rest) =>
      if !digits.isEmpty && digits.all Address.isHexDigit then
        (charAt? (Address.hexNumber digits)).map (·, rest)
      else none
    | _ => none
  | cs =>
    let digits := cs.take count
    if digits.length = count && digits.all Address.isHexDigit then
      (charAt? (Address.hexNumber digits)).map (·, cs.drop count)
    else none

/-- Reads the name of a property: a letter, or a text in braces. -/
def propertyName? : List Char → Option (List Char × List Char)
  | '\x7b' :: rest =>
    match cutAt '\x7d' rest with
    | (name, some rest) => some (name, rest)
    | _ => none
  | c :: rest => if c = '\\' then none else some ([c], rest)
  | [] => none

/-- The characters with the property of a name, or those without it. -/
def property (a : Alphabet) (negated : Bool) (name : List Char) : Escape :=
  match CharProperty.named? name with
  | some (s, isOther) =>
    let s := a.fold s
    set (if negated != isOther then .complement s else s)
  | none => unknownProperty

/-- The names of the boundaries of words that are written in braces. -/
def boundaryNames : List String := ["start", "end", "start-half", "end-half"]

/-- Reads the boundary of a word, after its letter.  Braces name a special one, unless what they
begin with shows that they count repetitions. -/
def boundary? : List Char → Option (Escape × List Char)
  | '\x7b' :: c :: rest =>
    if c.isAlpha || c = '-' then
      match cutAt '\x7d' (c :: rest) with
      | (name, some rest) =>
        if boundaryNames.contains (String.ofList name) then some (specialBoundary, rest) else none
      | _ => none
    else some (condition .wordBoundary, '\x7b' :: c :: rest)
  | rest => some (condition .wordBoundary, rest)

/-- The condition that an escaped character names. -/
def condition? (c : Char) : Option Condition :=
  [('A', .start), ('z', .stop), ('B', .noWordBoundary), ('<', .wordStart),
    ('>', .wordStop)].lookup c

/-- The control character that an escaped letter names. -/
def control? (a : Alphabet) (c : Char) : Option Char :=
  if a.wide && c = 'e' then some '\x1b'
  else [('f', '\x0c'), ('n', '\n'), ('r', '\r'), ('t', '\t'), ('v', '\x0b')].lookup c

/-- Whether an escaped character stands for itself: one that is neither letter nor digit, and for a
narrow alphabet an ASCII one. -/
def isPlain (a : Alphabet) (c : Char) : Bool :=
  if c.toNat < 0x80 then !c.isAlphanum else a.wide

/-- Reads an escape after its backslash. -/
def read? (a : Alphabet) : List Char → Option (Escape × List Char)
  | [] => none
  | 'x' :: rest => (codePoint? 2 rest).map fun (c, r) => (char c, r)
  | 'u' :: rest => (codePoint? 4 rest).map fun (c, r) => (char c, r)
  | 'U' :: rest => (codePoint? 8 rest).map fun (c, r) => (char c, r)
  | 'p' :: rest => (propertyName? rest).map fun (name, r) => (property a false name, r)
  | 'P' :: rest => (propertyName? rest).map fun (name, r) => (property a true name, r)
  | 'a' :: rest => some (bell, rest)
  | 'b' :: rest => boundary? rest
  | 'c' :: letter :: rest =>
    if letter.isAlpha then some (char (Char.ofNat (letter.toNat % 32)), rest) else none
  | c :: rest =>
    if c.isDigit then some (reference, rest)
    else
      match a.set? c, condition? c, control? a c with
      | some s, _, _ => some (set s, rest)
      | _, some asked, _ => some (condition asked, rest)
      | _, _, some control => some (char control, rest)
      | none, none, none => if isPlain a c then some (char c, rest) else none

end Pattern.Escape

end LintConfig
