import LintConfig.Json
import LintConfig.Double.Decimal

/-!
# JSON text

How values are written, in error messages, in reports and as the key of a cache.

**Compact form.**  `Json.text` writes a value without blanks.  Strings escape the quote, the
backslash and control characters and nothing else; doubles are told from integers by a point or an
exponent mark, so two different values never have the same text.

**Indented form.**  `Json.pretty` puts every item and member on a line of its own.
-/

namespace LintConfig

/-- A double with a decimal exponent from -5 to 15 is written in positional notation and always
with a point; any other with an exponent mark. -/
def jsonLayout : Double.Layout where
  positional e := decide (-5 ≤ e ∧ e ≤ 15)
  wholeMark := ['.', '0']

namespace Number

/-- The decimal text of an integer. -/
def integerChars (i : Int) : List Char :=
  (if i < 0 then ['-'] else []) ++ Nat.toDigits 10 i.natAbs

/-- The text of a number. -/
def chars : Number → List Char
  | integer i => integerChars i
  | double d => d.format jsonLayout

end Number

namespace Json

/-- A control character without a short escape, by two hexadecimal digits. -/
def hexEscape (c : Char) : List Char :=
  ['\\', 'u', '0', '0', Nat.digitChar (c.toNat / 16), Nat.digitChar (c.toNat % 16)]

/-- A character as it stands between the quotes of a string. -/
def escape (c : Char) : List Char :=
  if c = '"' then ['\\', '"']
  else if c = '\\' then ['\\', '\\']
  else if c = '\n' then ['\\', 'n']
  else if c = '\t' then ['\\', 't']
  else if c = '\r' then ['\\', 'r']
  else if c.toNat = 8 then ['\\', 'b']
  else if c.toNat = 12 then ['\\', 'f']
  else if c.toNat < 32 then hexEscape c
  else [c]

/-- A string with its quotes. -/
def quote (s : String) : List Char := '"' :: s.toList.flatMap escape ++ ['"']

mutual

/-- The compact text of a value. -/
def chars : Json → List Char
  | null => ['n', 'u', 'l', 'l']
  | bool true => ['t', 'r', 'u', 'e']
  | bool false => ['f', 'a', 'l', 's', 'e']
  | num n => n.chars
  | str s => quote s
  | arr [] => ['[', ']']
  | arr (v :: rest) => '[' :: v.chars ++ itemsChars rest
  | obj [] => ['\x7b', '\x7d']
  | obj ((k, v) :: rest) => '\x7b' :: quote k ++ ':' :: v.chars ++ membersChars rest

/-- The items after the first one, and the closing bracket. -/
def itemsChars : List Json → List Char
  | [] => [']']
  | v :: rest => ',' :: v.chars ++ itemsChars rest

/-- The members after the first one, and the closing brace. -/
def membersChars : List (String × Json) → List Char
  | [] => ['\x7d']
  | (k, v) :: rest => ',' :: quote k ++ ':' :: v.chars ++ membersChars rest

end

/-- The compact text of a value. -/
def text (v : Json) : String := String.ofList v.chars

/-! ## Indented form -/

/-- The start of a line at a nesting depth, two blanks for each level. -/
def newline (depth : Nat) : List Char := '\n' :: List.replicate (2 * depth) ' '

mutual

/-- The indented text of a value that stands at a nesting depth. -/
def prettyChars (depth : Nat) : Json → List Char
  | null => ['n', 'u', 'l', 'l']
  | bool true => ['t', 'r', 'u', 'e']
  | bool false => ['f', 'a', 'l', 's', 'e']
  | num n => n.chars
  | str s => quote s
  | arr [] => ['[', ']']
  | arr (v :: rest) =>
    '[' :: newline (depth + 1) ++ v.prettyChars (depth + 1) ++ prettyItems depth rest
  | obj [] => ['\x7b', '\x7d']
  | obj ((k, v) :: rest) =>
    '\x7b' :: newline (depth + 1) ++ quote k ++ ':' :: ' ' :: v.prettyChars (depth + 1)
      ++ prettyMembers depth rest

/-- The items after the first one, each on its line, and the closing bracket on its own. -/
def prettyItems (depth : Nat) : List Json → List Char
  | [] => newline depth ++ [']']
  | v :: rest =>
    ',' :: newline (depth + 1) ++ v.prettyChars (depth + 1) ++ prettyItems depth rest

/-- The members after the first one, each on its line, and the closing brace on its own. -/
def prettyMembers (depth : Nat) : List (String × Json) → List Char
  | [] => newline depth ++ ['\x7d']
  | (k, v) :: rest =>
    ',' :: newline (depth + 1) ++ quote k ++ ':' :: ' ' :: v.prettyChars (depth + 1)
      ++ prettyMembers depth rest

end

/-- The indented text of a value. -/
def pretty (v : Json) : String := String.ofList (v.prettyChars 0)

end Json

end LintConfig
