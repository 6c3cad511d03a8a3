import LintConfig.Double.Decimal
import LintConfig.Toml.Document

/-!
# Writing TOML

How values are written into a configuration file: strings between double quotes, keys bare where
they can be, arrays and tables on one line.
-/

namespace LintConfig

namespace Toml

/-- Floats are written without exponents and always with a point. -/
def floatLayout : Double.Layout where
  positional _ := true
  wholeMark := ['.', '0']

/-- A control character by four hexadecimal digits. -/
def hexEscape (c : Char) : List Char :=
  ['\\', 'u', '0', '0', Nat.digitChar (c.toNat / 16), Nat.digitChar (c.toNat % 16)]

/-- A character as it stands between double quotes. -/
def escape (c : Char) : List Char :=
  if c = '"' then ['\\', '"']
  else if c = '\\' then ['\\', '\\']
  else if c = '\n' then ['\\', 'n']
  else if c = '\r' then ['\\', 'r']
  else if isPlain c then [c]
  else hexEscape c

/-- A string between double quotes. -/
def quote (s : String) : List Char := '"' :: s.toList.flatMap escape ++ ['"']

/-- A key: bare if it can be, otherwise quoted. -/
def keyChars (key : String) : List Char :=
  if key ≠ "" ∧ key.toList.all isBareKey then key.toList else quote key

/-- The text of an integer. -/
def integerChars (i : Int) : List Char :=
  (if i < 0 then ['-'] else []) ++ Nat.toDigits 10 i.natAbs

namespace Value

mutual

/-- The text of a value. -/
def chars : Value → List Char
  | string s => quote s
  | integer i => integerChars i
  | float (some d) => d.format floatLayout
  | float none => ['n', 'a', 'n']
  | boolean true => ['t', 'r', 'u', 'e']
  | boolean false => ['f', 'a', 'l', 's', 'e']
  | dateTime d => d.chars
  | array [] => ['[', ']']
  | array (v :: rest) => '[' :: v.chars ++ itemsChars rest
  | table [] => ['\x7b', '\x7d']
  | table ((k, v) :: rest) =>
    '\x7b' :: ' ' :: keyChars k ++ ' ' :: '=' :: ' ' :: v.chars ++ entriesChars rest

/-- The items after the first one, and the closing bracket. -/
def itemsChars : List Value → List Char
  | [] => [']']
  | v :: rest => ',' :: ' ' :: v.chars ++ itemsChars rest

/-- The entries after the first one, and the closing brace. -/
def entriesChars : List (String × Value) → List Char
  | [] => [' ', '\x7d']
  | (k, v) :: rest => ',' :: ' ' :: keyChars k ++ ' ' :: '=' :: ' ' :: v.chars ++ entriesChars rest

end

end Value

/-- A pair on a line of its own. -/
def pairLine (key : String) (v : Value) : List Char :=
  keyChars key ++ ' ' :: '=' :: ' ' :: v.chars ++ ['\n']

/-- A table under a header of its own, with one line for each pair. -/
def sectionText (name : String) (pairs : List (String × Value)) : String :=
  String.ofList <|
    '[' :: keyChars name ++ ']' :: '\n' :: pairs.flatMap fun pair => pairLine pair.1 pair.2

end Toml

end LintConfig
