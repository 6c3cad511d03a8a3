import LintConfig.Pieces

/-!
# Templates of resource identifiers

`Template.isTemplate` says which texts are templates: literal text with expressions between braces.
An expression is an operator, which may be left out, and variables between commas.  A variable may
have the mark of a list, or a length.

**Escapes** take their digits in lower case only, and so do the names of variables.
-/

namespace LintConfig

namespace Template

/-- Whether a character is a hexadecimal digit in lower case. -/
def isHexDigit (c : Char) : Bool := c.isDigit || ('a' ≤ c && c ≤ 'f')

/-- Whether a text is made of allowed characters and of escapes. -/
def isEncoded (allowed : Char → Bool) : List Char → Bool
  | [] => true
  | '%' :: high :: low :: rest => isHexDigit high && isHexDigit low && isEncoded allowed rest
  | c :: rest => allowed c && isEncoded allowed rest

/-- Characters beyond the blank that may not stand in literal text. -/
def isSpecialChar (c : Char) : Bool :=
  ['\x22', '%', '\x27', '<', '>', '\\', '^', '\x60', '\x7b', '|', '\x7d'].contains c

/-- Characters of literal text. -/
def isLiteralChar (c : Char) : Bool := ' ' < c && !isSpecialChar c

/-- Characters of the names of variables. -/
def isNameChar (c : Char) : Bool := c.isLower || c.isDigit || c = '_'

/-- Characters that stand for a way to expand an expression. -/
def isOperator (c : Char) : Bool :=
  ['+', '#', '.', '/', ';', '?', '&', '=', ',', '!', '@', '|'].contains c

/-- Whether a text is the name of a variable. -/
def isName (cs : List Char) : Bool := !cs.isEmpty && isEncoded isNameChar cs

/-- Whether a text is a length: a number from one to 9999. -/
def isLength (cs : List Char) : Bool :=
  !cs.isEmpty && cs.length ≤ 4 && cs.all Char.isDigit && cs.head? != some '0'

/-- Whether a text is a variable. -/
def isVariable (cs : List Char) : Bool :=
  match cutAt ':' cs with
  | (name, some length) => isName name && isLength length
  | (name, none) => isName (if name.getLast? = some '*' then name.dropLast else name)

/-- Whether a text may stand between braces. -/
def isExpression (cs : List Char) : Bool :=
  let list := if (cs.head?.map isOperator).getD false then cs.tail else cs
  (pieces ',' list).all isVariable

/-- Whether a text is a template. -/
def isTemplate (cs : List Char) : Bool :=
  let isLiteral := isEncoded isLiteralChar
  match pieces '\x7b' cs with
  | [] => true
  | literal :: others =>
    isLiteral literal && others.all fun part =>
      match cutAt '\x7d' part with
      | (expression, some literal) => isExpression expression && isLiteral literal
      | _ => false

end Template

end LintConfig
