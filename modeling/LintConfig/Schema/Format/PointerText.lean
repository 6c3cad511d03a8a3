/-!
# Texts of pointers

`PointerText.isPointer` says which texts are pointers into a JSON value, and
`PointerText.isRelative` which ones start from another place: they say how many levels to go up
first, and may end there with the mark that asks for the name of that place.
-/

namespace LintConfig

namespace PointerText

/-- Whether each tilde of a text is followed by one of the digits that it escapes with. -/
def isEscaped : List Char → Bool
  | [] => true
  | '~' :: c :: rest => (c = '0' || c = '1') && isEscaped rest
  | c :: rest => c ≠ '~' && isEscaped rest

/-- Whether a text is a pointer: nothing, or segments with a slash in front of each. -/
def isPointer : List Char → Bool
  | [] => true
  | c :: rest => c = '/' && isEscaped rest

/-- Whether a text is a number in its shortest decimal form. -/
def isShortest (digits : List Char) : Bool :=
  !digits.isEmpty && (digits.length = 1 || digits.head? != some '0')

/-- Whether a text is a pointer from another place. -/
def isRelative (cs : List Char) : Bool :=
  let rest := cs.dropWhile Char.isDigit
  isShortest (cs.takeWhile Char.isDigit) && (rest = ['#'] || isPointer rest)

end PointerText

end LintConfig
