import LintConfig.Uri

/-!
# Identifiers with letters of all scripts

An identifier may hold characters beyond ASCII wherever it may hold a letter, but for its scheme,
its port and an address in brackets.  Those for private use belong into the query.
`Uri.ofInternationalText?` reads such an identifier with the tilde in the place of each of them, as
the tilde may stand in the same places.
-/

namespace LintConfig

namespace Uri

/-- Whether a character beyond ASCII may stand wherever one may.  In every plane but the first, the
last two characters may not. -/
def isScriptChar (c : Char) : Bool :=
  let n := c.toNat
  (0xA0 ≤ n && n ≤ 0xD7FF) || (0xF900 ≤ n && n ≤ 0xFDCF) || (0xFDF0 ≤ n && n ≤ 0xFFEF)
    || (0x10000 ≤ n && n ≤ 0xDFFFF && n % 0x10000 ≤ 0xFFFD) || (0xE1000 ≤ n && n ≤ 0xEFFFD)

/-- Whether a character is one for private use. -/
def isPrivateChar (c : Char) : Bool :=
  let n := c.toNat
  (0xE000 ≤ n && n ≤ 0xF8FF) || (0xF0000 ≤ n && n % 0x10000 ≤ 0xFFFD)

/-- A text with the tilde in the place of characters. -/
def withTildes (isReplaced : Char → Bool) (cs : List Char) : List Char :=
  cs.map fun c => if isReplaced c then '~' else c

/-- Whether there is no character beyond ASCII between the first brackets of a text. -/
def hasPlainBrackets (cs : List Char) : Bool :=
  match (cutAt '[' cs).2 with
  | some rest => (cutAt ']' rest).1.all fun c => c.toNat < 0x80
  | none => true

/-- Reads an identifier or a relative reference that may hold characters beyond ASCII. -/
def ofInternationalText? (text : String) : Option Uri :=
  let (address, fragment) := cutAt '#' text.toList
  let (hierarchy, query) := cutAt '?' address
  let after (mark : Char) (cs : Option (List Char)) : List Char := (cs.map (mark :: ·)).getD []
  if hasPlainBrackets hierarchy then
    ofText? <| String.ofList <| withTildes isScriptChar hierarchy
      ++ after '?' (query.map (withTildes fun c => isScriptChar c || isPrivateChar c))
      ++ after '#' (fragment.map (withTildes isScriptChar))
  else none

end Uri

end LintConfig
