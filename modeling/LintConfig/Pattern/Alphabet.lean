import LintConfig.Pattern.Property

/-!
# Digits, blanks and word characters of all scripts

Word boundaries count the letters of every script as word characters, and so do the escapes of
patterns that look around or refer to their groups.

An `Alphabet` says which characters a pattern takes for the same, and what its named sets hold.
-/

namespace LintConfig

namespace CharSet

/-- The decimal digits of all scripts. -/
def anyDigit : CharSet := Category.set .decimalDigit

/-- The word characters of all scripts: letters and what is used like them, marks, decimal digits,
connecting punctuation and the two joiners. -/
def anyWord : CharSet :=
  unions [CharProperty.alphabetic.set, Category.setOf Category.marks, anyDigit,
    Category.set .connector, CharProperty.joinControl.set]

/-- The letters and the numbers of all scripts. -/
def anyLetterOrNumber : CharSet :=
  .union CharProperty.alphabetic.set (Category.setOf Category.numbers)

/-- White space of all scripts. -/
def anyBlank : CharSet := CharProperty.whiteSpace.set

end CharSet

/-- How a pattern takes characters. -/
structure Alphabet where
  /-- Both cases of a letter are the same. -/
  caseless : Bool := false
  /-- Named sets hold characters of all scripts, and more of them have names. -/
  wide : Bool := false

namespace Alphabet

/-- A set as it is taken. -/
def fold (a : Alphabet) (s : CharSet) : CharSet := if a.caseless then .caseless s else s

/-- The set that a letter names, which stands for the complement if it is a capital one. -/
def set? (a : Alphabet) (c : Char) : Option CharSet :=
  let digit := if a.wide then CharSet.anyDigit else .digit
  let word := if a.wide then CharSet.anyWord else a.fold .word
  let blank := if a.wide then CharSet.anyBlank else .blank
  if c = 'd' then some digit
  else if c = 'D' then some (.complement digit)
  else if c = 'w' then some word
  else if c = 'W' then some (.complement word)
  else if c = 's' then some blank
  else if c = 'S' then some (.complement blank)
  else if a.wide && c = 'h' then some CharProperty.asciiHexDigit.set
  else if a.wide && c = 'H' then some (.complement CharProperty.asciiHexDigit.set)
  else none

end Alphabet

end LintConfig
