import LintConfig.Pieces
import LintConfig.Pattern.Alphabet

/-!
# Names of hosts

`Host.isName` says which texts name a host: letters and numbers of all scripts, hyphens and points.

`Host.isInternational` is stricter: every label between points has to be fit for the system of
names, in which a label is ASCII or stands for one that is.
-/

namespace LintConfig

namespace Host

/-- Whether a text is the name of a host: it has at most 255 characters and no hyphen at either end,
and at most 63 characters stand between points. -/
def isName (cs : List Char) : Bool :=
  !cs.isEmpty && cs.length ≤ 255 && cs.head? != some '-' && cs.getLast? != some '-'
    && cs.all (fun c => c = '-' || c = '.' || CharSet.anyLetterOrNumber.contains c)
    && (pieces '.' cs).all fun label => label.length ≤ 63

/-! ## Labels of all scripts -/

/-- Whether a character may stand in a label: of ASCII only letters, digits and the hyphen. -/
def isLabelChar (c : Char) : Bool :=
  if c.toNat < 0x80 then c.isAlphanum || c = '-' else CharSet.anyWord.contains c

/-- What a label begins with that stands for another one. -/
def encodedMark : List Char := "xn--".toList

/-- Whether a text is a label.  Only one that stands for another label has two hyphens in the third
and fourth places. -/
def isLabel (cs : List Char) : Bool :=
  let isEncoded := encodedMark.isPrefixOf (cs.map Char.toLower)
  !cs.isEmpty && cs.length ≤ 63 && cs.head? != some '-' && cs.getLast? != some '-'
    && cs.all isLabelChar && (isEncoded || (cs.drop 2).take 2 != ['-', '-'])

/-- Characters that count as points. -/
def isPoint (c : Char) : Bool := ['.', '\u3002', '\uff0e', '\uff61'].contains c

/-- Whether a text is the name of a host with labels of all scripts. -/
def isInternational (cs : List Char) : Bool :=
  cs.length ≤ 253 && (pieces '.' (cs.map fun c => if isPoint c then '.' else c)).all isLabel

end Host

end LintConfig
