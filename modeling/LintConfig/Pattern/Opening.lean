import LintConfig.Pattern.Alphabet
import LintConfig.Pieces

/-!
# How groups open

After the parenthesis that opens a group, a question mark and further signs say what kind of group
it is.  `Opening.read?` reads them.

**Names** are read in two ways.  The grammar wants a letter first and lets some signs follow, and
whoever refers to a group knows letters and numbers only.
-/

namespace LintConfig

/-- The letters that switch something on, and those that switch it off. -/
structure Pattern.Switches where
  on : List Char
  off : List Char

/-- Whether a letter is on after the switches, if it was as given before. -/
def Pattern.Switches.after (s : Pattern.Switches) (letter : Char) (before : Bool) : Bool :=
  if s.on.contains letter then true else if s.off.contains letter then false else before

/-- The kinds of groups. -/
inductive Pattern.Opening where
  /-- A group that is counted, and may have a name. -/
  | counted (name : Option (List Char))
  /-- A group that is not counted, or no group: what is switched is told first. -/
  | switches
  /-- A look at what is around. -/
  | around (ahead : Bool) (holds : Bool)
  /-- A group of which the preferred match is kept. -/
  | atomic
  /-- No group: the name of a group that is referred to follows. -/
  | reference
  /-- A conditional, of which the condition follows. -/
  | conditional

namespace Pattern.Opening

/-- Whether a character is a letter, a number or a low line. -/
def isNameSign (c : Char) : Bool := c = '_' || CharSet.anyLetterOrNumber.contains c

/-- Whether a character may begin the name of a group. -/
def startsName (c : Char) : Bool := c = '_' || CharProperty.alphabetic.set.contains c

/-- Whether a character may stand in the name of a group, after its beginning. -/
def isInName (c : Char) : Bool := isNameSign c || ['.', '[', ']'].contains c

/-- Reads the name of a group up to the sign that ends it, by the grammar. -/
def name? (cs : List Char) : Option (List Char × List Char) :=
  match cutAt '>' cs with
  | (first :: others, some rest) =>
    if startsName first && others.all isInName then some (first :: others, rest) else none
  | _ => none

/-- Reads the name of a group up to the sign that ends it, by what a name may refer to. -/
def plainName? (cs : List Char) : Option (List Char × List Char) :=
  let name := cs.takeWhile isNameSign
  match cs.drop name.length with
  | '>' :: rest => if name.isEmpty then none else some (name, rest)
  | _ => none

/-- Reads switches up to the sign that ends them, which is returned with the rest, by the grammar.
Each letter stands once, a hyphen has letters after it, and a parenthesis has some before it. -/
def switches? (cs : List Char) : Option (Switches × Char × List Char) :=
  let isEnd (c : Char) : Bool := c = ':' || c = ')'
  let letters := cs.takeWhile fun c => !isEnd c
  match cs.dropWhile fun c => !isEnd c with
  | [] => none
  | c :: rest =>
    let (on, off) := cutAt '-' letters
    if letters.Nodup && letters.all ['i', 'm', 's', 'U', 'u', 'x', 'R', '-'].contains
        && off != some [] && (c = ':' || !letters.isEmpty) then
      some (⟨on, off.getD []⟩, c, rest)
    else none

/-- Reads how a group opens, after its parenthesis.  How names are read is given. -/
def read? (name? : List Char → Option (List Char × List Char)) (cs : List Char) :
    Option (Opening × List Char) :=
  match cs with
  | '?' :: '=' :: rest => some (around true true, rest)
  | '?' :: '!' :: rest => some (around true false, rest)
  | '?' :: '<' :: '=' :: rest => some (around false true, rest)
  | '?' :: '<' :: '!' :: rest => some (around false false, rest)
  | '?' :: 'P' :: '<' :: rest => (name? rest).map fun (name, rest) => (counted (some name), rest)
  | '?' :: '<' :: rest => (name? rest).map fun (name, rest) => (counted (some name), rest)
  | '?' :: 'P' :: '=' :: rest => some (reference, rest)
  | '?' :: '>' :: rest => some (atomic, rest)
  | '?' :: '(' :: rest => some (conditional, rest)
  | '?' :: rest => some (switches, rest)
  | cs => some (counted none, cs)

end Pattern.Opening

end LintConfig
