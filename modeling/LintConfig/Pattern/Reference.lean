import LintConfig.Address
import LintConfig.Pattern.Opening

/-!
# References to groups

A pattern can ask for what one of its groups has matched.  `Reference.read?` and
`Reference.ofName?` read how the group is told, and `Groups.refer?` finds it among the groups that
have begun so far.

**Numbers.**  Groups are counted from one in the order in which they begin.  Zero stands for the
whole pattern, of which nothing is known before its match ends.

**Names and numbers** do not go together: where groups have names, plain numbers do not refer to
them.  This is asked where a sequence ends that is no part of a choice.
-/

namespace LintConfig

/-- How the group is told that is referred to. -/
inductive Pattern.Reference where
  /-- By its number alone. -/
  | plain (number : Nat)
  /-- By its name, or by its number if no group has such a name. -/
  | named (name : List Char)
  /-- By how many groups have begun after it. -/
  | back (later : Nat)

namespace Pattern.Reference

/-- Reads the reference between the signs around it, after the first of them. -/
def upTo? (close : Char) (cs : List Char) : Option (Reference × List Char) :=
  let name := cs.takeWhile Opening.isNameSign
  match name, cs.drop name.length with
  | [], '-' :: rest =>
    let digits := rest.takeWhile Char.isDigit
    match Address.digits? digits, rest.drop digits.length with
    | some (later + 1), c :: rest => if c = close then some (back later, rest) else none
    | _, _ => none
  | name, c :: rest => if c = close && !name.isEmpty then some (named name, rest) else none
  | _, [] => none

/-- Reads a name up to the parenthesis that ends it. -/
def ofName? (cs : List Char) : Option (Reference × List Char) :=
  let name := cs.takeWhile Opening.isNameSign
  match name, cs.drop name.length with
  | c :: others, ')' :: rest => some (named (c :: others), rest)
  | _, _ => none

/-- Reads a reference after its backslash. -/
def read? : List Char → Option (Reference × List Char)
  | 'k' :: '<' :: rest => upTo? '>' rest
  | 'k' :: '\'' :: rest => upTo? '\'' rest
  | cs =>
    let digits := cs.takeWhile Char.isDigit
    (Address.digits? digits).map fun n => (plain n, cs.drop digits.length)

/-- Reads a reference in the condition of a conditional. -/
def ofCondition? : List Char → Option (Reference × List Char)
  | '<' :: rest => upTo? '>' rest
  | '\'' :: rest => upTo? '\'' rest
  | cs => read? cs

end Pattern.Reference

/-- The groups that have begun so far, and what refers to them. -/
structure Pattern.Groups where
  /-- How many groups there are. -/
  count : Nat := 0
  /-- The numbers of the groups that have names. -/
  names : List (List Char × Nat) := []
  /-- The numbers of the groups that are referred to. -/
  referred : List Nat := []
  /-- Whether there is a plain number among the references. -/
  hasPlain : Bool := false

namespace Pattern.Groups

/-- With another group, which may have a name. -/
def begin (g : Groups) (name : Option (List Char)) : Groups :=
  { g with
    count := g.count + 1
    names := match name with
      | some name => (name, g.count + 1) :: g.names
      | none => g.names }

/-- The number of the group that a reference tells. -/
def number? (g : Groups) : Reference → Option Nat
  | .plain n => some n
  | .named name => g.names.lookup name <|> Address.digits? name
  | .back later => if later ≤ g.count then some (g.count - later) else none

/-- With a reference, and the number of its group; none if no such group has begun. -/
def refer? (g : Groups) (r : Reference) : Option (Nat × Groups) :=
  let hasPlain := match r with
    | .plain _ => true
    | _ => g.hasPlain
  (g.number? r).bind fun n =>
    if n ≤ g.count then some (n, { g with referred := n :: g.referred, hasPlain }) else none

/-- Whether plain numbers refer to groups although groups have names. -/
def isMixed (g : Groups) : Bool := g.hasPlain && !g.names.isEmpty

end Pattern.Groups

end LintConfig
