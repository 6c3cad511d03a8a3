import LintConfig.Pattern.Folding

/-!
# Sets of characters

A `CharSet` lists the ranges of code points that its characters come from, in ascending order and
apart.  A range up to the last code point before the surrogates takes them in, so that ranges with
nothing but surrogates between them are one.

The named sets at the end are those that patterns can ask for by a name: digits, blanks and word
characters are ASCII here but for a few blanks.
-/

namespace LintConfig

/-- A set of characters. -/
structure CharSet where
  /-- The ranges of code points, each with its first and its last one. -/
  ranges : List (Nat × Nat)

namespace CharSet

/-- Joins ranges in ascending order that overlap or follow each other without a gap. -/
def joined : List (Nat × Nat) → List (Nat × Nat)
  | (a, b) :: (c, d) :: rest =>
    if c ≤ b + 1 then joined ((a, max b d) :: rest) else (a, b) :: joined ((c, d) :: rest)
  | short => short
termination_by l => l.length

/-- The range with the surrogates if it goes up to them. -/
def withSurrogates (r : Nat × Nat) : Nat × Nat :=
  if r.1 ≤ 0xd7ff ∧ 0xd7ff ≤ r.2 then (r.1, max r.2 0xdfff) else r

/-- Whether a range comes before another one, or begins with it. -/
def isBefore (r s : Nat × Nat) : Bool := r.1 ≤ s.1

/-- The characters whose code points lie in one of the ranges. -/
def ofRanges (ranges : List (Nat × Nat)) : CharSet :=
  ⟨joined ((ranges.map withSurrogates).mergeSort isBefore)⟩

/-- Whether a code point lies in one of some ranges in ascending order. -/
def isWithin (n : Nat) : List (Nat × Nat) → Bool
  | [] => false
  | (low, high) :: rest => if n < low then false else n ≤ high || isWithin n rest

/-- Whether a character is in the set. -/
def contains (s : CharSet) (c : Char) : Bool := isWithin c.toNat s.ranges

/-- The set of no characters. -/
def empty : CharSet := ⟨[]⟩

/-- The characters from one to another, both included. -/
def range (low high : Char) : CharSet := ofRanges [(low.toNat, high.toNat)]

/-- The characters that are in one of the sets. -/
def union (a b : CharSet) : CharSet := ⟨joined (a.ranges.merge b.ranges isBefore)⟩

/-- The greatest code point. -/
def last : Nat := 0x10ffff

/-- The gaps between ranges in ascending order, from a code point on. -/
def gaps : (start : Nat) → List (Nat × Nat) → List (Nat × Nat)
  | start, [] => if start ≤ last then [(start, last)] else []
  | start, (low, high) :: rest =>
    if start < low then (start, low - 1) :: gaps (high + 1) rest else gaps (high + 1) rest

/-- The characters that are not in the set. -/
def complement (a : CharSet) : CharSet := ⟨gaps 0 a.ranges⟩

/-- The characters that are in both sets. -/
def intersection (a b : CharSet) : CharSet := complement (union (complement a) (complement b))

/-- The characters of the first set that are not in the second. -/
def difference (a b : CharSet) : CharSet := intersection a (complement b)

/-- The characters that are in one of the sets only. -/
def symmetricDifference (a b : CharSet) : CharSet := union (difference a b) (difference b a)

/-- The characters that are in the set in upper or in lower case. -/
def caseless (a : CharSet) : CharSet :=
  let folded := union a (ofRanges (Folding.images a.ranges))
  union folded (ofRanges (Folding.sources folded.ranges))

/-- The set of one character. -/
def single (c : Char) : CharSet := range c c

/-- The set of the characters in a list. -/
def ofList (cs : List Char) : CharSet := ofRanges (cs.map fun c => (c.toNat, c.toNat))

/-- The characters that are in one of several sets. -/
def unions (sets : List CharSet) : CharSet := ofRanges (sets.flatMap ranges)

/-! ## Named sets -/

/-- Every character. -/
def all : CharSet := complement empty

/-- The ASCII characters. -/
def ascii : CharSet := range '\x00' '\x7f'

/-- The ASCII digits. -/
def digit : CharSet := range '0' '9'

/-- The lower-case ASCII letters. -/
def lower : CharSet := range 'a' 'z'

/-- The upper-case ASCII letters. -/
def upper : CharSet := range 'A' 'Z'

/-- The ASCII letters. -/
def letter : CharSet := union upper lower

/-- The ASCII letters, the ASCII digits and the underscore. -/
def word : CharSet := unions [letter, digit, single '_']

/-- Blanks: the ASCII ones, the no-break space, the em space, the paragraph separator and the
zero-width no-break space. -/
def blank : CharSet :=
  ofList [' ', '\t', '\n', '\r', '\x0b', '\x0c', '\u00a0', '\u2003', '\u2029', '\ufeff']

/-- Every character but the line feed. -/
def dot : CharSet := complement (single '\n')

/-- The set that a class names between colons. -/
def named? (name : String) : Option CharSet :=
  [("alnum", union letter digit), ("alpha", letter), ("ascii", ascii),
    ("blank", ofList ['\t', ' ']), ("cntrl", union (range '\x00' '\x1f') (single '\x7f')),
    ("digit", digit), ("graph", range '!' '~'), ("lower", lower), ("print", range ' ' '~'),
    ("punct", difference (range '!' '~') (union letter digit)),
    ("space", ofList ['\t', '\n', '\x0b', '\x0c', '\r', ' ']), ("upper", upper), ("word", word),
    ("xdigit", unions [digit, range 'A' 'F', range 'a' 'f'])].lookup name

end CharSet

end LintConfig
