import LintConfig.Json
import LintConfig.Double.Decimal

/-!
# JSON documents as written

A `Document` is the syntax tree of a JSON text: members in the order of the text with every
repetition, numbers by their digits, strings by what stands between the quotes.  What the parts
*mean* is a second step, because it can fail where the syntax is fine: a number may be too large,
an escape may name half a surrogate pair, a value may be nested too deep.

**Why two steps.**  A reader that skips a member only needs its syntax.  `Document.toJson?` gives
the meaning of the parts that are used and never looks at the others.

**Nesting.**  `Document.toJson?` takes the number of levels that may still be opened, so the limit
of a reader is a parameter of the meaning and not of the grammar.
-/

namespace LintConfig

/-- One element of a string literal. -/
inductive TextUnit where
  /-- A character, written as itself or by a short escape. -/
  | char (c : Char)
  /-- A UTF-16 code unit, written as an escape with four hexadecimal digits. -/
  | code (unit : Nat)
  deriving DecidableEq

namespace TextUnit

/-- The characters that a string literal denotes.  Two escapes that form a surrogate pair are one
character; half a pair is none. -/
def decode? : List TextUnit → Option (List Char)
  | [] => some []
  | char c :: rest => (decode? rest).map (c :: ·)
  | code high :: code low :: rest =>
    if 0xD800 ≤ high ∧ high < 0xDC00 then
      if 0xDC00 ≤ low ∧ low < 0xE000 then
        (decode? rest).map (Char.ofNat (0x10000 + (high - 0xD800) * 0x400 + (low - 0xDC00)) :: ·)
      else none
    else if 0xDC00 ≤ high ∧ high < 0xE000 then none
    else (decode? (code low :: rest)).map (Char.ofNat high :: ·)
  | code unit :: rest =>
    if 0xD800 ≤ unit ∧ unit < 0xE000 then none
    else (decode? rest).map (Char.ofNat unit :: ·)

end TextUnit

/-- A number as written: its digits before the point, those after it, and the exponent. -/
structure NumberLiteral where
  negative : Bool
  whole : List Nat
  fraction : Option (List Nat)
  exponent : Option Int
  deriving DecidableEq

namespace NumberLiteral

/-- The first integer that 64 bits cannot hold. -/
def wordLimit : Nat := 0x10000000000000000

/-- Appends digits to a number for as long as it fits 64 bits, and counts those appended. -/
def absorb (n : Nat) : List Nat → Nat × Nat
  | [] => (n, 0)
  | d :: rest =>
    if n * 10 + d < wordLimit then
      let (m, count) := absorb (n * 10 + d) rest
      (m, count + 1)
    else (n, 0)

/-- The decimal that the literal is read as: the leading digits that fit 64 bits.  Further digits
before the point only scale it, further digits after the point are dropped. -/
def toDecimal (l : NumberLiteral) : Decimal :=
  let (n, used) := absorb 0 l.whole
  let (m, places) := absorb n (l.fraction.getD [])
  let shift : Int := l.exponent.getD 0
  ⟨m, shift + Int.ofNat (l.whole.length - used) - Int.ofNat places⟩

/-- The number that the literal denotes.  Without fraction and exponent it is an integer if it fits
64 bits, where a minus needs one of them; zero with a minus is the double.  There is none where a
double would overflow. -/
def toNumber? (l : NumberLiteral) : Option Number :=
  let n : Nat := l.whole.foldl (fun n d => n * 10 + d) 0
  let double := (Double.ofScaled? l.negative l.toDecimal).map Number.double
  if l.fraction.isSome || l.exponent.isSome then double
  else if l.negative then
    if 0 < n ∧ n ≤ 0x8000000000000000 then some (.integer (-(n : Int))) else double
  else if n < wordLimit then some (.integer n) else double

end NumberLiteral

/-- The syntax tree of a JSON text. -/
inductive Document where
  | null
  | bool (b : Bool)
  | num (literal : NumberLiteral)
  | str (units : List TextUnit)
  | arr (items : List Document)
  | obj (members : List (List TextUnit × Document))

namespace Document

/-- The string that a literal denotes. -/
def string? (units : List TextUnit) : Option String := (TextUnit.decode? units).map String.ofList

mutual

/-- The value that a document denotes, if at most `levels` arrays and objects are nested in each
other.  Members keep their order and repetitions. -/
def toJson? (levels : Nat) : Document → Option Json
  | null => some .null
  | bool b => some (.bool b)
  | num literal => literal.toNumber?.map .num
  | str units => (string? units).map .str
  | arr items => if levels = 0 then none else (itemsToJson? (levels - 1) items).map .arr
  | obj members => if levels = 0 then none else (membersToJson? (levels - 1) members).map .obj

/-- The values of the items of an array. -/
def itemsToJson? (levels : Nat) : List Document → Option (List Json)
  | [] => some []
  | d :: rest =>
    match d.toJson? levels, itemsToJson? levels rest with
    | some v, some vs => some (v :: vs)
    | _, _ => none

/-- The names and values of the members of an object. -/
def membersToJson? (levels : Nat) : List (List TextUnit × Document) → Option (List (String × Json))
  | [] => some []
  | (k, d) :: rest =>
    match string? k, d.toJson? levels, membersToJson? levels rest with
    | some k, some v, some vs => some ((k, v) :: vs)
    | _, _, _ => none

end

/-! ## Reading -/

/-- Drops blanks: space, tab, line feed and carriage return. -/
def skipBlanks : List Char → List Char
  | [] => []
  | c :: rest => if c = ' ' ∨ c = '\t' ∨ c = '\n' ∨ c = '\r' then skipBlanks rest else c :: rest

/-- The value of a decimal digit. -/
def digit? (c : Char) : Option Nat :=
  if '0' ≤ c ∧ c ≤ '9' then some (c.toNat - '0'.toNat) else none

/-- The value of a hexadecimal digit. -/
def hexDigit? (c : Char) : Option Nat :=
  if '0' ≤ c ∧ c ≤ '9' then some (c.toNat - '0'.toNat)
  else if 'a' ≤ c ∧ c ≤ 'f' then some (c.toNat - 'a'.toNat + 10)
  else if 'A' ≤ c ∧ c ≤ 'F' then some (c.toNat - 'A'.toNat + 10)
  else none

/-- The longest run of decimal digits and what follows it. -/
def readDigits : List Char → List Nat × List Char
  | [] => ([], [])
  | c :: rest =>
    match digit? c with
    | some d => let (ds, r) := readDigits rest; (d :: ds, r)
    | none => ([], c :: rest)

/-- A run of at least one digit. -/
def readDigits1? (cs : List Char) : Option (List Nat × List Char) :=
  match readDigits cs with
  | ([], _) => none
  | found => some found

/-- The digits before the point: zero alone, or a run that does not begin with zero. -/
def readWhole? : List Char → Option (List Nat × List Char)
  | '0' :: c :: rest => if (digit? c).isSome then none else some ([0], c :: rest)
  | cs => readDigits1? cs

/-- The digits after a point, if one follows. -/
def readFraction? : List Char → Option (Option (List Nat) × List Char)
  | '.' :: rest => (readDigits1? rest).map fun (ds, r) => (some ds, r)
  | cs => some (none, cs)

/-- An exponent, if one follows. -/
def readExponent? : List Char → Option (Option Int × List Char)
  | [] => some (none, [])
  | c :: rest =>
    if c = 'e' ∨ c = 'E' then
      let (negative, digits) := match rest with
        | '-' :: r => (true, r)
        | '+' :: r => (false, r)
        | r => (false, r)
      (readDigits1? digits).map fun (ds, r) =>
        let n : Nat := ds.foldl (fun n d => n * 10 + d) 0
        (some (if negative then -(n : Int) else n), r)
    else some (none, c :: rest)

/-- A number. -/
def readNumber? (cs : List Char) : Option (NumberLiteral × List Char) := do
  let (negative, cs) := match cs with
    | '-' :: r => (true, r)
    | r => (false, r)
  let (whole, cs) ← readWhole? cs
  let (fraction, cs) ← readFraction? cs
  let (exponent, cs) ← readExponent? cs
  return (⟨negative, whole, fraction, exponent⟩, cs)

/-- The character that a short escape stands for. -/
def shortEscape? (c : Char) : Option Char :=
  if c = '"' ∨ c = '\\' ∨ c = '/' then some c
  else if c = 'b' then some '\x08'
  else if c = 'f' then some '\x0c'
  else if c = 'n' then some '\n'
  else if c = 'r' then some '\r'
  else if c = 't' then some '\t'
  else none

/-- The rest of a string literal after its opening quote.  Control characters have to be escaped. -/
def readString? : List Char → Option (List TextUnit × List Char)
  | [] => none
  | '"' :: rest => some ([], rest)
  | '\\' :: 'u' :: a :: b :: c :: d :: rest =>
    match hexDigit? a, hexDigit? b, hexDigit? c, hexDigit? d, readString? rest with
    | some a, some b, some c, some d, some (units, r) =>
      some (.code (((a * 16 + b) * 16 + c) * 16 + d) :: units, r)
    | _, _, _, _, _ => none
  | '\\' :: e :: rest =>
    match shortEscape? e, readString? rest with
    | some c, some (units, r) => some (.char c :: units, r)
    | _, _ => none
  | c :: rest =>
    if c = '\\' ∨ c.toNat < 32 then none
    else (readString? rest).map fun (units, r) => (.char c :: units, r)

mutual

/-- A value, after any blanks, and what follows it. -/
def readValue? : (fuel : Nat) → List Char → Option (Document × List Char)
  | 0, _ => none
  | fuel + 1, cs =>
    match skipBlanks cs with
    | 'n' :: 'u' :: 'l' :: 'l' :: rest => some (null, rest)
    | 't' :: 'r' :: 'u' :: 'e' :: rest => some (bool true, rest)
    | 'f' :: 'a' :: 'l' :: 's' :: 'e' :: rest => some (bool false, rest)
    | '"' :: rest => (readString? rest).map fun (units, r) => (str units, r)
    | '[' :: rest =>
      match skipBlanks rest with
      | ']' :: rest => some (arr [], rest)
      | rest => (readItems? fuel rest).map fun (items, r) => (arr items, r)
    | '\x7b' :: rest =>
      match skipBlanks rest with
      | '\x7d' :: rest => some (obj [], rest)
      | rest => (readMembers? fuel rest).map fun (members, r) => (obj members, r)
    | rest => (readNumber? rest).map fun (literal, r) => (num literal, r)

/-- The items of an array up to its closing bracket, at least one. -/
def readItems? : (fuel : Nat) → List Char → Option (List Document × List Char)
  | 0, _ => none
  | fuel + 1, cs =>
    match readValue? fuel cs with
    | none => none
    | some (v, rest) =>
      match skipBlanks rest with
      | ',' :: rest => (readItems? fuel rest).map fun (vs, r) => (v :: vs, r)
      | ']' :: rest => some ([v], rest)
      | _ => none

/-- The members of an object up to its closing brace, at least one. -/
def readMembers? : (fuel : Nat) → List Char → Option (List (List TextUnit × Document) × List Char)
  | 0, _ => none
  | fuel + 1, cs =>
    match skipBlanks cs with
    | '"' :: rest =>
      match readString? rest with
      | none => none
      | some (k, rest) =>
        match skipBlanks rest with
        | ':' :: rest =>
          match readValue? fuel rest with
          | none => none
          | some (v, rest) =>
            match skipBlanks rest with
            | ',' :: rest => (readMembers? fuel rest).map fun (ms, r) => ((k, v) :: ms, r)
            | '\x7d' :: rest => some ([(k, v)], rest)
            | _ => none
        | _ => none
    | _ => none

end

/-- The document that a text holds, with nothing but blanks around it.  A value takes at most two
nested calls for each of its characters, which bounds the fuel. -/
def read? (text : String) : Option Document :=
  let cs := text.toList
  match readValue? (2 * cs.length + 2) cs with
  | some (d, rest) => if (skipBlanks rest).isEmpty then some d else none
  | none => none

/-- How many arrays and objects may be nested in each other. -/
def nestingLimit : Nat := 127

end Document

/-- The value that a JSON text denotes, with its objects as maps. -/
def Json.parse? (text : String) : Option Json :=
  ((Document.read? text).bind (·.toJson? Document.nestingLimit)).map Json.sort

end LintConfig
