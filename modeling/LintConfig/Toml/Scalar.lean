import LintConfig.Double.Decimal
import LintConfig.Toml.Value

/-!
# Strings and numbers

How the strings and numbers of a TOML document are written.

**Strings** come in four forms, with or without escapes and on one line or several.  On several
lines, a line end directly after the opening quotes is dropped, a line end is a line feed however it
is written, and up to two quotes may stand before the closing three.

**Numbers** may have single underscores between digits.  Integers fit 64 bits; a decimal one has no
leading zero.  A float that is too large is an error, one that is too small for a minus sign is not
finite.
-/

namespace LintConfig

namespace Toml

/-- Whether a character may stand unescaped in strings and comments: a tab, or what is no control
character of ASCII. -/
def isPlain (c : Char) : Bool := c = '\t' || (32 ≤ c.toNat && c.toNat ≠ 127)

/-- Drops spaces and tabs. -/
def skipBlanks : List Char → List Char
  | [] => []
  | c :: rest => if c = ' ' ∨ c = '\t' then skipBlanks rest else c :: rest

/-- What follows a line end. -/
def dropNewline? : List Char → Option (List Char)
  | '\n' :: rest => some rest
  | '\r' :: '\n' :: rest => some rest
  | _ => none

/-- Drops spaces, tabs and line ends. -/
def skipLayout : List Char → List Char
  | [] => []
  | '\r' :: '\n' :: rest => skipLayout rest
  | c :: rest => if c = ' ' ∨ c = '\t' ∨ c = '\n' then skipLayout rest else c :: rest

/-! ## Strings -/

/-- The value of a hexadecimal digit. -/
def hexDigit? (c : Char) : Option Nat :=
  if '0' ≤ c ∧ c ≤ '9' then some (c.toNat - '0'.toNat)
  else if 'a' ≤ c ∧ c ≤ 'f' then some (c.toNat - 'a'.toNat + 10)
  else if 'A' ≤ c ∧ c ≤ 'F' then some (c.toNat - 'A'.toNat + 10)
  else none

/-- The character whose code exactly so many hexadecimal digits spell, after those read before. -/
def readCode? : (count : Nat) → (before : Nat) → List Char → Option (Char × List Char)
  | 0, code, cs => if code.isValidChar then some (Char.ofNat code, cs) else none
  | _ + 1, _, [] => none
  | count + 1, before, c :: rest =>
    match hexDigit? c with
    | some d => readCode? count (before * 16 + d) rest
    | none => none

/-- An escape after its backslash. -/
def readEscape? : List Char → Option (Char × List Char)
  | 'b' :: rest => some ('\x08', rest)
  | 'f' :: rest => some ('\x0c', rest)
  | 'n' :: rest => some ('\n', rest)
  | 'r' :: rest => some ('\r', rest)
  | 't' :: rest => some ('\t', rest)
  | '"' :: rest => some ('"', rest)
  | '\\' :: rest => some ('\\', rest)
  | 'u' :: rest => readCode? 4 0 rest
  | 'U' :: rest => readCode? 8 0 rest
  | _ => none

/-- The two kinds of strings. -/
inductive Quoting where
  /-- Between double quotes, with escapes. -/
  | basic
  /-- Between single quotes, without. -/
  | literal
  deriving DecidableEq

/-- The quote of a kind of strings. -/
def Quoting.mark : Quoting → Char
  | basic => '"'
  | literal => '\''

/-- The rest of a string on one line after its opening quote. -/
def readLineString? (q : Quoting) : (fuel : Nat) → List Char → Option (List Char × List Char)
  | 0, _ => none
  | _ + 1, [] => none
  | fuel + 1, c :: rest =>
    if c = q.mark then some ([], rest)
    else if c = '\\' ∧ q = .basic then
      match readEscape? rest with
      | some (e, rest) => (readLineString? q fuel rest).map fun (cs, r) => (e :: cs, r)
      | none => none
    else if isPlain c then (readLineString? q fuel rest).map fun (cs, r) => (c :: cs, r)
    else none

/-- What follows a line end that a backslash joins to the next text, after the backslash. -/
def dropJoint? (cs : List Char) : Option (List Char) :=
  (dropNewline? (skipBlanks cs)).map skipLayout

/-- The rest of a string on several lines after its opening quotes. -/
def readBlockString? (q : Quoting) : (fuel : Nat) → List Char → Option (List Char × List Char)
  | 0, _ => none
  | _ + 1, [] => none
  | fuel + 1, c :: rest =>
    if c = q.mark then
      let quotes := ((c :: rest).takeWhile (· = q.mark)).length
      if quotes < 3 then (readBlockString? q fuel rest).map fun (cs, r) => (c :: cs, r)
      else
        let inside := min quotes 5 - 3
        some (List.replicate inside q.mark, (c :: rest).drop (inside + 3))
    else if c = '\\' ∧ q = .basic then
      match dropJoint? rest with
      | some rest => readBlockString? q fuel rest
      | none =>
        match readEscape? rest with
        | some (e, rest) => (readBlockString? q fuel rest).map fun (cs, r) => (e :: cs, r)
        | none => none
    else if isPlain c then (readBlockString? q fuel rest).map fun (cs, r) => (c :: cs, r)
    else
      match dropNewline? (c :: rest) with
      | some rest => (readBlockString? q fuel rest).map fun (cs, r) => ('\n' :: cs, r)
      | none => none

/-- A string on one line, from its opening quote. -/
def readQuoted? (cs : List Char) : Option (String × List Char) :=
  let read (q : Quoting) (rest : List Char) :=
    (readLineString? q (rest.length + 1) rest).map fun (s, r) => (String.ofList s, r)
  match cs with
  | '"' :: rest => read .basic rest
  | '\'' :: rest => read .literal rest
  | _ => none

/-- A string of any form, from its opening quotes. -/
def readString? (cs : List Char) : Option (String × List Char) :=
  let block (q : Quoting) (rest : List Char) :=
    let body := (dropNewline? rest).getD rest
    (readBlockString? q (body.length + 1) body).map fun (s, r) => (String.ofList s, r)
  match cs with
  | '"' :: '"' :: '"' :: rest => block .basic rest
  | '\'' :: '\'' :: '\'' :: rest => block .literal rest
  | cs => readQuoted? cs

/-! ## Numbers -/

/-- The value of an octal digit. -/
def octalDigit? (c : Char) : Option Nat := (digit? c).filter (· < 8)

/-- The value of a binary digit. -/
def binaryDigit? (c : Char) : Option Nat := (digit? c).filter (· < 2)

/-- A run of digits with single underscores between them, at least one digit. -/
def readRun? (digit? : Char → Option Nat) : List Char → Option (List Nat × List Char)
  | [] => none
  | c :: rest =>
    match digit? c with
    | none => none
    | some d =>
      match rest with
      | [] => some ([d], [])
      | '_' :: rest => (readRun? digit? rest).map fun (ds, r) => (d :: ds, r)
      | e :: rest' =>
        if (digit? e).isSome then (readRun? digit? (e :: rest')).map fun (ds, r) => (d :: ds, r)
        else some ([d], e :: rest')

/-- The digits of a number before a point: zero alone, or a run that does not begin with zero. -/
def readWhole? : List Char → Option (List Nat × List Char)
  | '0' :: rest => some ([0], rest)
  | cs => readRun? digit? cs

/-- The number that digits spell in a base. -/
def ofDigits (base : Nat) (digits : List Nat) : Nat := digits.foldl (fun n d => n * base + d) 0

/-- An integer value, if 64 bits hold it. -/
def integer? (i : Int) : Option Value :=
  if -0x8000000000000000 ≤ i ∧ i < 0x8000000000000000 then some (.integer i) else none

/-- An integer in another base than ten, after its base mark. -/
def readBased? (base : Nat) (digit? : Char → Option Nat) (cs : List Char) :
    Option (Value × List Char) :=
  (readRun? digit? cs).bind fun (digits, rest) =>
    (integer? (ofDigits base digits)).map fun v => (v, rest)

/-- A sign, if there is one: whether it is a minus, and what follows. -/
def readSign : List Char → Bool × List Char
  | '-' :: rest => (true, rest)
  | '+' :: rest => (false, rest)
  | cs => (false, cs)

/-- A sign that has to be a minus for a negative number. -/
def signed (negative : Bool) (n : Nat) : Int := if negative then -(n : Int) else n

/-- The digits of a fraction, if a point follows. -/
def readPlaces? : List Char → Option (Option (List Nat) × List Char)
  | '.' :: rest => (readRun? digit? rest).map fun (ds, r) => (some ds, r)
  | cs => some (none, cs)

/-- An exponent, if its mark follows. -/
def readPower? : List Char → Option (Option Int × List Char)
  | [] => some (none, [])
  | c :: rest =>
    if c = 'e' ∨ c = 'E' then
      let (negative, digits) := readSign rest
      (readRun? digit? digits).map fun (ds, r) => (some (signed negative (ofDigits 10 ds)), r)
    else some (none, c :: rest)

/-- The float with a sign and a decimal. -/
def float? (negative : Bool) (d : Decimal) : Option Value :=
  match Double.ofDecimal? negative d with
  | some x => some (.float (some x))
  | none => if negative then some (.float none) else none

/-- A decimal number after its sign: a float if it has a fraction or an exponent. -/
def readDecimal? (negative : Bool) (cs : List Char) : Option (Value × List Char) := do
  let (whole, cs) ← readWhole? cs
  let (places, cs) ← readPlaces? cs
  let (power, cs) ← readPower? cs
  if places.isNone ∧ power.isNone then
    (integer? (signed negative (ofDigits 10 whole))).map fun v => (v, cs)
  else
    let digits := whole ++ places.getD []
    let exponent : Int := power.getD 0 - ((places.getD []).length : Int)
    (float? negative ⟨ofDigits 10 digits, exponent⟩).map fun v => (v, cs)

/-- A number. -/
def readNumber? : List Char → Option (Value × List Char)
  | '0' :: 'x' :: rest => readBased? 16 hexDigit? rest
  | '0' :: 'o' :: rest => readBased? 8 octalDigit? rest
  | '0' :: 'b' :: rest => readBased? 2 binaryDigit? rest
  | cs =>
    match readSign cs with
    | (_, 'i' :: 'n' :: 'f' :: rest) => some (.float none, rest)
    | (_, 'n' :: 'a' :: 'n' :: rest) => some (.float none, rest)
    | (negative, rest) => readDecimal? negative rest

/-- A value that is neither array nor table. -/
def readScalar? (cs : List Char) : Option (Value × List Char) :=
  match cs with
  | '"' :: _ | '\'' :: _ => (readString? cs).map fun (s, r) => (.string s, r)
  | 't' :: 'r' :: 'u' :: 'e' :: rest => some (.boolean true, rest)
  | 'f' :: 'a' :: 'l' :: 's' :: 'e' :: rest => some (.boolean false, rest)
  | _ =>
    match DateTime.read? cs with
    | some (d, rest) => some (.dateTime d, rest)
    | none => readNumber? cs

end Toml

end LintConfig
