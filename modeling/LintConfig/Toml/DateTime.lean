import LintConfig.Calendar

/-!
# Dates and times

The four kinds of date-time values of TOML: a date, a time of day, both, and both with the offset
from universal time.

**Reading** accepts what TOML allows: `T`, `t` or a blank between date and time, `Z` or `z` for
universal time.  Days have to exist, and a second may be a leap second.

**Writing** has one form for each value: `T` and `Z` in upper case, fractions of a second without
final zeros and to at most nine places, a zero offset with a plus.
-/

namespace LintConfig

namespace Toml

/-- A day. -/
structure Date where
  year : Nat
  month : Nat
  day : Nat
  deriving DecidableEq

/-- A time of day. -/
structure Time where
  hour : Nat
  minute : Nat
  second : Nat
  nanosecond : Nat
  deriving DecidableEq

/-- The distance from universal time. -/
inductive Offset where
  /-- None, said as such. -/
  | universal
  /-- Some number of minutes. -/
  | minutes (m : Int)
  deriving DecidableEq

/-- A date-time value. -/
inductive DateTime where
  | date (d : Date)
  | time (t : Time)
  /-- Both, and where it is the time if that is said. -/
  | instant (d : Date) (t : Time) (offset : Option Offset)
  deriving DecidableEq

/-! ## Reading -/

/-- The value of a decimal digit. -/
def digit? (c : Char) : Option Nat :=
  if '0' ≤ c ∧ c ≤ '9' then some (c.toNat - '0'.toNat) else none

/-- A number of exactly so many digits, appended to the digits read before. -/
def readFixed? : (count : Nat) → (before : Nat) → List Char → Option (Nat × List Char)
  | 0, before, cs => some (before, cs)
  | _ + 1, _, [] => none
  | count + 1, before, c :: rest =>
    match digit? c with
    | some d => readFixed? count (before * 10 + d) rest
    | none => none

/-- A number of exactly two digits, at most the given one. -/
def readTwo? (most : Nat) (cs : List Char) : Option (Nat × List Char) :=
  (readFixed? 2 0 cs).bind fun (n, rest) => if n ≤ most then some (n, rest) else none

/-- What follows a character. -/
def expectChar? (c : Char) : List Char → Option (List Char)
  | [] => none
  | d :: rest => if d = c then some rest else none

/-- The longest run of decimal digits and what follows it. -/
def spanDigits (cs : List Char) : List Char × List Char :=
  (cs.takeWhile Char.isDigit, cs.dropWhile Char.isDigit)

/-- How many digits of a fraction of a second are kept. -/
def fractionDigits : Nat := 9

/-- The nanoseconds that the digits of a fraction of a second stand for: zeros fill up what is
missing, and further digits are dropped. -/
def nanoseconds (digits : List Char) : Nat :=
  let filled := (digits ++ List.replicate fractionDigits '0').take fractionDigits
  filled.foldl (fun n c => n * 10 + (c.toNat - '0'.toNat)) 0

/-- A fraction of a second, if a point and a digit follow. -/
def readFraction : List Char → Nat × List Char
  | '.' :: rest =>
    match spanDigits rest with
    | ([], _) => (0, '.' :: rest)
    | (digits, rest) => (nanoseconds digits, rest)
  | cs => (0, cs)

/-- A day that exists. -/
def Date.read? (cs : List Char) : Option (Date × List Char) := do
  let (year, cs) ← readFixed? 4 0 cs
  let cs ← expectChar? '-' cs
  let (month, cs) ← readTwo? 12 cs
  let cs ← expectChar? '-' cs
  let (day, cs) ← readTwo? 31 cs
  if Calendar.isDay year month day then some (⟨year, month, day⟩, cs) else none

/-- A time of day. -/
def Time.read? (cs : List Char) : Option (Time × List Char) := do
  let (hour, cs) ← readTwo? 23 cs
  let cs ← expectChar? ':' cs
  let (minute, cs) ← readTwo? 59 cs
  let cs ← expectChar? ':' cs
  let (second, cs) ← readTwo? 60 cs
  let (nanosecond, cs) := readFraction cs
  return (⟨hour, minute, second, nanosecond⟩, cs)

/-- An offset of hours and minutes after its sign. -/
def Offset.readMinutes? (sign : Int) (cs : List Char) : Option (Offset × List Char) := do
  let (hour, cs) ← readTwo? 23 cs
  let cs ← expectChar? ':' cs
  let (minute, cs) ← readTwo? 59 cs
  return (.minutes (sign * (hour * 60 + minute : Nat)), cs)

/-- An offset. -/
def Offset.read? : List Char → Option (Offset × List Char)
  | 'Z' :: rest | 'z' :: rest => some (universal, rest)
  | '+' :: rest => readMinutes? 1 rest
  | '-' :: rest => readMinutes? (-1) rest
  | _ => none

/-- A time that follows a date, with the offset that may follow it. -/
def Time.readAfterDate? : List Char → Option ((Time × Option Offset) × List Char)
  | c :: rest =>
    if c = 'T' ∨ c = 't' ∨ c = ' ' then
      (Time.read? rest).map fun (t, rest) =>
        match Offset.read? rest with
        | some (offset, rest) => ((t, some offset), rest)
        | none => ((t, none), rest)
    else none
  | [] => none

/-- A date-time value of any kind. -/
def DateTime.read? (cs : List Char) : Option (DateTime × List Char) :=
  match Date.read? cs with
  | some (d, rest) =>
    match Time.readAfterDate? rest with
    | some ((t, offset), rest) => some (.instant d t offset, rest)
    | none => some (.date d, rest)
  | none => (Time.read? cs).map fun (t, rest) => (.time t, rest)

/-! ## Writing -/

/-- A number with zeros in front, to at least so many digits. -/
def padded (width n : Nat) : List Char :=
  let digits := Nat.toDigits 10 n
  List.replicate (width - digits.length) '0' ++ digits

/-- The text of a day. -/
def Date.chars (d : Date) : List Char :=
  padded 4 d.year ++ '-' :: padded 2 d.month ++ '-' :: padded 2 d.day

/-- A fraction of a second: nothing for none, otherwise without final zeros. -/
def fractionChars (nanosecond : Nat) : List Char :=
  if nanosecond = 0 then []
  else '.' :: ((padded fractionDigits nanosecond).reverse.dropWhile (· = '0')).reverse

/-- The text of a time of day. -/
def Time.chars (t : Time) : List Char :=
  padded 2 t.hour ++ ':' :: padded 2 t.minute ++ ':' :: padded 2 t.second
    ++ fractionChars t.nanosecond

/-- The text of an offset. -/
def Offset.chars : Offset → List Char
  | universal => ['Z']
  | minutes m =>
    (if m < 0 then '-' else '+') :: padded 2 (m.natAbs / 60) ++ ':' :: padded 2 (m.natAbs % 60)

/-- The text of a date-time value. -/
def DateTime.chars : DateTime → List Char
  | date d => d.chars
  | time t => t.chars
  | instant d t offset =>
    d.chars ++ 'T' :: t.chars ++ match offset with
      | some o => o.chars
      | none => []

/-- The text of a date-time value. -/
def DateTime.text (d : DateTime) : String := String.ofList d.chars

/-- The date-time value that a whole text spells. -/
def DateTime.parse? (s : String) : Option DateTime :=
  match DateTime.read? s.toList with
  | some (d, []) => some d
  | _ => none

end Toml

end LintConfig
