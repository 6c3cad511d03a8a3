/-!
# Finite doubles by their exact value

A `Double` is a finite binary64 number, held as sign, significand and binary exponent.  Each
number has one representation (`Double.Canonical`), so equality of values is equality of
structures, apart from the two zeros, which differ by their sign.

**Value.**  `Double.value` is the rational number that is meant.  Comparing, dividing and testing
for a multiple are all done on it, so no step of the library rounds without saying so.

**Rounding.**  `Double.nearest?` is the only way in: the double nearest to a rational, a tie going
to the even significand.  It fails exactly when the magnitude is beyond the largest double.
-/

namespace LintConfig

/-- A significand of at most 53 binary digits and an exponent in range, with all 53 digits unless
the exponent is the least one.  Every finite magnitude has exactly one such pair. -/
abbrev Double.Canonical (significand : Nat) (exponent : Int) : Prop :=
  significand < 0x20000000000000 ∧ -1074 ≤ exponent ∧ exponent ≤ 971
    ∧ (0x10000000000000 ≤ significand ∨ exponent = -1074)

/-- A finite binary64 number: `significand * 2 ^ exponent`, with a sign that zero keeps too. -/
structure Double where
  /-- Whether the sign bit is set. -/
  negative : Bool
  /-- The significand as a natural number. -/
  significand : Nat
  /-- The power of two it is scaled by. -/
  exponent : Int
  /-- The pair is the representation of its value. -/
  canonical : Double.Canonical significand exponent
  deriving DecidableEq

namespace Double

/-- A power of a natural number with an integer exponent, as a rational. -/
def power (base : Nat) (exponent : Int) : Rat :=
  if exponent < 0 then 1 / (Nat.pow base (-exponent).toNat : Rat)
  else (Nat.pow base exponent.toNat : Rat)

/-- The quotient of two natural numbers as a natural number, a half going to the even one. -/
def divNearestEven (n d : Nat) : Nat :=
  let q := n / d
  let twice := 2 * (n % d)
  if twice < d then q else if d < twice then q + 1 else if q % 2 = 0 then q else q + 1

/-- The number without its sign. -/
def magnitude (d : Double) : Rat := (d.significand : Rat) * power 2 d.exponent

/-- The exact value; both zeros have the value 0. -/
def value (d : Double) : Rat := if d.negative then -d.magnitude else d.magnitude

/-- Whether the value is 0, whatever its sign. -/
def isZero (d : Double) : Bool := d.significand == 0

/-- The double with these parts, if they are the representation of a number. -/
def ofParts? (negative : Bool) (significand : Nat) (exponent : Int) : Option Double :=
  if h : Canonical significand exponent then some ⟨negative, significand, exponent, h⟩ else none

/-- The greatest `k` with `2 ^ k ≤ num / den`, for a positive quotient. -/
def floorLog2 (num den : Nat) : Int :=
  let k : Int := (num.log2 : Int) - den.log2
  if num <<< (-k).toNat < den <<< k.toNat then k - 1 else k

/-- Significand and exponent of the quotient of two natural numbers, rounded to 53 binary digits
or to the least exponent, whichever is coarser. -/
def roundParts (num den : Nat) : Nat × Int :=
  if num = 0 then (0, -1074)
  else
    let e := max (floorLog2 num den - 52) (-1074)
    let m := divNearestEven (num <<< (-e).toNat) (den <<< e.toNat)
    if m = 0x20000000000000 then (0x10000000000000, e + 1) else (m, e)

/-- The double nearest to a non-negative rational, with the given sign; a tie goes to the even
significand, and a magnitude that rounds beyond the largest double has none. -/
def nearest? (negative : Bool) (magnitude : Rat) : Option Double :=
  let (m, e) := roundParts magnitude.num.natAbs magnitude.den
  ofParts? negative m e

/-- Zero with a sign. -/
def zero (negative : Bool) : Double := ⟨negative, 0, -1074, by decide⟩

/-- The double nearest to an integer. -/
def ofInt? (i : Int) : Option Double := nearest? (i < 0) (i.natAbs : Rat)

/-- The distance from 1 to the next double, which is `2^-52`. -/
def epsilon : Rat := 1 / 0x10000000000000

/-- The opposite number. -/
def neg (d : Double) : Double := { d with negative := !d.negative }

end Double

end LintConfig
