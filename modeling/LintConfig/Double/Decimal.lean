import LintConfig.Double

/-!
# Doubles in decimal notation

Both directions between doubles and decimal digits.

**Out.**  `Double.shortest` gives the fewest significant digits that read back as the same number,
and of those the closest to it; `Double.format` lays them out.  A `Layout` holds the decisions of
one output format, so the two formats of the library differ in a record and not in code.

**In.**  `Double.ofDecimal?` rounds a decimal correctly.  `Double.ofScaled?` reads it in two
roundings instead, first the digits and then one power of ten; that is how JSON numbers are read.
-/

namespace LintConfig

/-- The number `digits * 10 ^ exponent`. -/
structure Decimal where
  /-- The digits as one natural number. -/
  digits : Nat
  /-- The power of ten they are scaled by. -/
  exponent : Int
  deriving DecidableEq

namespace Decimal

/-- The exact value. -/
def value (d : Decimal) : Rat := (d.digits : Rat) * Double.power 10 d.exponent

/-- How many decimal digits a natural number is written with. -/
def digitCount (n : Nat) : Nat := (Nat.toDigits 10 n).length

/-- The same number with no trailing zero among its digits; at most `fuel` zeros are dropped. -/
def dropTrailingZeros : (fuel : Nat) → Decimal → Decimal
  | 0, d => d
  | fuel + 1, d =>
    if d.digits ≠ 0 ∧ d.digits % 10 = 0 then
      dropTrailingZeros fuel ⟨d.digits / 10, d.exponent + 1⟩
    else d

end Decimal

namespace Double

/-! ## From decimal digits -/

/-- The double nearest to a decimal.  Numbers that are too small or too large for their digits to
matter are decided by their decimal exponent alone. -/
def ofDecimal? (negative : Bool) (d : Decimal) : Option Double :=
  let top := d.exponent + Decimal.digitCount d.digits
  if d.digits = 0 ∨ top < -330 then some (zero negative)
  else if 310 < top then none
  else nearest? negative d.value

/-- The double nearest to a power of ten. -/
def powerOfTen? (n : Nat) : Option Double := ofDecimal? false ⟨1, n⟩

/-- Scales a non-negative double by a power of ten, rounding once for every 308 places: a larger
negative exponent is taken in steps that stop once nothing is left. -/
def scale? (d : Double) (exponent : Int) : Option Double :=
  if exponent.natAbs ≤ 308 then
    (powerOfTen? exponent.natAbs).bind fun p =>
      nearest? false (if 0 ≤ exponent then d.value * p.value else d.value / p.value)
  else if d.isZero then some d
  else if 0 ≤ exponent then none
  else
    ((powerOfTen? 308).bind fun p => nearest? false (d.value / p.value)).bind fun d' =>
      scale? d' (exponent + 308)
termination_by exponent.natAbs
decreasing_by omega

/-- Reads a decimal in two roundings: its digits as a double, then the power of ten. -/
def ofScaled? (negative : Bool) (d : Decimal) : Option Double :=
  ((nearest? false (d.digits : Rat)).bind fun f => f.scale? d.exponent).map fun f =>
    if negative then f.neg else f

/-! ## To decimal digits -/

/-- The greatest `p` with `10 ^ p ≤ v`, for a positive rational `v`. -/
def floorLog10 (v : Rat) : Int :=
  let p : Int := (Decimal.digitCount v.num.natAbs : Int) - Decimal.digitCount v.den
  if power 10 p ≤ v then p else p - 1

/-- The decimal with `count` significant digits that is nearest to a double, among those of its two
neighbours on that grid that read back as the double; of two equally near ones the even one. -/
def onGrid? (d : Double) (count : Nat) : Option Decimal :=
  let g := floorLog10 d.magnitude - count + 1
  let scaled := d.magnitude / power 10 g
  let low := scaled.floor.toNat
  let readsBack (c : Nat) : Bool := ofDecimal? false ⟨c, g⟩ = some { d with negative := false }
  match readsBack low, readsBack (low + 1) with
  | true, true =>
    let below := scaled - (low : Rat)
    if below < 1 / 2 ∨ (below = 1 / 2 ∧ low % 2 = 0) then some ⟨low, g⟩ else some ⟨low + 1, g⟩
  | true, false => some ⟨low, g⟩
  | false, true => some ⟨low + 1, g⟩
  | false, false => none

/-- Every digit of a double: its decimal expansion ends, since ten is a multiple of two. -/
def expansion (d : Double) : Decimal :=
  if d.exponent < 0 then ⟨d.significand * Nat.pow 5 (-d.exponent).toNat, d.exponent⟩
  else ⟨d.significand <<< d.exponent.toNat, 0⟩

/-- The magnitude of a double in the fewest digits that read back.  Seventeen always do; the whole
expansion stands in so that the function needs no proof of that. -/
def shortest (d : Double) : Decimal :=
  if d.isZero then ⟨0, 0⟩
  else
    let chosen := ((List.range' 1 17).findSome? d.onGrid?).getD d.expansion
    chosen.dropTrailingZeros (Decimal.digitCount chosen.digits)

/-! ## Layout -/

/-- The decisions of an output format for doubles. -/
structure Layout where
  /-- Whether a number with this decimal exponent is written without an exponent mark. -/
  positional : Int → Bool
  /-- What follows the digits of a whole number in positional notation. -/
  wholeMark : List Char

/-- Positional notation of `digits * 10 ^ exponent`. -/
def positionalChars (layout : Layout) (d : Decimal) : List Char :=
  let digits := Nat.toDigits 10 d.digits
  if 0 ≤ d.exponent then
    digits ++ List.replicate (if d.digits = 0 then 0 else d.exponent.toNat) '0' ++ layout.wholeMark
  else
    let places := (-d.exponent).toNat
    let padded := List.replicate (places + 1 - digits.length) '0' ++ digits
    padded.take (padded.length - places) ++ '.' :: padded.drop (padded.length - places)

/-- Notation with one digit before the point and an exponent mark with a sign. -/
def exponentChars (d : Decimal) (tenExponent : Int) : List Char :=
  let mantissa := match Nat.toDigits 10 d.digits with
    | first :: second :: rest => first :: '.' :: second :: rest
    | short => short
  mantissa ++ 'e' :: (if tenExponent < 0 then '-' else '+') :: Nat.toDigits 10 tenExponent.natAbs

/-- The text of a double in a format. -/
def format (layout : Layout) (d : Double) : List Char :=
  let s := d.shortest
  let tenExponent := s.exponent + (Decimal.digitCount s.digits : Int) - 1
  (if d.negative then ['-'] else [])
    ++ if layout.positional tenExponent then positionalChars layout s
       else exponentChars s tenExponent

end Double

end LintConfig
