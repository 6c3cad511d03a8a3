/-!
# Bytes of characters

Automata read texts in their encoding, with one to four bytes for a character.
`ByteRanges.ofRange` says which bytes encode the characters of a range: it lists ranges of bytes for
each place, every combination of which is such a character.
-/

namespace LintConfig

/-- A range of bytes for each place of an encoding. -/
abbrev ByteRanges := List (Nat × Nat)

namespace ByteRanges

/-- The bytes that a code point is encoded in, where `count` bytes are used. -/
def encode (count n : Nat) : List Nat :=
  match count with
  | 1 => [n]
  | 2 => [0xc0 + n / 0x40, 0x80 + n % 0x40]
  | 3 => [0xe0 + n / 0x1000, 0x80 + n / 0x40 % 0x40, 0x80 + n % 0x40]
  | _ => [0xf0 + n / 0x40000, 0x80 + n / 0x1000 % 0x40, 0x80 + n / 0x40 % 0x40, 0x80 + n % 0x40]

/-- Splits a range of code points with encodings of the same length, so that the last `places` bytes
either agree for both ends or run through all their values. -/
def split : (fuel : Nat) → (places : List Nat) → (low high : Nat) → List (Nat × Nat)
  | 0, _, low, high => [(low, high)]
  | _ + 1, [], low, high => [(low, high)]
  | fuel + 1, place :: places, low, high =>
    let block := 1 <<< (6 * place)
    if low / block = high / block then split fuel places low high
    else if low % block ≠ 0 then
      let stop := low / block * block + (block - 1)
      split fuel [1, 2, 3] low stop ++ split fuel [1, 2, 3] (stop + 1) high
    else if high % block ≠ block - 1 then
      let start := high / block * block
      split fuel [1, 2, 3] low (start - 1) ++ split fuel [1, 2, 3] start high
    else split fuel places low high

/-- The code points that are encoded in the same number of bytes, with that number. -/
def lengths : List (Nat × Nat × Nat) :=
  [(1, 0, 0x7f), (2, 0x80, 0x7ff), (3, 0x800, 0xd7ff), (3, 0xe000, 0xffff), (4, 0x10000, 0x10ffff)]

/-- The encodings of the characters of a range. -/
def ofRange (low high : Nat) : List ByteRanges :=
  lengths.flatMap fun (count, first, last) =>
    let low := max low first
    let high := min high last
    if high < low then []
    else if count = 1 then [[(low, high)]]
    else (split 64 [1, 2, 3] low high).map fun (l, h) => (encode count l).zip (encode count h)

/-- The encodings of the characters of several ranges. -/
def ofRanges (ranges : List (Nat × Nat)) : List ByteRanges :=
  ranges.flatMap fun (low, high) => ofRange low high

end ByteRanges

end LintConfig
