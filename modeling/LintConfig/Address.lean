import LintConfig.Pieces

/-!
# Internet addresses

The two spellings of addresses: four decimal numbers between points, and eight groups of hexadecimal
digits between colons.  In the second, two colons in a row stand for one group of zeros or more, and
the last two groups may be spelled in the first way.  `Address.eightGroups?` reads it, and
`Address.textOfGroups` picks one of the texts that spell the same groups.
-/

namespace LintConfig

namespace Address

/-- The number that a text of ASCII digits spells. -/
def digits? (cs : List Char) : Option Nat :=
  if cs.isEmpty || !cs.all Char.isDigit then none
  else some (cs.foldl (fun n c => n * 10 + (c.toNat - '0'.toNat)) 0)

/-- One number of an address: at most 255, in at most three digits, without a leading zero. -/
def isOctet (cs : List Char) : Bool :=
  match digits? cs with
  | none => false
  | some n => n ≤ 255 && cs.length ≤ 3 && (cs.length == 1 || cs.head? != some '0')

/-- Whether a text is an address of four numbers. -/
def isFourOctets (cs : List Char) : Bool :=
  let octets := pieces '.' cs
  octets.length == 4 && octets.all isOctet

/-- Whether a character is a hexadecimal digit. -/
def isHexDigit (c : Char) : Bool :=
  c.isDigit || ('a' ≤ c && c ≤ 'f') || ('A' ≤ c && c ≤ 'F')

/-- The number that a text of hexadecimal digits spells. -/
def hexNumber (cs : List Char) : Nat :=
  cs.foldl (fun n c => n * 16 + if c.isDigit then c.toNat - '0'.toNat
    else c.toLower.toNat - 'a'.toNat + 10) 0

/-- One group of an address: up to four hexadecimal digits. -/
def group? (cs : List Char) : Option Nat :=
  if !cs.isEmpty && cs.length ≤ 4 && cs.all isHexDigit then some (hexNumber cs) else none

/-- The two groups that four numbers stand for. -/
def groupsOfOctets? (cs : List Char) : Option (List Nat) :=
  if isFourOctets cs then
    match (pieces '.' cs).filterMap digits? with
    | [a, b, c, d] => some [a * 256 + b, c * 256 + d]
    | _ => none
  else none

/-- The groups between the colons of a text.  Four numbers in the last place stand for two groups,
if they are allowed there. -/
def groups? (octetsAllowed : Bool) (cs : List Char) : Option (List Nat) :=
  if cs.isEmpty then some []
  else
    let parts := pieces ':' cs
    match parts.mapM group? with
    | some groups => some groups
    | none =>
      if octetsAllowed then
        (parts.dropLast.mapM group?).bind fun groups =>
          (groupsOfOctets? (parts.getLastD [])).map (groups ++ ·)
      else none

/-- The texts before and after the first two colons in a row. -/
def cutAtDoubleColon : List Char → Option (List Char × List Char)
  | ':' :: ':' :: rest => some ([], rest)
  | c :: rest => (cutAtDoubleColon rest).map fun (before, after) => (c :: before, after)
  | [] => none

/-- The eight groups of an address. -/
def eightGroups? (cs : List Char) : Option (List Nat) :=
  match cutAtDoubleColon cs with
  | none => (groups? true cs).filter fun groups => groups.length = 8
  | some (before, after) =>
    match groups? false before, groups? true after with
    | some before, some after =>
      if before.length + after.length ≤ 7 then
        some (before ++ List.replicate (8 - before.length - after.length) 0 ++ after)
      else none
    | _, _ => none

/-- Whether a text is an address of eight groups. -/
def isEightGroups (cs : List Char) : Bool := (eightGroups? cs).isSome

/-! ## Writing -/

/-- The groups with colons between them, in hexadecimal digits without leading zeros. -/
def colonText (groups : List Nat) : List Char :=
  [':'].intercalate (groups.map (Nat.toDigits 16))

/-- Where the first of the longest runs of zero groups starts, and how long it is. -/
def longestZeros (groups : List Nat) : Nat × Nat :=
  (List.range groups.length).foldl
    (fun longest start =>
      let length := ((groups.drop start).takeWhile (· == 0)).length
      if longest.2 < length then (start, length) else longest)
    (0, 0)

/-- The one text for an address of eight groups.  Two colons stand for the first of its longest runs
of zero groups, if there is one of two groups or more.  Four numbers stand for the last two groups
where the address is one of four numbers, which the groups before them say. -/
def textOfGroups (groups : List Nat) : List Char :=
  match groups with
  | [0, 0, 0, 0, 0, 0xffff, a, b] =>
    "::ffff:".toList
      ++ ['.'].intercalate ([a / 256, a % 256, b / 256, b % 256].map (Nat.toDigits 10))
  | groups =>
    let (start, length) := longestZeros groups
    if length < 2 then colonText groups
    else colonText (groups.take start) ++ [':', ':'] ++ colonText (groups.drop (start + length))

end Address

end LintConfig
