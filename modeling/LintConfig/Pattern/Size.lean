import Std.Data.HashMap
import LintConfig.Pattern.Shape
import LintConfig.Pattern.Trial

/-!
# The size of automata

The parts of patterns are matched by automata, and too large an automaton is refused.  There are two
for each part, one for each direction of reading, and `Shape.growth` says how much space each of
them takes.  Only the one that reads forwards marks where groups begin and end.

**Repetitions** are written out: an automaton has the states of the body once for each round.

**Sets.**  A set with characters beyond ASCII takes states for the bytes of their encodings.  States
that can go on in the same way are shared as far as they are remembered: the memory of a set has a
limited number of slots, and what is put into a slot drives out what was there before.  The slot
hangs on the numbers of the states, so the space for a set hangs on how many states came before it.

**Choices of texts** take a state for each beginning of one of the texts.
-/

namespace LintConfig

/-- The space that a part of an automaton takes. -/
structure Space where
  /-- The number of states. -/
  states : Nat
  /-- The bytes for the steps of states that have a list of them. -/
  steps : Nat

namespace Space

/-- The space that automata may take, in bytes. -/
def limit : Nat := 10 * 0x100000

/-- The number of bytes. -/
def bytes (s : Space) : Nat := 32 * s.states + s.steps

/-- Whether this is more than automata may take. -/
def isTooLarge (s : Space) : Bool := limit < s.bytes

/-- The space with more states, and with more bytes for steps. -/
def add (s : Space) (states steps : Nat) : Space := ⟨s.states + states, s.steps + steps⟩

/-- The space with more states that have no list of steps. -/
def addStates (s : Space) (n : Nat) : Space := s.add n 0

/-- The bytes for the steps of a state that reads a byte from one of some ranges. -/
def rangeSteps (count : Nat) : Nat := 8 * count

/-- The bytes for the steps of a state that leads on without reading. -/
def unionSteps (count : Nat) : Nat := 4 * count

/-- Grows so often, or until it is too large. -/
def grow (more : Space → Space) : (n : Nat) → Space → Space
  | 0, s => s
  | n + 1, s => if s.isTooLarge then s else grow more n (more s)

end Space

/-! ## Sets of characters -/

/-- A step of a state that reads a byte: the ends of the range, and the state it leads to. -/
abbrev ByteStep := Nat × Nat × Nat

namespace ByteStep

/-- Mixes a number into a hash. -/
def mix (hash : UInt64) (n : Nat) : UInt64 := (hash ^^^ n.toUInt64) * 1099511628211

/-- Which one of so many slots is that of a list of numbers. -/
def slot (slots : Nat) (numbers : List Nat) : Nat :=
  (numbers.foldl mix 14695981039346656037).toNat % slots

/-- The states by the steps they have, as far as they are remembered, by their slots. -/
abbrev Memory := Std.HashMap Nat (List ByteStep × Nat)

/-- How many slots there are when texts are read forwards. -/
def forwardSlots : Nat := 10000

/-- How many slots there are when texts are read backwards. -/
def backwardSlots : Nat := 1000

/-- The state that is remembered in a slot for these steps. -/
def remembered? (memory : Memory) (slot : Nat) (steps : List ByteStep) : Option Nat :=
  match memory[slot]? with
  | some (known, state) => if known = steps then some state else none
  | none => none

end ByteStep

namespace ByteRanges

/-- The encodings that begin with the same range, without it. -/
def groups : List ByteRanges → List ((Nat × Nat) × List ByteRanges)
  | [] => []
  | [] :: rest => groups rest
  | (range :: tail) :: rest =>
    match groups rest with
    | (next, tails) :: found =>
      if next = range then (range, tail :: tails) :: found
      else (range, [tail]) :: (next, tails) :: found
    | [] => [(range, [tail])]

open ByteStep in
/-- Adds the states that read the rest of an encoding forwards, and says which one to start with.
States with the same steps are the same as far as they are remembered.  Encodings are no longer than
the fuel. -/
def addForward (target : Nat) : (fuel : Nat) → List ByteRanges → Space × Memory →
    Nat × Space × Memory
  | 0, _, found => (target, found)
  | fuel + 1, encodings, found =>
    if encodings.all List.isEmpty then (target, found)
    else
      let (steps, space, memory) := (groups encodings).foldl
        (fun (steps, found) ((low, high), tails) =>
          let (next, found) := addForward target fuel tails found
          ((low, high, next) :: steps, found))
        (([] : List ByteStep), found)
      let steps := steps.reverse
      let slot := slot forwardSlots (steps.flatMap fun (low, high, next) => [low, high, next])
      match remembered? memory slot steps with
      | some state => (state, space, memory)
      | none =>
        (space.states, space.add 1 (Space.rangeSteps steps.length),
          memory.insert slot (steps, space.states))

open ByteStep in
/-- Adds the states that read an encoding backwards, the state for its last byte being the first
one.  What it has in common with the beginnings of others is shared as far as it is remembered. -/
def addBackward (target : Nat) (encoding : ByteRanges) (found : Space × Memory) : Space × Memory :=
  (encoding.foldl
    (fun (next, space, memory) (low, high) =>
      let slot := slot backwardSlots [next, low, high]
      match remembered? memory slot [(low, high, next)] with
      | some state => (state, space, memory)
      | none =>
        (space.states, space.addStates 1, memory.insert slot ([(low, high, next)], space.states)))
    (target, found)).2

/-- Adds the states that read a character forwards. -/
def growForward (encodings : List ByteRanges) (s : Space) : Space :=
  (addForward s.states 5 encodings (s.addStates 1, ∅)).2.1

/-- Adds the states that read a character backwards. -/
def growBackward (encodings : List ByteRanges) (s : Space) : Space :=
  (encodings.foldl
    (fun found encoding =>
      let (space, memory) := addBackward (s.states + 1) encoding found
      (space.add 0 (Space.unionSteps 1), memory))
    (s.addStates 2, ∅)).1

end ByteRanges

/-! ## Choices of texts -/

/-- Words that share their beginnings, as they lie behind one beginning: in each part those words
that have been added before the beginning itself was one again. -/
structure WordChoice where
  /-- The rests of the words of the part that is being filled, the last one first. -/
  last : List (List Nat) := []
  /-- The parts that are full, the last one first. -/
  full : List (List (List Nat)) := []

namespace WordChoice

/-- Adds a word. -/
def add (c : WordChoice) (word : List Nat) : WordChoice :=
  if word.isEmpty then
    if c.last.isEmpty && c.full.length != 0 && c.full.all List.isEmpty then c
    else ⟨[], c.last :: c.full⟩
  else { c with last := word :: c.last }

/-- The parts in order, each with its words in order. -/
def parts (c : WordChoice) : List (List (List Nat)) := ((c.last :: c.full).map List.reverse).reverse

/-- The space for a choice of words: a state behind each beginning that leads on to its parts, and
one for each of them that reads the next byte. -/
def space : (depth : Nat) → List (List Nat) → Space
  | 0, _ => ⟨0, 0⟩
  | depth + 1, words =>
    let parts := (words.foldl add {}).parts
    let inner := parts.map fun words =>
      let heads := (words.filterMap List.head?).eraseDups
      let own : Space := ⟨min 1 heads.length,
        if heads.length < 2 then 0 else Space.rangeSteps heads.length⟩
      heads.foldl
        (fun s head =>
          let tails := (words.filter fun word => word.head? = some head).map List.tail
          if tails.all List.isEmpty then s
          else
            let deeper := space depth tails
            s.add deeper.states deeper.steps)
        (own.add 0 (Space.unionSteps (min 1 heads.length)))
    inner.foldl (fun s part => s.add part.states part.steps)
      ⟨1, Space.unionSteps (parts.length - 1)⟩

end WordChoice

/-! ## Shapes -/

/-- How much space is added, by the direction in which texts are read. -/
structure Growth where
  forward : Space → Space
  backward : Space → Space

namespace Growth

/-- The same in both directions. -/
def both (more : Space → Space) : Growth := ⟨more, more⟩

/-- So many states, and so many bytes for steps. -/
def add (states steps : Nat) : Growth := both fun s => s.add states steps

/-- So many states. -/
def states (n : Nat) : Growth := add n 0

/-- One after the other, from the end if texts are read backwards. -/
def andThen (first second : Growth) : Growth where
  forward s := second.forward (first.forward s)
  backward s := first.backward (second.backward s)

/-- One before the other, whatever the direction. -/
def before (first second : Growth) : Growth where
  forward s := second.forward (first.forward s)
  backward s := second.backward (first.backward s)

/-- So many times the same. -/
def times (g : Growth) (n : Nat) : Growth := ⟨Space.grow g.forward n, Space.grow g.backward n⟩

/-- A state with steps to two others. -/
def fork : Growth := add 1 (Space.unionSteps 2)

/-- One of several.  The state that leads to them is made after the first two. -/
def choice : List Growth → Growth
  | first :: second :: rest =>
    rest.foldl before ((first.before second).before (states 2)) |>.before
      (add 0 (Space.unionSteps (rest.length + 2)))
  | rest => rest.foldl before (states 0)

/-- Repetitions.  Where a round may lead nowhere, any number of them needs a state more. -/
def rounds (g : Growth) (canStay : Bool) (least : Nat) (most : Option Nat) : Growth :=
  match least, most with
  | 0, some 1 => (fork.before g).before (states 1)
  | 0, none =>
    if canStay then ((g.before fork).before fork).before (states 1) else fork.before g
  | least, none => (g.times least).before fork
  | least, some most =>
    if least = most then g.times least
    else
      let first := if least = 0 then states 1 else g.times least
      (first.before (states 1)).before ((fork.before g).times (most - least))

end Growth

namespace Shape

/-- The space for a set. -/
def setGrowth (ranges : List (Nat × Nat)) : Growth :=
  if ranges.all fun r => r.2 < 0x80 then .add 2 (Space.rangeSteps ranges.length)
  else
    let encodings := ByteRanges.ofRanges ranges
    ⟨ByteRanges.growForward encodings, ByteRanges.growBackward encodings⟩

/-- The bytes of a text. -/
def bytesOf (chars : List Char) : List Nat :=
  (String.ofList chars).toUTF8.toList.map UInt8.toNat

/-- The bytes of a text, if the shape is one. -/
def word? : Shape → Option (List Nat)
  | text chars => some (bytesOf chars)
  | _ => none

/-- The space for a choice of words. -/
def wordGrowth (words : List (List Nat)) : Growth :=
  let depth := words.foldl (fun n word => max n word.length) 0 + 1
  let forward := WordChoice.space depth words
  let backward := WordChoice.space depth (words.map List.reverse)
  ⟨fun s => s.add (forward.states + 1) forward.steps,
    fun s => s.add (backward.states + 1) backward.steps⟩

mutual

/-- The space for a shape. -/
def growth : Shape → Growth
  | empty | position _ => .states 1
  | text chars => .states (bytesOf chars).length
  | set ranges => setGrowth ranges
  | group _ body =>
    let inner := body.growth
    ⟨fun s => (inner.forward (s.addStates 1)).addStates 1, inner.backward⟩
  | iterate body least most _ =>
    body.growth.rounds ((body.least?.getD 0) == 0) least most
  | seq parts => (growths parts).foldl Growth.andThen (.states 0)
  | choice parts =>
    match parts.mapM word? with
    | some words => wordGrowth words
    | none => .choice (growths parts)

/-- The space for each of the shapes. -/
def growths : List Shape → List Growth
  | [] => []
  | p :: rest => p.growth :: growths rest

end

/-- The space for what stands before a shape: states that skip the beginning of a text, unless a
match has to begin with it. -/
def opening (anchored : Bool) : Space := if anchored then ⟨1, 0⟩ else ⟨3, 16⟩

/-- Whether both automata of a shape are small enough. -/
def isSmall (p : Shape) : Bool :=
  let g := p.growth
  let forward := (g.forward ((opening (p.opensWith .start)).addStates 1)).addStates 2
  let backward := (g.backward (opening (p.closesWith .stop))).addStates 1
  !forward.isTooLarge && !backward.isTooLarge

end Shape

/-! ## Patterns -/

/-- Whether all automata for a pattern are small enough. -/
def Pattern.isSmall (p : Pattern) : Bool := p.trial.parts.all fun part => part.shape.isSmall

end LintConfig
