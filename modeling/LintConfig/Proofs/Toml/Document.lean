import Mathlib
import LintConfig.Proofs.Toml.Scalar

/-!
# Reading back documents

A document that was written is read as what was written.

**Values.**  `Writable` are the values that need no float and no date-time, fit the limits of the
reader and name no key twice in a table.  A value is read back whatever ends it, given enough nested
calls (`IsReadBack`): `isReadBack_of_writable` is by induction on how the value is built, and the
readers of items and of pairs only need to know it of the values in them.

**Sections.**  Lines without a statement are skipped (`readStatements?_idleLines`), a header with
its pairs gives a table (`readStatements?_section`), and so `parse?_sectionText` reads back a
document with one section.
-/

namespace LintConfig

namespace Toml

/-- The values without floats and date-times that can be read where so many arrays and tables may
still be opened. -/
inductive Writable : ℕ → Value → Prop where
  | string {levels : ℕ} (s : String) : Writable levels (.string s)
  | integer {levels : ℕ} {i : ℤ} : -0x8000000000000000 ≤ i → i < 0x8000000000000000 →
      Writable levels (.integer i)
  | boolean {levels : ℕ} (b : Bool) : Writable levels (.boolean b)
  | array {levels : ℕ} {items : List Value} : (∀ v ∈ items, Writable levels v) →
      Writable (levels + 1) (.array items)
  | table {levels : ℕ} {entries : List (String × Value)} : (entries.map Prod.fst).Nodup →
      (∀ e ∈ entries, Writable levels e.2) → Writable (levels + 1) (.table entries)

@[simp] lemma writable_string {levels : ℕ} (s : String) : Writable levels (.string s) :=
  Writable.string s

@[simp] lemma writable_integer_iff {levels : ℕ} {i : ℤ} :
    Writable levels (.integer i) ↔ -0x8000000000000000 ≤ i ∧ i < 0x8000000000000000 := by
  constructor
  · rintro ⟨⟩
    exact ⟨‹_›, ‹_›⟩
  · exact fun h => Writable.integer h.1 h.2

@[simp] lemma writable_array_iff {levels : ℕ} {items : List Value} :
    Writable (levels + 1) (.array items) ↔ ∀ v ∈ items, Writable levels v := by
  constructor
  · rintro ⟨⟩
    assumption
  · exact Writable.array

@[simp] lemma writable_table_iff {levels : ℕ} {entries : List (String × Value)} :
    Writable (levels + 1) (.table entries)
      ↔ (entries.map Prod.fst).Nodup ∧ ∀ e ∈ entries, Writable levels e.2 := by
  constructor
  · rintro ⟨⟩
    exact ⟨‹_›, ‹_›⟩
  · exact fun h => Writable.table h.1 h.2

/-- A value that is read back from its text, given enough nested calls, whatever ends it. -/
def IsReadBack (levels : ℕ) (v : Value) : Prop :=
  ∀ (fuel : ℕ) (rest : List Char), 2 * v.chars.length < fuel → Ends rest →
    readValue? fuel levels (v.chars ++ rest) = some (v, rest)

/-! ## Steps of the readers -/

section Steps

variable {levels fuel : ℕ} {c : Char} {cs rest : List Char} {v : Value} {key : String}

/-- The characters that a value begins with, unless it is a number. -/
def startMarks : List Char := ['"', '-', 't', 'f', '[', '\x7b']

/-- A character that a value which was written may begin with. -/
def Starts (c : Char) : Prop := c.isDigit = true ∨ c ∈ startMarks

lemma Starts.not_layout (h : Starts c) :
    ¬ (c = ' ' ∨ c = '\t') ∧ c ≠ '\n' ∧ c ≠ '\r' ∧ c ≠ '#' ∧ c ≠ ']' := by
  rcases h with hdigit | hmark
  · refine ⟨?_, ?_, ?_, ?_, ?_⟩
    · rintro (rfl | rfl) <;> exact absurd hdigit (by decide)
    all_goals
      rintro rfl
      exact absurd hdigit (by decide)
  · have hall : ∀ c ∈ startMarks, ¬ (c = ' ' ∨ c = '\t') ∧ c ≠ '\n' ∧ c ≠ '\r' ∧ c ≠ '#'
        ∧ c ≠ ']' := by simp [startMarks]
    exact hall c hmark

lemma Writable.exists_chars_eq (h : Writable levels v) :
    ∃ c cs, v.chars = c :: cs ∧ Starts c := by
  cases h with
  | string s => exact ⟨'"', _, by rw [Value.chars, quote, List.cons_append], Or.inr (by decide)⟩
  | @integer _ i hlow hhigh =>
      rw [Value.chars, integerChars]
      split_ifs with hneg
      · exact ⟨'-', _, rfl, Or.inr (by decide)⟩
      · obtain ⟨c, cs, heq⟩ : ∃ c cs, Nat.toDigits 10 i.natAbs = c :: cs :=
          List.exists_cons_of_ne_nil Nat.toDigits_ne_nil
        have hdigits : Nat.toDigits 10 i.natAbs ++ [] = c :: cs := by rw [heq, List.append_nil]
        exact ⟨c, cs, by rw [heq, List.nil_append], Or.inl (isDigit_of_digits_eq hdigits)⟩
  | boolean b => cases b with
      | true => exact ⟨'t', _, by rw [Value.chars], Or.inr (by decide)⟩
      | false => exact ⟨'f', _, by rw [Value.chars], Or.inr (by decide)⟩
  | @array _ items hitems => cases items with
      | nil => exact ⟨'[', _, by rw [Value.chars], Or.inr (by decide)⟩
      | cons v items =>
          exact ⟨'[', _, by rw [Value.chars, List.cons_append], Or.inr (by decide)⟩
  | @table _ entries hnodup hentries => cases entries with
      | nil => exact ⟨'\x7b', _, by rw [Value.chars], Or.inr (by decide)⟩
      | cons e entries =>
          obtain ⟨key, v⟩ := e
          exact ⟨'\x7b', _, by rw [Value.chars]; rfl, Or.inr (by decide)⟩

/-- Between the items of an array a blank is skipped, -/
lemma skipLines_blank : skipLines false (' ' :: cs) = skipLines false cs := by
  rw [skipLines.eq_def]
  simp

/-- and everything but blanks, line ends and comments is kept. -/
lemma skipLines_of_ne (hblank : ¬ (c = ' ' ∨ c = '\t')) (hfeed : c ≠ '\n') (hreturn : c ≠ '\r')
    (hcomment : c ≠ '#') : skipLines false (c :: cs) = some (c :: cs) := by
  rw [skipLines.eq_def]
  simp [hblank, hreturn, hcomment]

lemma Writable.skipLines_chars (h : Writable levels v) (rest : List Char) :
    skipLines false (v.chars ++ rest) = some (v.chars ++ rest) := by
  obtain ⟨c, cs, heq, hc⟩ := h.exists_chars_eq
  obtain ⟨hblank, hfeed, hreturn, hcomment, -⟩ := hc.not_layout
  rw [heq, List.cons_append, skipLines_of_ne hblank hfeed hreturn hcomment]

/-- No value begins with the bracket that closes an array. -/
lemma Writable.chars_append_ne (h : Writable levels v) (rest r : List Char) :
    v.chars ++ rest ≠ ']' :: r := by
  obtain ⟨c, cs, heq, hc⟩ := h.exists_chars_eq
  rw [heq, List.cons_append]
  exact fun hcons => hc.not_layout.2.2.2.2 (List.cons.inj hcons).1

/-- A value that opens nothing is a scalar. -/
lemma readValue?_scalar (harray : c ≠ '[') (htable : c ≠ '\x7b') :
    readValue? (fuel + 1) levels (c :: cs) = readScalar? (c :: cs) := by
  rw [readValue?.eq_def]
  split
  · next heq => exact nomatch heq
  · next heq => exact absurd (List.cons.inj heq).1 harray
  · next heq => exact absurd (List.cons.inj heq).1 htable
  · rfl

/-- An item with the bracket behind it is the last one. -/
lemma readItems?_last (h : readValue? fuel levels cs = some (v, ']' :: rest)) :
    readItems? (fuel + 1) levels cs = some ([v], rest) := by
  have hskip : skipLines false (']' :: rest) = some (']' :: rest) :=
    skipLines_of_ne (by decide) (by decide) (by decide) (by decide)
  rw [readItems?, h]
  simp only [hskip]

/-- An item with a comma behind it stands before further ones. -/
lemma readItems?_more (h : readValue? fuel levels cs = some (v, ',' :: ' ' :: rest))
    (hskip : skipLines false rest = some rest) (hne : ∀ r, rest ≠ ']' :: r) :
    readItems? (fuel + 1) levels cs
      = (readItems? fuel levels rest).map fun items => (v :: items.1, items.2) := by
  have hcomma : skipLines false (',' :: ' ' :: rest) = some (',' :: ' ' :: rest) :=
    skipLines_of_ne (by decide) (by decide) (by decide) (by decide)
  rw [readItems?, h]
  -- `hne` excludes a comma behind the last item
  simp only [hcomma, skipLines_blank, hskip]

/-- Without a closing bracket an array goes on with its items. -/
lemma readValue?_array (hskip : skipLines false cs = some cs) (hne : ∀ r, cs ≠ ']' :: r) :
    readValue? (fuel + 1) (levels + 1) ('[' :: cs)
      = (readItems? fuel levels cs).map fun items => (.array items.1, items.2) := by
  rw [readValue?, if_neg (Nat.succ_ne_zero levels)]
  -- `hne` excludes the empty form
  simp only [hskip, Nat.add_sub_cancel]

/-- Without a closing brace an inline table goes on with its pairs. -/
lemma readValue?_table (hne : ∀ r, skipBlanks cs ≠ '\x7d' :: r) :
    readValue? (fuel + 1) (levels + 1) ('\x7b' :: cs)
      = (readPairs? fuel levels (skipBlanks cs)).bind fun pairs =>
          (inlineTable? pairs.1).map fun v => (v, pairs.2) := by
  rw [readValue?, if_neg (Nat.succ_ne_zero levels)]
  -- `hne` excludes the empty form
  simp only [Nat.add_sub_cancel]
  cases readPairs? fuel levels (skipBlanks cs) with
  | none => rfl
  | some pairs => rfl

lemma exists_succ_of_lt {m : ℕ} (h : m < fuel) : ∃ fuel', fuel = fuel' + 1 :=
  Nat.exists_eq_add_one_of_ne_zero (Nat.ne_of_gt (Nat.zero_lt_of_lt h))

/-- The items of an array are read if they can be read by themselves. -/
lemma readItems?_chars {items : List Value} (hwritable : ∀ w ∈ v :: items, Writable levels w)
    (hread : ∀ w ∈ v :: items, IsReadBack levels w)
    (hfuel : 2 * (v.chars ++ Value.itemsChars items).length < fuel) :
    readItems? fuel levels (v.chars ++ Value.itemsChars items ++ rest)
      = some (v :: items, rest) := by
  induction items generalizing v fuel with
  | nil =>
      obtain ⟨fuel, rfl⟩ := exists_succ_of_lt hfuel
      rw [Value.itemsChars] at hfuel ⊢
      rw [List.length_append, List.length_singleton] at hfuel
      rw [List.append_assoc, List.singleton_append]
      exact readItems?_last
        (hread v List.mem_cons_self fuel _ (by omega) ⟨']', by decide, rest, rfl⟩)
  | cons w items ih =>
      obtain ⟨fuel, rfl⟩ := exists_succ_of_lt hfuel
      rw [Value.itemsChars] at hfuel ⊢
      simp only [List.length_append, List.length_cons] at hfuel
      rw [List.forall_mem_cons] at hwritable hread
      have hw := hwritable.2 w List.mem_cons_self
      have htext : v.chars ++ (',' :: ' ' :: w.chars ++ Value.itemsChars items) ++ rest
          = v.chars ++ ',' :: ' ' :: (w.chars ++ Value.itemsChars items ++ rest) := by simp
      have hskip : skipLines false (w.chars ++ Value.itemsChars items ++ rest)
          = some (w.chars ++ Value.itemsChars items ++ rest) := by
        rw [List.append_assoc, hw.skipLines_chars]
      have hne : ∀ r, w.chars ++ Value.itemsChars items ++ rest ≠ ']' :: r := by
        rw [List.append_assoc]
        exact hw.chars_append_ne _
      have hvalue := hread.1 fuel (',' :: ' ' :: (w.chars ++ Value.itemsChars items ++ rest))
        (by omega) ⟨',', by decide, _, rfl⟩
      rw [htext, readItems?_more hvalue hskip hne,
        ih hwritable.2 hread.2 (by rw [List.length_append]; omega)]
      rfl

/-- A key with its equals sign is read back, also behind a blank. -/
lemma readKey?_pair :
    readKey? (keyChars key ++ ' ' :: '=' :: rest) = some (⟨[], key⟩, '=' :: rest) := by
  have hbehind : skipBlanks (' ' :: '=' :: rest) = '=' :: rest := by
    rw [skipBlanks_blank, skipBlanks_of_ne (by decide)]
  rw [readKey?_keyChars, hbehind]
  · rintro c hc
    rw [← Option.some.inj hc]
    rfl
  · rw [hbehind]
    exact fun hdot => absurd (Option.some.inj hdot) (by decide)

lemma readKey?_blank : readKey? (' ' :: cs) = readKey? cs := by
  have hparts : ∀ fuel, readKeyParts? (fuel + 1) (' ' :: cs) = readKeyParts? (fuel + 1) cs := by
    intro fuel
    rw [readKeyParts?, readKeyParts?, skipBlanks_blank]
  have hlimit : nestingLimit = 78 + 1 := rfl
  rw [readKey?, readKey?, hlimit, hparts]

lemma Writable.skipBlanks_chars (h : Writable levels v) :
    skipBlanks (' ' :: (v.chars ++ rest)) = v.chars ++ rest := by
  obtain ⟨c, cs, heq, hc⟩ := h.exists_chars_eq
  rw [skipBlanks_blank, heq, List.cons_append, skipBlanks_of_ne hc.not_layout.1]

/-- A pair with the brace behind it is the last one. -/
lemma readPairs?_last {k : Key} {more : List Char} (hkey : readKey? cs = some (k, '=' :: more))
    (h : readValue? fuel levels (skipBlanks more) = some (v, ' ' :: '\x7d' :: rest)) :
    readPairs? (fuel + 1) levels cs = some ([(k, v)], rest) := by
  have hskip : skipBlanks (' ' :: '\x7d' :: rest) = '\x7d' :: rest := by
    rw [skipBlanks_blank, skipBlanks_of_ne (by decide)]
  rw [readPairs?, hkey]
  simp only [h, hskip]

/-- A pair with a comma behind it stands before further ones. -/
lemma readPairs?_more {k : Key} {more : List Char} (hkey : readKey? cs = some (k, '=' :: more))
    (h : readValue? fuel levels (skipBlanks more) = some (v, ',' :: rest)) :
    readPairs? (fuel + 1) levels cs
      = (readPairs? fuel levels rest).map fun pairs => ((k, v) :: pairs.1, pairs.2) := by
  have hskip : skipBlanks (',' :: rest) = ',' :: rest := skipBlanks_of_ne (by decide)
  rw [readPairs?, hkey]
  simp only [h, hskip]

/-- Pairs with keys of one part. -/
def plainPairs (entries : List (String × Value)) : List (Key × Value) :=
  entries.map fun e => (⟨[], e.1⟩, e.2)

/-- The pairs of an inline table are read if their values can be read by themselves. -/
lemma readPairs?_chars {entries : List (String × Value)}
    (hkey : readKey? cs
      = some (⟨[], key⟩, '=' :: ' ' :: (v.chars ++ Value.entriesChars entries ++ rest)))
    (hwritable : ∀ e ∈ (key, v) :: entries, Writable levels e.2)
    (hread : ∀ e ∈ (key, v) :: entries, IsReadBack levels e.2)
    (hfuel : 2 * (v.chars ++ Value.entriesChars entries).length < fuel) :
    readPairs? fuel levels cs = some (plainPairs ((key, v) :: entries), rest) := by
  induction entries generalizing key v cs fuel with
  | nil =>
      obtain ⟨fuel, rfl⟩ := exists_succ_of_lt hfuel
      rw [Value.entriesChars, List.append_assoc] at hkey
      rw [Value.entriesChars] at hfuel
      simp only [List.length_append, List.length_cons, List.length_nil] at hfuel
      refine readPairs?_last hkey ?_
      rw [(hwritable (key, v) List.mem_cons_self).skipBlanks_chars]
      exact hread (key, v) List.mem_cons_self fuel _ (by dsimp only; omega)
        ⟨' ', by decide, _, rfl⟩
  | cons e entries ih =>
      obtain ⟨fuel, rfl⟩ := exists_succ_of_lt hfuel
      obtain ⟨key', w⟩ := e
      rw [List.forall_mem_cons] at hwritable hread
      rw [Value.entriesChars] at hkey hfuel
      simp only [List.length_append, List.length_cons] at hfuel
      have htext : ',' :: ' ' :: keyChars key' ++ ' ' :: '=' :: ' ' :: w.chars
            ++ Value.entriesChars entries ++ rest
          = ',' :: ' ' :: (keyChars key'
            ++ ' ' :: '=' :: ' ' :: (w.chars ++ Value.entriesChars entries ++ rest)) := by simp
      rw [List.append_assoc, htext] at hkey
      have hvalue := hread.1 fuel (',' :: ' ' :: (keyChars key'
        ++ ' ' :: '=' :: ' ' :: (w.chars ++ Value.entriesChars entries ++ rest)))
        (by dsimp only; omega) ⟨',', by decide, _, rfl⟩
      rw [readPairs?_more hkey (by rw [hwritable.1.skipBlanks_chars]; exact hvalue),
        ih (readKey?_blank.trans readKey?_pair) hwritable.2 hread.2
          (by rw [List.length_append]; omega)]
      rfl

end Steps

/-! ## Tables -/

section Tables

variable {key : String} {node : Node} {entries : List (String × Value)} {acc : Entries}

lemma find_of_notMem (h : key ∉ acc.map Prod.fst) : Entries.find key acc = none := by
  induction acc with
  | nil => rfl
  | cons e acc ih =>
      rw [List.map_cons, List.mem_cons, not_or] at h
      rw [Entries.find, if_neg (Ne.symm h.1)]
      exact ih h.2

lemma put_of_notMem (h : key ∉ acc.map Prod.fst) :
    Entries.put key node acc = acc ++ [(key, node)] := by
  induction acc with
  | nil => rfl
  | cons e acc ih =>
      rw [List.map_cons, List.mem_cons, not_or] at h
      rw [Entries.put, if_neg (Ne.symm h.1), ih h.2, List.cons_append]

/-- The nodes of entries that nothing can be added to. -/
def nodesOf (entries : List (String × Value)) : Entries := entries.map fun e => (e.1, .value e.2)

/-- **Pairs with different keys** are added one after the other. -/
lemma addPairs_plainPairs (h : (acc.map Prod.fst ++ entries.map Prod.fst).Nodup) :
    Entries.addPairs (plainPairs entries) acc = some (acc ++ nodesOf entries) := by
  induction entries generalizing acc with
  | nil =>
      rw [nodesOf, List.map_nil, List.append_nil]
      rfl
  | cons e entries ih =>
      obtain ⟨key, v⟩ := e
      have hnotMem : key ∉ acc.map Prod.fst := by
        rw [List.map_cons, List.nodup_append] at h
        exact fun hmem => h.2.2 key hmem key List.mem_cons_self rfl
      have hadd : Entries.addPair acc ⟨[], key⟩ v = some (acc ++ [(key, .value v)]) := by
        have hlast : ([] : List String).isEmpty = true ∨ Origin.header = .dotted := Or.inl rfl
        rw [Entries.addPair, Entries.update, if_pos hlast, Entries.addNew, find_of_notMem hnotMem]
        dsimp only
        rw [put_of_notMem hnotMem]
      rw [plainPairs, List.map_cons, Entries.addPairs, hadd, Option.bind_some]
      refine (ih ?_).trans ?_
      · rw [List.map_append, List.append_assoc]
        exact h
      · rw [List.append_assoc]
        rfl

lemma toValues_nodesOf (entries : List (String × Value)) :
    toValues (nodesOf entries) = entries := by
  induction entries with
  | nil => rfl
  | cons e entries ih =>
      rw [nodesOf, List.map_cons, toValues, Node.toValue]
      exact congrArg _ ih

lemma inlineTable?_plainPairs (h : (entries.map Prod.fst).Nodup) :
    inlineTable? (plainPairs entries) = some (.table entries) := by
  rw [inlineTable?, addPairs_plainPairs (by simpa using h), Option.map_some, List.nil_append,
    toValues_nodesOf]

end Tables

/-! ## Values -/

section Values

variable {levels : ℕ} {v : Value}

/-- A value whose characters are those of a scalar. -/
lemma isReadBack_of_readScalar? (hwritable : Writable levels v)
    (hopen : ∀ c cs, v.chars = c :: cs → c ≠ '[' ∧ c ≠ '\x7b')
    (h : ∀ rest, Ends rest → readScalar? (v.chars ++ rest) = some (v, rest)) :
    IsReadBack levels v := by
  intro fuel rest hfuel hrest
  obtain ⟨fuel, rfl⟩ := exists_succ_of_lt hfuel
  obtain ⟨c, cs, heq, -⟩ := hwritable.exists_chars_eq
  have hread := h rest hrest
  obtain ⟨harray, htable⟩ := hopen c cs heq
  rw [heq, List.cons_append] at hread ⊢
  rw [readValue?_scalar harray htable, hread]

lemma isReadBack_array {items : List Value} (hwritable : ∀ v ∈ items, Writable levels v)
    (hread : ∀ v ∈ items, IsReadBack levels v) : IsReadBack (levels + 1) (.array items) := by
  intro fuel rest hfuel hrest
  obtain ⟨fuel, rfl⟩ := exists_succ_of_lt hfuel
  cases items with
  | nil =>
      have hskip : skipLines false (']' :: rest) = some (']' :: rest) :=
        skipLines_of_ne (by decide) (by decide) (by decide) (by decide)
      rw [Value.chars, List.cons_append, List.singleton_append, readValue?,
        if_neg (Nat.succ_ne_zero levels), hskip]
      rfl
  | cons v items =>
      rw [Value.chars] at hfuel ⊢
      rw [List.cons_append, List.length_cons] at hfuel
      have hv := hwritable v List.mem_cons_self
      have hskip := hv.skipLines_chars (Value.itemsChars items ++ rest)
      have hne := hv.chars_append_ne (Value.itemsChars items ++ rest)
      rw [← List.append_assoc] at hskip hne
      rw [List.cons_append, List.cons_append, readValue?_array hskip hne,
        readItems?_chars hwritable hread (by omega)]
      rfl

lemma isReadBack_table {entries : List (String × Value)} (hnodup : (entries.map Prod.fst).Nodup)
    (hwritable : ∀ e ∈ entries, Writable levels e.2)
    (hread : ∀ e ∈ entries, IsReadBack levels e.2) : IsReadBack (levels + 1) (.table entries) := by
  intro fuel rest hfuel hrest
  obtain ⟨fuel, rfl⟩ := exists_succ_of_lt hfuel
  cases entries with
  | nil =>
      have hskip : skipBlanks ('\x7d' :: rest) = '\x7d' :: rest := skipBlanks_of_ne (by decide)
      rw [Value.chars, List.cons_append, List.singleton_append, readValue?,
        if_neg (Nat.succ_ne_zero levels), hskip]
      rfl
  | cons e entries =>
      obtain ⟨key, v⟩ := e
      rw [Value.chars] at hfuel ⊢
      simp only [List.length_append, List.length_cons] at hfuel
      have htext : '\x7b' :: ' ' :: keyChars key ++ ' ' :: '=' :: ' ' :: v.chars
            ++ Value.entriesChars entries ++ rest
          = '\x7b' :: ' ' :: (keyChars key
            ++ ' ' :: '=' :: ' ' :: (v.chars ++ Value.entriesChars entries ++ rest)) := by simp
      obtain ⟨c, cs, hkey, hc⟩ := exists_keyChars_eq key
      have hskip : ∀ cs, skipBlanks (' ' :: (keyChars key ++ cs)) = keyChars key ++ cs := by
        intro cs
        rw [skipBlanks_blank, skipBlanks_keyChars]
      have hne : ∀ more r, skipBlanks (' ' :: (keyChars key ++ more)) ≠ '\x7d' :: r := by
        intro more r hr
        rw [hskip, hkey, List.cons_append] at hr
        exact ne_of_keyStart hc (by decide) rfl (List.cons.inj hr).1
      rw [htext, readValue?_table (hne _), hskip,
        readPairs?_chars readKey?_pair hwritable hread (by rw [List.length_append]; omega),
        Option.bind_some]
      dsimp only
      rw [inlineTable?_plainPairs hnodup, Option.map_some]

/-- **Every writable value is read back.** -/
theorem isReadBack_of_writable (h : Writable levels v) : IsReadBack levels v := by
  induction h with
  | string s =>
      refine isReadBack_of_readScalar? (.string s) (fun c cs heq => ?_) fun rest hrest => ?_
      · rw [Value.chars, quote, List.cons_append] at heq
        rw [← (List.cons.inj heq).1]
        decide
      · obtain ⟨c, hc, cs, rfl⟩ := hrest
        have hmark : ∀ c ∈ endMarks, (c :: cs).head? ≠ some '"' := by simp [endMarks]
        have hstring := readString?_quote s (hmark c hc)
        rw [quote_append] at hstring
        rw [Value.chars, quote_append, readScalar?, hstring, Option.map_some]
  | @integer levels i hlow hhigh =>
      refine isReadBack_of_readScalar? (.integer hlow hhigh) (fun c cs heq => ?_)
        fun rest hrest => ?_
      · rw [Value.chars, integerChars] at heq
        split_ifs at heq with hneg
        · rw [← (List.cons.inj heq).1]
          decide
        · rw [List.nil_append, ← List.append_nil (Nat.toDigits 10 i.natAbs)] at heq
          have hdigit := isDigit_of_digits_eq heq
          constructor
          · rintro rfl
            exact absurd hdigit (by decide)
          · rintro rfl
            exact absurd hdigit (by decide)
      · rw [Value.chars]
        exact readScalar?_integerChars hlow hhigh hrest
  | boolean b =>
      cases b with
      | true =>
          refine isReadBack_of_readScalar? (.boolean true) (fun c cs heq => ?_) fun rest _ => rfl
          rw [Value.chars] at heq
          rw [← (List.cons.inj heq).1]
          decide
      | false =>
          refine isReadBack_of_readScalar? (.boolean false) (fun c cs heq => ?_) fun rest _ => rfl
          rw [Value.chars] at heq
          rw [← (List.cons.inj heq).1]
          decide
  | array hitems ih => exact isReadBack_array hitems ih
  | table hnodup hentries ih => exact isReadBack_table hnodup hentries ih

end Values

/-! ## Sections -/

section Sections

variable {fuel : ℕ} {cs line : List Char} {lines : List (List Char)} {key name : String} {v : Value}
  {entries : List (String × Value)}

/-- Whether a line holds no statement: it is empty or a comment. -/
def isIdle : List Char → Bool
  | [] => true
  | c :: body => c = '#' && body.all isPlain

lemma endLine?_newline : endLine? ('\n' :: cs) = some cs := by
  rw [endLine?, skipBlanks_of_ne (by decide)]
  rfl

lemma endLine?_comment (h : ∀ c ∈ line, isPlain c = true) :
    endLine? ('#' :: (line ++ '\n' :: cs)) = some cs := by
  have hdrop : (line ++ '\n' :: cs).dropWhile isPlain = '\n' :: cs := by
    rw [List.dropWhile_append_of_pos h, List.dropWhile_cons_of_neg (by decide)]
  rw [endLine?, skipBlanks_of_ne (by decide)]
  simp only [hdrop]
  rfl

/-- A line without a statement is skipped. -/
lemma readStatements?_idle (h : isIdle line = true) :
    readStatements? (fuel + 1) (line ++ '\n' :: cs) = readStatements? fuel cs := by
  cases line with
  | nil =>
      rw [List.nil_append, readStatements?, skipBlanks_of_ne (by decide)]
      simp [endLine?_newline]
  | cons c body =>
      rw [isIdle, Bool.and_eq_true, decide_eq_true_eq, List.all_eq_true] at h
      obtain ⟨rfl, hbody⟩ := h
      rw [List.cons_append, readStatements?, skipBlanks_of_ne (by decide)]
      simp [endLine?_comment hbody]

lemma readStatements?_idleLines (h : ∀ line ∈ lines, isIdle line = true) :
    readStatements? (fuel + lines.length) (lines.flatMap (· ++ ['\n']) ++ cs)
      = readStatements? fuel cs := by
  induction lines with
  | nil => rfl
  | cons line lines ih =>
      rw [List.forall_mem_cons] at h
      rw [List.flatMap_cons, List.append_assoc, List.append_assoc, List.singleton_append,
        List.length_cons, ← Nat.add_assoc, readStatements?_idle h.1, ih h.2]

lemma pairLine_append :
    pairLine key v ++ cs = keyChars key ++ ' ' :: '=' :: ' ' :: (v.chars ++ '\n' :: cs) := by
  simp [pairLine]

/-- **A pair on a line of its own** is read back. -/
lemma readPair?_pairLine (key : String) (cs : List Char) (h : Writable nestingLimit v) :
    readPair? (pairLine key v ++ cs) = some ((⟨[], key⟩, v), cs) := by
  have hvalue : readValue? (2 * (v.chars ++ '\n' :: cs).length + 2) nestingLimit
      (v.chars ++ '\n' :: cs) = some (v, '\n' :: cs) := by
    refine isReadBack_of_writable h _ _ ?_ ⟨'\n', by decide, cs, rfl⟩
    rw [List.length_append]
    omega
  rw [pairLine_append, readPair?, readKey?_pair]
  simp only [h.skipBlanks_chars, hvalue, endLine?_newline, Option.map_some]

lemma readStatements?_pairLine (h : Writable nestingLimit v) :
    readStatements? (fuel + 1) (pairLine key v ++ cs)
      = (readStatements? fuel cs).map (.pair ⟨[], key⟩ v :: ·) := by
  have hread := readPair?_pairLine key cs h
  have hskip : skipBlanks (pairLine key v ++ cs) = pairLine key v ++ cs := by
    rw [pairLine_append, skipBlanks_keyChars]
  obtain ⟨c, rest, hkey, hc⟩ := exists_keyChars_eq key
  obtain ⟨more, hmore⟩ : ∃ more, pairLine key v ++ cs = c :: more :=
    ⟨_, by rw [pairLine_append, hkey, List.cons_append]⟩
  have hstart : ∀ mark, mark ≠ '"' → isBareKey mark = false → c ≠ mark := fun mark =>
    ne_of_keyStart hc
  rw [readStatements?, hskip, hmore]
  rw [hmore] at hread
  split
  · next heq => exact nomatch heq
  · next heq => exact absurd (List.cons.inj heq).1 (hstart _ (by decide) rfl)
  · next heq =>
      obtain ⟨rfl, rfl⟩ := List.cons.inj heq
      rw [if_neg, hread]
      exact not_or.2 ⟨hstart _ (by decide) rfl,
        not_or.2 ⟨hstart _ (by decide) rfl, hstart _ (by decide) rfl⟩⟩

/-- The pairs up to the end of the text. -/
lemma readStatements?_pairLines (h : ∀ e ∈ entries, Writable nestingLimit e.2) :
    readStatements? (fuel + entries.length + 1) (entries.flatMap fun e => pairLine e.1 e.2)
      = some ((plainPairs entries).map fun pair => .pair pair.1 pair.2) := by
  induction entries with
  | nil => rfl
  | cons e entries ih =>
      rw [List.forall_mem_cons] at h
      rw [List.flatMap_cons, List.length_cons, ← Nat.add_assoc, readStatements?_pairLine h.1,
        ih h.2]
      rfl

/-- **The header of a table** is read back. -/
lemma readStatements?_header :
    readStatements? (fuel + 1) ('[' :: (keyChars name ++ ']' :: '\n' :: cs))
      = (readStatements? fuel cs).map (.header (.table ⟨[], name⟩) :: ·) := by
  have hskip : skipBlanks (']' :: '\n' :: cs) = ']' :: '\n' :: cs := skipBlanks_of_ne (by decide)
  have hkey : readKey? (keyChars name ++ ']' :: '\n' :: cs)
      = some (⟨[], name⟩, ']' :: '\n' :: cs) := by
    rw [readKey?_keyChars, hskip]
    · rintro c hc
      rw [← Option.some.inj hc]
      rfl
    · rw [hskip]
      exact fun hdot => absurd (Option.some.inj hdot) (by decide)
  have hheader : readHeader? (keyChars name ++ ']' :: '\n' :: cs)
      = some (.table ⟨[], name⟩, cs) := by
    obtain ⟨c, rest, hchars, hc⟩ := exists_keyChars_eq name
    rw [hchars, List.cons_append] at hkey ⊢
    rw [readHeader?.eq_def]
    split
    · next heq => exact absurd (List.cons.inj heq).1 (ne_of_keyStart hc (by decide) rfl)
    · rw [hkey]
      simp only [endLine?_newline, Option.map_some]
  rw [readStatements?, skipBlanks_of_ne (by decide)]
  simp only [hheader]

lemma sections_pairs (pairs : List (Key × Value)) :
    sections (pairs.map fun pair => .pair pair.1 pair.2) = (pairs, []) := by
  induction pairs with
  | nil => rfl
  | cons pair pairs ih => rw [List.map_cons, sections, ih]

/-- A document with one table under a header. -/
lemma addSections_plainPairs (h : (entries.map Prod.fst).Nodup) :
    Entries.addSections [(.table ⟨[], name⟩, plainPairs entries)] []
      = some [(name, .table .header (nodesOf entries))] := by
  have hsection : Entries.addSection [] (.table ⟨[], name⟩) (plainPairs entries)
      = some [(name, .table .header (nodesOf entries))] := by
    rw [Entries.addSection, Header.path, Entries.update, Entries.openHeader, Entries.find,
      addPairs_plainPairs (by simpa using h)]
    rfl
  rw [Entries.addSections, hsection]
  rfl

/-- A text that begins with a line without statements or with a bracket has no mark in front. -/
lemma dropByteOrderMark_idleLines (h : ∀ line ∈ lines, isIdle line = true) :
    dropByteOrderMark (lines.flatMap (· ++ ['\n']) ++ '[' :: cs)
      = lines.flatMap (· ++ ['\n']) ++ '[' :: cs := by
  have hfirst : ∀ c cs, c ≠ '\ufeff' → dropByteOrderMark (c :: cs) = c :: cs := by
    intro c cs hc
    rw [dropByteOrderMark.eq_def]
    split
    · next heq => exact absurd (List.cons.inj heq).1 hc
    · rfl
  cases lines with
  | nil => exact hfirst '[' cs (by decide)
  | cons line lines =>
      have hline := h line List.mem_cons_self
      cases line with
      | nil => exact hfirst '\n' _ (by decide)
      | cons c body =>
          rw [isIdle, Bool.and_eq_true, decide_eq_true_eq] at hline
          rw [hline.1]
          exact hfirst '#' _ (by decide)

/-- The text of a header with its pairs, behind lines without statements. -/
def sectionChars (lines : List (List Char)) (name : String) (entries : List (String × Value)) :
    List Char :=
  lines.flatMap (· ++ ['\n'])
    ++ '[' :: (keyChars name ++ ']' :: '\n' :: entries.flatMap fun e => pairLine e.1 e.2)

/-- Every statement takes one call. -/
lemma readStatements?_section (hidle : ∀ line ∈ lines, isIdle line = true)
    (hwritable : ∀ e ∈ entries, Writable nestingLimit e.2)
    (hfuel : lines.length + entries.length + 2 ≤ fuel) :
    readStatements? fuel (sectionChars lines name entries)
      = some (.header (.table ⟨[], name⟩)
          :: (plainPairs entries).map fun pair => .pair pair.1 pair.2) := by
  obtain ⟨more, rfl⟩ := Nat.exists_eq_add_of_le hfuel
  have hsplit : lines.length + entries.length + 2 + more
      = more + entries.length + 1 + 1 + lines.length := by omega
  rw [sectionChars, hsplit, readStatements?_idleLines hidle, readStatements?_header,
    readStatements?_pairLines hwritable, Option.map_some]

/-- There are fewer statements than characters. -/
lemma length_le_length_sectionChars :
    lines.length + entries.length + 2 ≤ (sectionChars lines name entries).length + 1 := by
  have hlines : lines.length ≤ (lines.flatMap (· ++ ['\n'])).length :=
    length_le_length_flatMap fun line _ => by simp
  have hpairs : entries.length ≤ (entries.flatMap fun e => pairLine e.1 e.2).length :=
    length_le_length_flatMap fun e _ => by simp [pairLine]
  simp only [sectionChars, List.length_append, List.length_cons]
  omega

/-- **A document with one section is read back**: lines without statements, then a header with its
pairs. -/
theorem parse?_sectionText {front : String} (hfront : front.toList = lines.flatMap (· ++ ['\n']))
    (hidle : ∀ line ∈ lines, isIdle line = true) (hnodup : (entries.map Prod.fst).Nodup)
    (hwritable : ∀ e ∈ entries, Writable nestingLimit e.2) :
    parse? (front ++ sectionText name entries) = some [(name, .table entries)] := by
  have htext : (front ++ sectionText name entries).toList = sectionChars lines name entries := by
    rw [String.toList_append, hfront, sectionText, String.toList_ofList, List.cons_append]
    rfl
  have hdrop : dropByteOrderMark (sectionChars lines name entries)
      = sectionChars lines name entries := dropByteOrderMark_idleLines hidle
  have hread : readStatements? ((sectionChars lines name entries).length + 1)
      (sectionChars lines name entries) = _ :=
    readStatements?_section hidle hwritable length_le_length_sectionChars
  rw [parse?, htext]
  simp only [hdrop, hread, sections, sections_pairs, Entries.addPairs, Option.bind_some,
    addSections_plainPairs hnodup, Option.map_some, toValues, Node.toValue, toValues_nodesOf]

end Sections

end Toml

end LintConfig
