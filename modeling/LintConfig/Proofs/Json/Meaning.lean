import Mathlib
import LintConfig.Json.Document

/-!
# What documents denote

**Strings.**  `TextUnit.Spells` says which characters a string literal spells.  Half a surrogate
pair spells none, so not every literal denotes a string.

**Values.**  `Document.Denotes` gives a document its value part by part, whatever its nesting.  The
levels that a reader has left only bound the depth: `toJson?_eq_some_iff` splits the two.
-/

namespace LintConfig

namespace TextUnit

/-- The characters that a string literal spells. -/
inductive Spells : List TextUnit → List Char → Prop where
  | nil : Spells [] []
  | char {c : Char} {us : List TextUnit} {cs : List Char} :
      Spells us cs → Spells (.char c :: us) (c :: cs)
  /-- A code unit outside of the surrogates is a character. -/
  | code {unit : ℕ} {us : List TextUnit} {cs : List Char} :
      ¬ (0xD800 ≤ unit ∧ unit < 0xE000) → Spells us cs →
      Spells (.code unit :: us) (Char.ofNat unit :: cs)
  /-- A high surrogate and a low one are a character together. -/
  | pair {high low : ℕ} {us : List TextUnit} {cs : List Char} :
      0xD800 ≤ high ∧ high < 0xDC00 → 0xDC00 ≤ low ∧ low < 0xE000 → Spells us cs →
      Spells (.code high :: .code low :: us)
        (Char.ofNat (0x10000 + (high - 0xD800) * 0x400 + (low - 0xDC00)) :: cs)

/-- A unit that is no surrogate is decoded on its own, whatever follows. -/
lemma decode?_code_cons {unit : ℕ} (h : ¬ (0xD800 ≤ unit ∧ unit < 0xE000)) (us : List TextUnit) :
    decode? (.code unit :: us) = (decode? us).map (Char.ofNat unit :: ·) := by
  match us with
  | .code low :: us =>
      have hhigh : ¬ (0xD800 ≤ unit ∧ unit < 0xDC00) := by omega
      have hlow : ¬ (0xDC00 ≤ unit ∧ unit < 0xE000) := by omega
      rw [decode?, if_neg hhigh, if_neg hlow]
  | [] => rw [decode?.eq_4 unit [] (by simp), if_neg h]
  | .char c :: us => rw [decode?.eq_4 unit _ (by simp), if_neg h]

lemma spells_of_decode? {us : List TextUnit} {cs : List Char} (h : decode? us = some cs) :
    Spells us cs := by
  induction us using decode?.induct generalizing cs with
  | case1 =>
      obtain rfl := Option.some.inj h
      exact Spells.nil
  | case2 c rest ih =>
      obtain ⟨cs, hrest, rfl⟩ := Option.map_eq_some_iff.1 h
      exact Spells.char (ih hrest)
  | case3 high low rest hhigh hlow ih =>
      rw [decode?, if_pos hhigh, if_pos hlow] at h
      obtain ⟨cs, hrest, rfl⟩ := Option.map_eq_some_iff.1 h
      exact Spells.pair hhigh hlow (ih hrest)
  | case4 high low rest hhigh hlow =>
      rw [decode?, if_pos hhigh, if_neg hlow] at h
      exact nomatch h
  | case5 high low rest hhigh hlow =>
      rw [decode?, if_neg hhigh, if_pos hlow] at h
      exact nomatch h
  | case6 high low rest hhigh hlow ih =>
      rw [decode?_code_cons (by omega)] at h
      obtain ⟨cs, hrest, rfl⟩ := Option.map_eq_some_iff.1 h
      exact Spells.code (by omega) (ih hrest)
  | case7 unit rest hnext hsurrogate =>
      rw [decode?.eq_4 unit rest hnext, if_pos hsurrogate] at h
      exact nomatch h
  | case8 unit rest hnext hplain ih =>
      rw [decode?_code_cons hplain] at h
      obtain ⟨cs, hrest, rfl⟩ := Option.map_eq_some_iff.1 h
      exact Spells.code hplain (ih hrest)

/-- **Decoding finds the characters that are spelled.** -/
theorem decode?_eq_some_iff {us : List TextUnit} {cs : List Char} :
    decode? us = some cs ↔ Spells us cs := by
  refine ⟨spells_of_decode?, fun h => ?_⟩
  induction h with
  | nil => rfl
  | char _ ih => rw [decode?, ih, Option.map_some]
  | code hplain _ ih => rw [decode?_code_cons hplain, ih, Option.map_some]
  | pair hhigh hlow _ ih => rw [decode?, if_pos hhigh, if_pos hlow, ih, Option.map_some]

end TextUnit

namespace Document

/-! ## Values -/

mutual

/-- How deep arrays and objects are nested in a document. -/
def depth : Document → ℕ
  | arr items => depthItems items + 1
  | obj members => depthMembers members + 1
  | null | bool _ | num _ | str _ => 0

/-- The greatest depth of an item. -/
def depthItems : List Document → ℕ
  | [] => 0
  | d :: rest => max d.depth (depthItems rest)

/-- The greatest depth of a member. -/
def depthMembers : List (List TextUnit × Document) → ℕ
  | [] => 0
  | (_, d) :: rest => max d.depth (depthMembers rest)

end

mutual

/-- The value that a document denotes.  A number has to be in the range of doubles and a string
must not hold half a surrogate pair. -/
inductive Denotes : Document → Json → Prop where
  | null : Denotes .null .null
  | bool (b : Bool) : Denotes (.bool b) (.bool b)
  | num {l : NumberLiteral} {n : Number} : l.toNumber? = some n → Denotes (.num l) (.num n)
  | str {us : List TextUnit} {s : String} :
      TextUnit.Spells us s.toList → Denotes (.str us) (.str s)
  | arr {ds : List Document} {vs : List Json} : DenotesItems ds vs → Denotes (.arr ds) (.arr vs)
  | obj {ms : List (List TextUnit × Document)} {vs : List (String × Json)} :
      DenotesMembers ms vs → Denotes (.obj ms) (.obj vs)

/-- Each item denotes its value. -/
inductive DenotesItems : List Document → List Json → Prop where
  | nil : DenotesItems [] []
  | cons {d : Document} {v : Json} {ds : List Document} {vs : List Json} :
      Denotes d v → DenotesItems ds vs → DenotesItems (d :: ds) (v :: vs)

/-- Each member denotes its name and its value. -/
inductive DenotesMembers : List (List TextUnit × Document) → List (String × Json) → Prop where
  | nil : DenotesMembers [] []
  | cons {us : List TextUnit} {k : String} {d : Document} {v : Json}
      {ms : List (List TextUnit × Document)} {vs : List (String × Json)} :
      TextUnit.Spells us k.toList → Denotes d v → DenotesMembers ms vs →
      DenotesMembers ((us, d) :: ms) ((k, v) :: vs)

end

lemma string?_eq_some_iff {us : List TextUnit} {s : String} :
    string? us = some s ↔ TextUnit.Spells us s.toList := by
  rw [string?, ← TextUnit.decode?_eq_some_iff]
  constructor
  · intro h
    obtain ⟨cs, hcs, rfl⟩ := Option.map_eq_some_iff.1 h
    rw [hcs, String.toList_ofList]
  · intro h
    rw [h, Option.map_some, String.ofList_toList]

/-- A document with something inside takes one level for itself. -/
lemma succ_le_iff_of_levels {depth levels : ℕ} :
    depth + 1 ≤ levels ↔ levels ≠ 0 ∧ depth ≤ levels - 1 := by
  omega

mutual

/-- **Levels bound the depth and nothing else.** -/
theorem toJson?_eq_some_iff : ∀ (d : Document) (levels : ℕ) (v : Json),
    d.toJson? levels = some v ↔ Denotes d v ∧ d.depth ≤ levels
  | .null, levels, v => by
      rw [toJson?, Option.some_inj, depth, and_iff_left (Nat.zero_le levels)]
      exact ⟨fun h => h ▸ Denotes.null, fun h => by cases h; rfl⟩
  | .bool b, levels, v => by
      rw [toJson?, Option.some_inj, depth, and_iff_left (Nat.zero_le levels)]
      exact ⟨fun h => h ▸ Denotes.bool b, fun h => by cases h; rfl⟩
  | .num l, levels, v => by
      rw [toJson?, Option.map_eq_some_iff, depth, and_iff_left (Nat.zero_le levels)]
      constructor
      · rintro ⟨n, hn, rfl⟩
        exact Denotes.num hn
      · intro h
        cases h with
        | num hn => exact ⟨_, hn, rfl⟩
  | .str us, levels, v => by
      rw [toJson?, Option.map_eq_some_iff, depth, and_iff_left (Nat.zero_le levels)]
      constructor
      · rintro ⟨s, hs, rfl⟩
        exact Denotes.str (string?_eq_some_iff.1 hs)
      · intro h
        cases h with
        | str hs => exact ⟨_, string?_eq_some_iff.2 hs, rfl⟩
  | .arr ds, levels, v => by
      rw [toJson?, depth, succ_le_iff_of_levels]
      split_ifs with hlevels
      · simp [hlevels]
      rw [Option.map_eq_some_iff]
      constructor
      · rintro ⟨vs, hvs, rfl⟩
        obtain ⟨hdenotes, hdepth⟩ := (itemsToJson?_eq_some_iff ds _ vs).1 hvs
        exact ⟨Denotes.arr hdenotes, hlevels, hdepth⟩
      · rintro ⟨h, -, hdepth⟩
        cases h with
        | arr hdenotes => exact ⟨_, (itemsToJson?_eq_some_iff ds _ _).2 ⟨hdenotes, hdepth⟩, rfl⟩
  | .obj ms, levels, v => by
      rw [toJson?, depth, succ_le_iff_of_levels]
      split_ifs with hlevels
      · simp [hlevels]
      rw [Option.map_eq_some_iff]
      constructor
      · rintro ⟨vs, hvs, rfl⟩
        obtain ⟨hdenotes, hdepth⟩ := (membersToJson?_eq_some_iff ms _ vs).1 hvs
        exact ⟨Denotes.obj hdenotes, hlevels, hdepth⟩
      · rintro ⟨h, -, hdepth⟩
        cases h with
        | obj hdenotes => exact ⟨_, (membersToJson?_eq_some_iff ms _ _).2 ⟨hdenotes, hdepth⟩, rfl⟩

/-- The items of an array. -/
theorem itemsToJson?_eq_some_iff : ∀ (ds : List Document) (levels : ℕ) (vs : List Json),
    itemsToJson? levels ds = some vs ↔ DenotesItems ds vs ∧ depthItems ds ≤ levels
  | [], levels, vs => by
      rw [itemsToJson?, Option.some_inj, depthItems, and_iff_left (Nat.zero_le levels)]
      exact ⟨fun h => h ▸ DenotesItems.nil, fun h => by cases h; rfl⟩
  | d :: ds, levels, vs => by
      rw [itemsToJson?, depthItems, max_le_iff]
      constructor
      · intro h
        split at h
        · next hd hds =>
            obtain rfl := Option.some.inj h
            obtain ⟨hdenotes, hdepth⟩ := (toJson?_eq_some_iff d levels _).1 hd
            obtain ⟨hitems, hrest⟩ := (itemsToJson?_eq_some_iff ds levels _).1 hds
            exact ⟨DenotesItems.cons hdenotes hitems, hdepth, hrest⟩
        · exact nomatch h
      · rintro ⟨h, hdepth, hrest⟩
        cases h with
        | cons hdenotes hitems =>
            rw [(toJson?_eq_some_iff d levels _).2 ⟨hdenotes, hdepth⟩,
              (itemsToJson?_eq_some_iff ds levels _).2 ⟨hitems, hrest⟩]

/-- The members of an object. -/
theorem membersToJson?_eq_some_iff : ∀ (ms : List (List TextUnit × Document)) (levels : ℕ)
    (vs : List (String × Json)),
    membersToJson? levels ms = some vs ↔ DenotesMembers ms vs ∧ depthMembers ms ≤ levels
  | [], levels, vs => by
      rw [membersToJson?, Option.some_inj, depthMembers, and_iff_left (Nat.zero_le levels)]
      exact ⟨fun h => h ▸ DenotesMembers.nil, fun h => by cases h; rfl⟩
  | (us, d) :: ms, levels, vs => by
      rw [membersToJson?, depthMembers, max_le_iff]
      constructor
      · intro h
        split at h
        · next hk hd hms =>
            obtain rfl := Option.some.inj h
            obtain ⟨hdenotes, hdepth⟩ := (toJson?_eq_some_iff d levels _).1 hd
            obtain ⟨hmembers, hrest⟩ := (membersToJson?_eq_some_iff ms levels _).1 hms
            exact ⟨DenotesMembers.cons (string?_eq_some_iff.1 hk) hdenotes hmembers, hdepth,
              hrest⟩
        · exact nomatch h
      · rintro ⟨h, hdepth, hrest⟩
        cases h with
        | cons hk hdenotes hmembers =>
            rw [string?_eq_some_iff.2 hk, (toJson?_eq_some_iff d levels _).2 ⟨hdenotes, hdepth⟩,
              (membersToJson?_eq_some_iff ms levels _).2 ⟨hmembers, hrest⟩]

end

end Document

end LintConfig
