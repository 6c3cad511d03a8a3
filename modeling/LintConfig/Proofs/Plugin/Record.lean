import Mathlib
import LintConfig.Plugin.Manifest
import LintConfig.Proofs.Json.Meaning

/-!
# Records in their two forms

A record gives values to some of its names.  Which ones is a partial map from the names, whether
they are written with their names or by their positions.

**By name.**  `Gives` is what an object says of one name: nothing, or a value that stands once.
`ByName` says so of every name of the record, and other members do not matter.

**By position.**  `ByPosition` takes the items in the order of the names; there may be fewer.

**Values.**  `IsOptional` and `IsDefaulted` are the two ways of leaving a value out.  Each reader of
the model finds what these relations say (`exists_ofJson?_iff`, `exists_ofDocument?_iff`,
`optional?_eq_some_iff`, `field?_eq_some_iff`).
-/

namespace LintConfig

namespace Record

variable {α β : Type}

/-! ## Two forms -/

/-- What an object gives to a name: nothing if it has no such member, and otherwise the value of
that member, which is not repeated. -/
inductive Gives (members : List (String × α)) (name : String) : Option α → Prop where
  | absent : name ∉ members.map Prod.fst → Gives members name none
  | once {before later : List (String × α)} {v : α} :
      members = before ++ (name, v) :: later → name ∉ before.map Prod.fst →
      name ∉ later.map Prod.fst → Gives members name (some v)

/-- The members of an object give these values to the names of a record. -/
structure ByName (names : List String) (members : List (String × α))
    (fields : String → Option α) : Prop where
  given : ∀ name ∈ names, Gives members name (fields name)
  other : ∀ name ∉ names, fields name = none

/-- The items of an array give these values to the names of a record. -/
structure ByPosition (names : List String) (items : List α) (fields : String → Option α) :
    Prop where
  length_le : items.length ≤ names.length
  given : ∀ (i : ℕ) (name : String), names[i]? = some name → fields name = items[i]?
  other : ∀ name ∉ names, fields name = none

/-- A value gives these values to the names of a record. -/
inductive IsRecord (names : List String) : Json → (String → Option Json) → Prop where
  | byName {members : List (String × Json)} {fields : String → Option Json} :
      ByName names members fields → IsRecord names (.obj members) fields
  | byPosition {items : List Json} {fields : String → Option Json} :
      ByPosition names items fields → IsRecord names (.arr items) fields

/-- The names of members are spelled; their values stay documents. -/
def NamedAs (members : List (List TextUnit × Document)) (named : List (String × Document)) : Prop :=
  List.Forall₂ (fun m n => TextUnit.Spells m.1 n.1.toList ∧ m.2 = n.2) members named

/-- A document gives these documents to the names of a record. -/
inductive IsDocumentRecord (names : List String) :
    Document → (String → Option Document) → Prop where
  | byName {members : List (List TextUnit × Document)} {named : List (String × Document)}
      {fields : String → Option Document} :
      NamedAs members named → ByName names named fields →
      IsDocumentRecord names (.obj members) fields
  | byPosition {items : List Document} {fields : String → Option Document} :
      ByPosition names items fields → IsDocumentRecord names (.arr items) fields

/-! ## Values that may be left out -/

/-- An optional value: left out, null, or of a meaning. -/
inductive IsOptional (null : α) (R : α → β → Prop) : Option α → Option β → Prop where
  | leftOut : IsOptional null R none none
  | null : IsOptional null R (some null) none
  | given {v : α} {b : β} : v ≠ null → R v b → IsOptional null R (some v) (some b)

/-- A value with a default: left out, or of a meaning. -/
inductive IsDefaulted (default : β) (R : α → β → Prop) : Option α → β → Prop where
  | leftOut : IsDefaulted default R none default
  | given {v : α} {b : β} : R v b → IsDefaulted default R (some v) b

/-! ## Reading by name -/

section ByName

variable {names : List String} {members known : List (String × α)} {name : String}
  {fields : String → Option α}

lemma lookup_append_cons {before later : List (String × α)} {v : α}
    (h : name ∉ before.map Prod.fst) :
    (before ++ (name, v) :: later).lookup name = some v := by
  rw [List.lookup_eq_some_iff]
  refine ⟨before, later, rfl, fun m hm => ?_⟩
  rw [bne_iff_ne]
  rintro rfl
  exact h (List.mem_map_of_mem hm)

lemma lookup_eq_none (h : name ∉ members.map Prod.fst) : members.lookup name = none := by
  rw [List.lookup_eq_none_iff]
  intro m hm
  rw [bne_iff_ne]
  rintro rfl
  exact h (List.mem_map_of_mem hm)

/-- What is given is found by looking up, and that the name is not repeated is counted. -/
lemma gives_iff {field : Option α} :
    Gives members name field
      ↔ members.lookup name = field ∧ (members.map Prod.fst).count name ≤ 1 := by
  constructor
  · intro h
    cases h with
    | absent hnot => exact ⟨lookup_eq_none hnot, by rw [List.count_eq_zero_of_not_mem hnot]; omega⟩
    | once heq hbefore hlater =>
        subst heq
        refine ⟨lookup_append_cons hbefore, ?_⟩
        simp [List.count_eq_zero_of_not_mem hbefore, List.count_eq_zero_of_not_mem hlater]
  · rintro ⟨hlookup, hcount⟩
    cases field with
    | none =>
        refine Gives.absent fun hmem => ?_
        obtain ⟨m, hm, rfl⟩ := List.mem_map.1 hmem
        exact absurd (List.lookup_eq_none_iff.1 hlookup m hm) (by simp)
    | some v =>
        obtain ⟨before, later, rfl, hbefore⟩ := List.lookup_eq_some_iff.1 hlookup
        have hnot : name ∉ before.map Prod.fst := by
          intro hmem
          obtain ⟨m, hm, rfl⟩ := List.mem_map.1 hmem
          exact absurd (hbefore m hm) (by simp)
        refine Gives.once rfl hnot fun hmem => ?_
        have hpos := List.count_pos_iff.2 hmem
        simp only [List.map_append, List.map_cons, List.count_append, List.count_cons_self]
          at hcount
        omega

/-- Among the members that a record knows its own names are found as before, and no others. -/
lemma lookup_filter_contains (name : String) :
    (members.filter fun m => names.contains m.1).lookup name
      = if name ∈ names then members.lookup name else none := by
  induction members with
  | nil => simp
  | cons m members ih =>
      obtain ⟨k, v⟩ := m
      by_cases hk : k ∈ names
      · rw [List.filter_cons_of_pos (by simpa using hk), List.lookup_cons, List.lookup_cons, ih]
        by_cases hname : name = k
        · subst hname
          simp [hk]
        · simp [beq_false_of_ne hname]
      · rw [List.filter_cons_of_neg (by simpa using hk), ih]
        by_cases hname : name = k
        · subst hname
          simp [hk]
        · rw [List.lookup_cons, beq_false_of_ne hname]

lemma nodup_filter_contains_iff :
    ((members.filter fun m => names.contains m.1).map Prod.fst).Nodup
      ↔ ∀ name ∈ names, (members.map Prod.fst).count name ≤ 1 := by
  have hmap : (members.filter fun m => names.contains m.1).map Prod.fst
      = (members.map Prod.fst).filter fun k => names.contains k := by
    rw [List.filter_map]
    rfl
  rw [hmap, List.nodup_iff_count_le_one]
  constructor
  · intro h name hname
    have hcount := h name
    rwa [List.count_filter (by simpa using hname)] at hcount
  · intro h name
    by_cases hname : name ∈ names
    · rw [List.count_filter (by simpa using hname)]
      exact h name hname
    · rw [List.count_eq_zero_of_not_mem]
      · omega
      · simp [hname]

/-- **The reading by name** finds the values that an object gives. -/
lemma byName?_iff :
    (∃ known, byName? names members = some known ∧ fields = fun name => known.lookup name)
      ↔ ByName names members fields := by
  rw [byName?]
  constructor
  · rintro ⟨known, hknown, rfl⟩
    split_ifs at hknown with hnodup
    obtain rfl := Option.some.inj hknown
    refine ⟨fun name hname => gives_iff.2 ⟨?_, nodup_filter_contains_iff.1 hnodup name hname⟩,
      fun name hname => ?_⟩
    · rw [lookup_filter_contains, if_pos hname]
    · rw [lookup_filter_contains, if_neg hname]
  · intro h
    have hnodup := nodup_filter_contains_iff.2 fun name hname =>
      (gives_iff.1 (h.given name hname)).2
    refine ⟨_, if_pos hnodup, funext fun name => ?_⟩
    rw [lookup_filter_contains]
    split_ifs with hname
    · exact (gives_iff.1 (h.given name hname)).1.symm
    · exact h.other name hname

end ByName

/-! ## Reading by position -/

section ByPosition

variable {names : List String} {items : List α} {fields : String → Option α}

lemma lookup_zip_of_notMem {name : String} (h : name ∉ names) :
    (names.zip items).lookup name = none := by
  refine lookup_eq_none fun hmem => h ?_
  obtain ⟨m, hm, rfl⟩ := List.mem_map.1 hmem
  exact (List.of_mem_zip hm).1

lemma lookup_zip (hnodup : names.Nodup) {i : ℕ} {name : String} (h : names[i]? = some name) :
    (names.zip items).lookup name = items[i]? := by
  induction names generalizing items i with
  | nil => simp at h
  | cons first names ih =>
      obtain ⟨hfirst, hnames⟩ := List.nodup_cons.1 hnodup
      cases items with
      | nil => simp
      | cons item items =>
          rw [List.zip_cons_cons, List.lookup_cons]
          cases i with
          | zero =>
              obtain rfl : first = name := by simpa using h
              simp
          | succ i =>
              rw [List.getElem?_cons_succ] at h
              have hne : name ≠ first := by
                rintro rfl
                exact hfirst (List.mem_of_getElem? h)
              rw [beq_false_of_ne hne, List.getElem?_cons_succ]
              exact ih hnames h

/-- **The reading by position** finds the values that an array gives. -/
lemma byPosition?_iff (hnodup : names.Nodup) :
    (∃ known, byPosition? names items = some known ∧ fields = fun name => known.lookup name)
      ↔ ByPosition names items fields := by
  rw [byPosition?]
  constructor
  · rintro ⟨known, hknown, rfl⟩
    split_ifs at hknown with hlength
    obtain rfl := Option.some.inj hknown
    exact ⟨hlength, fun i name h => lookup_zip hnodup h, fun name h => lookup_zip_of_notMem h⟩
  · intro h
    refine ⟨_, if_pos h.length_le, funext fun name => ?_⟩
    by_cases hname : name ∈ names
    · obtain ⟨i, hi⟩ := List.mem_iff_getElem?.1 hname
      rw [lookup_zip hnodup hi, h.given i name hi]
    · rw [lookup_zip_of_notMem hname, h.other name hname]

end ByPosition

/-! ## Reading records -/

section Readers

variable {names : List String}

/-- What is said of the members that a reading keeps is said of the values that they give. -/
lemma exists_lookup_iff {reading : Option (List (String × α))}
    {R P : (String → Option α) → Prop}
    (h : ∀ fields,
      (∃ known, reading = some known ∧ fields = fun name => known.lookup name) ↔ R fields) :
    (∃ known, reading = some known ∧ P fun name => known.lookup name)
      ↔ ∃ fields, R fields ∧ P fields := by
  constructor
  · rintro ⟨known, hknown, hP⟩
    exact ⟨_, (h _).1 ⟨known, hknown, rfl⟩, hP⟩
  · rintro ⟨fields, hfields, hP⟩
    obtain ⟨known, hknown, rfl⟩ := (h fields).2 hfields
    exact ⟨known, hknown, hP⟩

/-- **Records of values.** -/
lemma exists_ofJson?_iff (hnodup : names.Nodup) {v : Json}
    {P : (String → Option Json) → Prop} :
    (∃ known, ofJson? names v = some known ∧ P fun name => known.lookup name)
      ↔ ∃ fields, IsRecord names v fields ∧ P fields := by
  have hrecord : ∀ fields, (∃ known, ofJson? names v = some known
      ∧ fields = fun name => known.lookup name) ↔ IsRecord names v fields := by
    intro fields
    match v with
    | .obj members =>
        rw [ofJson?, byName?_iff]
        exact ⟨IsRecord.byName, fun h => by cases h; assumption⟩
    | .arr items =>
        rw [ofJson?, byPosition?_iff hnodup]
        exact ⟨IsRecord.byPosition, fun h => by cases h; assumption⟩
    | .null | .bool _ | .num _ | .str _ =>
        constructor
        · rintro ⟨known, hknown, -⟩
          exact nomatch hknown
        · intro h
          cases h
  exact exists_lookup_iff hrecord

lemma namedDocuments?_eq_some_iff {members : List (List TextUnit × Document)}
    {named : List (String × Document)} :
    namedDocuments? members = some named ↔ NamedAs members named := by
  induction members generalizing named with
  | nil =>
      rw [namedDocuments?, NamedAs, List.forall₂_nil_left_iff, Option.some_inj, eq_comm]
  | cons m members ih =>
      obtain ⟨us, d⟩ := m
      rw [namedDocuments?, NamedAs, List.forall₂_cons_left_iff]
      constructor
      · intro h
        split at h
        · next hk hrest =>
            obtain rfl := Option.some.inj h
            exact ⟨_, _, ⟨Document.string?_eq_some_iff.1 hk, rfl⟩, ih.1 hrest, rfl⟩
        · exact nomatch h
      · rintro ⟨⟨k, d'⟩, rest, ⟨hk, rfl⟩, hrest, rfl⟩
        rw [Document.string?_eq_some_iff.2 hk, ih.2 hrest]

/-- **Records of documents.** -/
lemma exists_ofDocument?_iff (hnodup : names.Nodup) {d : Document}
    {P : (String → Option Document) → Prop} :
    (∃ known, ofDocument? names d = some known ∧ P fun name => known.lookup name)
      ↔ ∃ fields, IsDocumentRecord names d fields ∧ P fields := by
  have hrecord : ∀ fields, (∃ known, ofDocument? names d = some known
      ∧ fields = fun name => known.lookup name) ↔ IsDocumentRecord names d fields := by
    intro fields
    match d with
    | .obj members =>
        rw [ofDocument?]
        constructor
        · rintro ⟨known, hknown, hfields⟩
          obtain ⟨named, hnamed, hknown⟩ := Option.bind_eq_some_iff.1 hknown
          exact IsDocumentRecord.byName (namedDocuments?_eq_some_iff.1 hnamed)
            (byName?_iff.1 ⟨known, hknown, hfields⟩)
        · intro h
          cases h with
          | byName hnamed hfields =>
              rw [namedDocuments?_eq_some_iff.2 hnamed, Option.bind_some]
              exact byName?_iff.2 hfields
    | .arr items =>
        rw [ofDocument?, byPosition?_iff hnodup]
        exact ⟨IsDocumentRecord.byPosition, fun h => by cases h; assumption⟩
    | .null | .bool _ | .num _ | .str _ =>
        constructor
        · rintro ⟨known, hknown, -⟩
          exact nomatch hknown
        · intro h
          cases h
  exact exists_lookup_iff hrecord

/-- **Values with a default**, by what their reader finds. -/
lemma field?_eq_some_iff {members : List (String × α)} {name : String} {default : β}
    {read : α → Option β} {R : α → β → Prop} (hR : ∀ v b, read v = some b ↔ R v b) {b : β} :
    field? members name default read = some b
      ↔ IsDefaulted default R (members.lookup name) b := by
  rw [field?]
  cases members.lookup name with
  | none => exact ⟨fun h => Option.some.inj h ▸ IsDefaulted.leftOut, fun h => by cases h; rfl⟩
  | some v =>
      exact ⟨fun h => IsDefaulted.given ((hR v b).1 h),
        fun h => by cases h with | given h => exact (hR v b).2 h⟩

/-- A reader for which null is the same as nothing, and which reads all else as another one does. -/
lemma isDefaulted_none_iff {null : α} {R : α → β → Prop} {R' : α → Option β → Prop}
    (hnull : ∀ b, R' null b ↔ b = none)
    (hgiven : ∀ v ≠ null, ∀ b, R' v b ↔ ∃ found, R v found ∧ b = some found)
    {field : Option α} {b : Option β} :
    IsDefaulted none R' field b ↔ IsOptional null R field b := by
  constructor
  · intro h
    cases h with
    | leftOut => exact IsOptional.leftOut
    | @given v _ h =>
        by_cases hv : v = null
        · subst hv
          rw [(hnull b).1 h]
          exact IsOptional.null
        · obtain ⟨found, hfound, rfl⟩ := (hgiven v hv b).1 h
          exact IsOptional.given hv hfound
  · intro h
    cases h with
    | leftOut => exact IsDefaulted.leftOut
    | null => exact IsDefaulted.given ((hnull none).2 rfl)
    | given hv hb => exact IsDefaulted.given ((hgiven _ hv _).2 ⟨_, hb, rfl⟩)

/-- **Optional values**, by what their reader finds. -/
lemma optional?_eq_some_iff {members : List (String × Json)} {name : String}
    {read : Json → Option β} {R : Json → β → Prop} (hR : ∀ v b, read v = some b ↔ R v b)
    {b : Option β} :
    optional? members name read = some b ↔ IsOptional .null R (members.lookup name) b := by
  rw [optional?, field?_eq_some_iff fun _ _ => Iff.rfl]
  refine isDefaulted_none_iff (fun b => Option.some_inj.trans eq_comm) (fun v hv b => ?_)
  split
  · exact absurd rfl hv
  · simp only [Option.map_eq_some_iff, hR, eq_comm]

end Readers

end Record

end LintConfig
