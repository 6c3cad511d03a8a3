import Mathlib
import LintConfig.Proofs.Schema.Check
import LintConfig.Proofs.Schema.Language
import LintConfig.Proofs.Schema.Plain

/-!
# Keywords for arrays

Four keywords say what a schema asks of an array: `type`, `items`, `minItems` and `maxItems`.  An
engine that `ReadsArrays` treats objects of these keywords keyword by keyword: they compile if each
keyword does (`ArrayKeyword.Compiles`), and a value is accepted if each keyword admits it
(`ArrayKeyword.Admits`).

The engine for draft 4 is such an engine (`readsArrays_draft04`).  There each keyword is read by
itself into one constraint (`ofJson?_object`), and a conjunction of constraints finds nothing if
none of them does.
-/

namespace LintConfig

/-- A keyword for arrays, with its value. -/
inductive ArrayKeyword where
  | type
  | items (schemas : List Json)
  | minItems (least : ℕ)
  | maxItems (most : ℕ)

namespace ArrayKeyword

/-- The name of a keyword. -/
def name : ArrayKeyword → String
  | type => "type"
  | items _ => "items"
  | minItems _ => "minItems"
  | maxItems _ => "maxItems"

/-- The value of a keyword. -/
def value : ArrayKeyword → Json
  | type => .str "array"
  | items schemas => .arr schemas
  | minItems n | maxItems n => Json.ofNat n

/-- The schemas in a keyword. -/
def schemas : ArrayKeyword → List Json
  | items schemas => schemas
  | type | minItems _ | maxItems _ => []

/-- The schema of some keywords. -/
def object (keywords : List ArrayKeyword) : Json := .obj (keywords.map fun k => (k.name, k.value))

/-- Keywords that an object can have, with plain schemas in them. -/
structure Fits (keywords : List ArrayKeyword) : Prop where
  nodup : (keywords.map name).Nodup
  plain : ∀ k ∈ keywords, ∀ schema ∈ k.schemas, schema.Plain

/-- Whether there is nothing in a keyword that keeps a schema from compiling: a list of schemas must
not be empty, and each of them has to compile. -/
def Compiles (engine : SchemaEngine) : ArrayKeyword → Prop
  | items schemas => schemas ≠ [] ∧ ∀ schema ∈ schemas, (engine schema).isSome
  | type | minItems _ | maxItems _ => True

/-- Whether a value is as a keyword asks for. -/
def Admits (engine : SchemaEngine) (v : Json) : ArrayKeyword → Prop
  | type => v.isArray = true
  | items schemas => ∀ (i : ℕ) w schema check, v.items[i]? = some w → schemas[i]? = some schema →
      engine schema = some check → check w = []
  | minItems least => ∀ options, v = .arr options → least ≤ options.length
  | maxItems most => ∀ options, v = .arr options → options.length ≤ most

end ArrayKeyword

/-- An engine that reads keywords for arrays one by one. -/
structure SchemaEngine.ReadsArrays (engine : SchemaEngine) : Prop where
  isSome_iff : ∀ keywords, ArrayKeyword.Fits keywords →
    ((engine (ArrayKeyword.object keywords)).isSome ↔ ∀ k ∈ keywords, k.Compiles engine)
  accepts_iff : ∀ keywords check, ArrayKeyword.Fits keywords →
    engine (ArrayKeyword.object keywords) = some check →
    ∀ v, check v = [] ↔ ∀ k ∈ keywords, k.Admits engine v

namespace Schema

open CompiledSchema (plainSetting)

lemma bound?_ofNat (d : Draft) (n : ℕ) : Keyword.bound? d (Json.ofNat n) = some n := by
  simp [Keyword.bound?, Json.ofNat, Json.number?, Json.isNatural, Number.value]

lemma partOfMember?_maxItems {s : Setting} (hs : s.draft = .draft04)
    (siblings : List (String × Json)) (n : ℕ) :
    partOfMember? s siblings "maxItems" (Json.ofNat n) = some (.constraint (.atMost .items n)) := by
  obtain ⟨draft, vocabularies, home, outermost⟩ := s
  obtain rfl : draft = .draft04 := hs
  show ((((Keyword.bound? .draft04 (Json.ofNat n)).map fun n => some (atMost .items n)).map
    fun found => (found.map Part.constraint).getD .silent) = _)
  rw [bound?_ofNat]
  rfl

lemma partOfMember?_minItems (siblings : List (String × Json)) (n : ℕ) :
    partOfMember? plainSetting siblings "minItems" (Json.ofNat n)
      = some (.constraint (.atLeast .items n)) := by
  show ((((Keyword.bound? .draft04 (Json.ofNat n)).map fun n => some (atLeast .items n)).map
    fun found => (found.map Part.constraint).getD .silent) = _)
  rw [bound?_ofNat]
  rfl

lemma listOfItems?_of_plain {items : List Json} (h : ∀ item ∈ items, item.Plain) :
    listOfItems? plainSetting items = items.mapM (ofJson? plainSetting) := by
  rw [listOfItems?_eq_mapM]
  induction items with
  | nil => rfl
  | cons item rest ih =>
      obtain ⟨hfirst, hrest⟩ := List.forall_mem_cons.1 h
      rw [List.mapM_cons, List.mapM_cons, ih hrest, hfirst.enter?_eq rfl]
      rfl

/-- An object without a reference is read member by member. -/
lemma ofJson?_obj {s : Setting} (hs : s.draft = .draft04) {members : List (String × Json)}
    (href : Json.lookup "$ref" members = none) :
    ofJson? s (.obj members) = (partsOfMembers? s members members).map assemble := by
  have hsole : soleReference? s members = none := by
    simp [soleReference?, hs, Draft.hasVocabularies, href]
  rw [ofJson?, hsole]

lemma assemble_constraints (schemas : List Schema) :
    assemble (schemas.map Part.constraint) = all schemas := by
  rw [assemble, List.map_map]
  exact congrArg all (List.map_id schemas)

lemma areSchemas_iff {items : List Json} :
    Json.areSchemas items = true ↔ ∀ item ∈ items, item.isSchema = true := by
  induction items with
  | nil => simp [Json.areSchemas]
  | cons item rest ih => rw [Json.areSchemas, Bool.and_eq_true, ih, List.forall_mem_cons]

end Schema

namespace ArrayKeyword

open CompiledSchema (plainSetting noTarget)

section Reading

variable {keywords : List ArrayKeyword} {k : ArrayKeyword}

lemma lookup_eq_none {keyword : String} (h : keyword ∉ ["type", "items", "minItems", "maxItems"]) :
    (object keywords).member? keyword = none := by
  have hname : ∀ k : ArrayKeyword, k.name ≠ keyword := by
    rintro k rfl
    cases k <;> exact h (by simp [name])
  rw [object, Json.member?]
  induction keywords with
  | nil => rfl
  | cons k rest ih => rw [List.map_cons, Json.lookup, if_neg (hname k), ih]

lemma subschemas_object (keywords : List ArrayKeyword) :
    Catalog.subschemas (object keywords) = keywords.flatMap schemas := by
  rw [Catalog.subschemas, object, Json.members, List.flatMap_map]
  congr 1
  funext k
  cases k <;> rfl

/-- The schema of keywords that fit is plain. -/
lemma plain_object (h : Fits keywords) : (object keywords).Plain := by
  refine ⟨fun keyword hkeyword => lookup_eq_none ?_, fun w hw => ?_⟩
  · simp only [linkKeywords, List.mem_cons, List.not_mem_nil, or_false] at hkeyword
    rcases hkeyword with rfl | rfl | rfl <;> decide
  · rw [subschemas_object] at hw
    obtain ⟨k, hk, hschema⟩ := List.mem_flatMap.1 hw
    exact h.plain k hk w hschema

/-- Whether a keyword is one of a schema. -/
def IsKeyword : ArrayKeyword → Prop
  | items schemas => schemas ≠ [] ∧ ∀ schema ∈ schemas, schema.isSchema = true
  | type | minItems _ | maxItems _ => True

/-- None of the keywords looks at its siblings. -/
lemma areKeywords_cons_iff (k : ArrayKeyword) (siblings rest : List (String × Json)) :
    Json.areKeywords siblings ((k.name, k.value) :: rest) = true
      ↔ k.IsKeyword ∧ Json.areKeywords siblings rest = true := by
  have harray : (TypeName.ofName? "array").isSome = true := by decide
  cases k with
  | type => simp [name, value, Json.areKeywords, Json.mayHold, Json.isTypes, harray, IsKeyword]
  | items schemas =>
      rw [IsKeyword, ← Schema.areSchemas_iff]
      simp [name, value, Json.areKeywords, Json.isSchema, Json.isSchemaArray]
  | minItems n | maxItems n =>
      simp [name, value, Json.areKeywords, Json.mayHold, Json.ofNat, Json.isNatural, IsKeyword]

lemma isSchema_object_iff : (object keywords).isSchema = true ↔ ∀ k ∈ keywords, k.IsKeyword := by
  have hkeywords : ∀ siblings, Json.areKeywords siblings (keywords.map fun k => (k.name, k.value))
      = true ↔ ∀ k ∈ keywords, k.IsKeyword := by
    intro siblings
    induction keywords with
    | nil => simp [Json.areKeywords]
    | cons k rest ih =>
        rw [List.map_cons, areKeywords_cons_iff, List.forall_mem_cons]
        exact and_congr_right' ih
  exact hkeywords _

/-- What a keyword is read into. -/
def read? : ArrayKeyword → Option Schema
  | type => some (.types .held [.array])
  | items schemas => (schemas.mapM (Schema.ofJson? plainSetting)).map .firstItems
  | minItems least => some (.atLeast .items least)
  | maxItems most => some (.atMost .items most)

lemma partOfMember?_eq (h : ∀ schema ∈ k.schemas, schema.Plain)
    (siblings : List (String × Json)) :
    Schema.partOfMember? plainSetting siblings k.name k.value
      = k.read?.map Schema.Part.constraint := by
  cases k with
  | type => rfl
  | items schemas =>
      have hitems : Schema.listOfItems? plainSetting schemas
          = schemas.mapM (Schema.ofJson? plainSetting) := Schema.listOfItems?_of_plain h
      show (Schema.listOfItems? plainSetting schemas).map
        (fun l => Schema.Part.constraint (.firstItems l)) = _
      rw [hitems, read?, Option.map_map]
      rfl
  | minItems least => exact Schema.partOfMember?_minItems siblings least
  | maxItems most => exact Schema.partOfMember?_maxItems rfl siblings most

lemma partsOfMembers?_eq (h : ∀ k ∈ keywords, ∀ schema ∈ k.schemas, schema.Plain)
    (siblings : List (String × Json)) :
    Schema.partsOfMembers? plainSetting siblings (keywords.map fun k => (k.name, k.value))
      = (keywords.mapM read?).map (List.map Schema.Part.constraint) := by
  induction keywords with
  | nil => rfl
  | cons k rest ih =>
      obtain ⟨hfirst, hrest⟩ := List.forall_mem_cons.1 h
      rw [List.map_cons, Schema.partsOfMembers?_cons, partOfMember?_eq hfirst, ih hrest,
        List.mapM_cons]
      cases k.read? with
      | none => rfl
      | some schema =>
          cases rest.mapM read? with
          | none => rfl
          | some schemas => rfl

/-- **The schema of some keywords is read into the conjunction of what these are read into.** -/
lemma ofJson?_object (h : Fits keywords) :
    Schema.ofJson? plainSetting (object keywords) = (keywords.mapM read?).map .all := by
  rw [object, Schema.ofJson?_obj rfl (lookup_eq_none (by decide)), partsOfMembers?_eq h.plain,
    Option.map_map]
  congr 1
  funext schemas
  exact Schema.assemble_constraints schemas

end Reading

/-! ## The engine for draft 4 -/

section Draft04

variable {keywords : List ArrayKeyword} {k : ArrayKeyword}

lemma compiles_draft04_iff (h : ∀ schema ∈ k.schemas, schema.Plain) :
    k.Compiles .draft04 ↔ k.IsKeyword ∧ k.read?.isSome := by
  cases k with
  | type | minItems | maxItems => simp [Compiles, IsKeyword, read?]
  | items schemas =>
      have hcompile : (∀ schema ∈ schemas, (SchemaEngine.draft04 schema).isSome)
          ↔ (∀ schema ∈ schemas, schema.isSchema = true)
            ∧ ∀ schema ∈ schemas, (Schema.ofJson? plainSetting schema).isSome := by
        rw [← forall₂_and]
        exact forall₂_congr fun schema hschema => isSome_draft04_iff_of_plain (h schema hschema)
      rw [Compiles, IsKeyword, read?, Option.isSome_map, isSome_mapM_iff, hcompile, and_assoc]

/-- Schemas one by one admit what the engine admits by each of them. -/
lemma check_firstItems_eq_some_nil_iff {items : List Json} {schemas : List Schema}
    (h : ∀ item ∈ items, item.Plain) (hschemas : ∀ item ∈ items, item.isSchema = true)
    (hread : items.mapM (Schema.ofJson? plainSetting) = some schemas) (v : Json) :
    (Schema.firstItems schemas).check noTarget v .report = some []
      ↔ (ArrayKeyword.items items).Admits .draft04 v := by
  rw [Schema.check, Schema.inTurn_checksOfFirst_eq_some_nil_iff]
  constructor
  · intro hall i w item check hw hitem hcheck
    have hmem : item ∈ items := List.mem_of_getElem? hitem
    obtain ⟨-, schema, hschema, rfl⟩ := (draft04_eq_some_iff_of_plain (h item hmem)).1 hcheck
    refine SchemaLanguage.getD_endlessReport_eq_nil_iff.2 (hall i schema w ?_ hw)
    rw [getElem?_mapM hread, hitem, Option.bind_some, hschema]
  · intro hall i schema w hschema hw
    rw [getElem?_mapM hread] at hschema
    obtain ⟨item, hitem, hschema⟩ := Option.bind_eq_some_iff.1 hschema
    have hmem : item ∈ items := List.mem_of_getElem? hitem
    exact SchemaLanguage.getD_endlessReport_eq_nil_iff.1 (hall i w item _ hw hitem
      ((draft04_eq_some_iff_of_plain (h item hmem)).2 ⟨hschemas item hmem, schema, hschema, rfl⟩))

/-- **Each keyword is read into what asks for what it should.** -/
lemma check_eq_some_nil_iff (h : ∀ schema ∈ k.schemas, schema.Plain) (hkeyword : k.IsKeyword)
    {schema : Schema} (hread : k.read? = some schema) (v : Json) :
    schema.check noTarget v .report = some [] ↔ k.Admits .draft04 v := by
  cases k with
  | type =>
      obtain rfl := Option.some.inj hread
      rw [Schema.check, Check.finding_eq_some_nil_iff, Schema.report_eq_nil_iff, Admits]
      cases v <;> simp [TypeName.admits, Json.isArray]
  | items items =>
      obtain ⟨schemas, hschemas, rfl⟩ := Option.map_eq_some_iff.1 hread
      exact check_firstItems_eq_some_nil_iff h hkeyword.2 hschemas v
  | minItems least =>
      obtain rfl := Option.some.inj hread
      rw [Schema.check, Admits]
      cases v <;>
        simp [Measure.count?, Check.finding_eq_some_nil_iff, Schema.report_eq_nil_iff]
  | maxItems most =>
      obtain rfl := Option.some.inj hread
      rw [Schema.check, Admits]
      cases v <;>
        simp [Measure.count?, Check.finding_eq_some_nil_iff, Schema.report_eq_nil_iff]

end Draft04

end ArrayKeyword

/-- **The engine for draft 4 reads keywords for arrays one by one.** -/
theorem SchemaEngine.readsArrays_draft04 : SchemaEngine.draft04.ReadsArrays where
  isSome_iff := by
    intro keywords hfits
    rw [isSome_draft04_iff_of_plain (ArrayKeyword.plain_object hfits),
      ArrayKeyword.isSchema_object_iff, ArrayKeyword.ofJson?_object hfits, Option.isSome_map,
      isSome_mapM_iff, ← forall₂_and]
    exact forall₂_congr fun k hk => (ArrayKeyword.compiles_draft04_iff (hfits.plain k hk)).symm
  accepts_iff := by
    intro keywords check hfits hcheck v
    obtain ⟨hschema, schema, hread, rfl⟩ :=
      (draft04_eq_some_iff_of_plain (ArrayKeyword.plain_object hfits)).1 hcheck
    rw [ArrayKeyword.ofJson?_object hfits] at hread
    obtain ⟨schemas, hschemas, rfl⟩ := Option.map_eq_some_iff.1 hread
    have hadmits : ∀ k ∈ keywords, ∀ schema, k.read? = some schema →
        (schema.check CompiledSchema.noTarget v .report = some [] ↔ k.Admits .draft04 v) :=
      fun k hk schema hread => ArrayKeyword.check_eq_some_nil_iff (hfits.plain k hk)
        (ArrayKeyword.isSchema_object_iff.1 hschema k hk) hread v
    rw [SchemaLanguage.getD_endlessReport_eq_nil_iff, Schema.check_all_eq_some_nil_iff]
    constructor
    · intro hall k hk
      obtain ⟨schema, hread⟩ := Option.isSome_iff_exists.1
        (isSome_mapM_iff.1 (Option.isSome_of_eq_some hschemas) k hk)
      exact (hadmits k hk schema hread).1 (hall schema (mem_of_mem_mapM hschemas hk hread))
    · intro hall schema hmem
      obtain ⟨k, hk, hread⟩ := exists_of_mem_mapM hschemas hmem
      exact (hadmits k hk schema hread).2 (hall k hk)

end LintConfig
