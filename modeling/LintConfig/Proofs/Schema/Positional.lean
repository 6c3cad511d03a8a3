import Mathlib
import LintConfig.Proofs.Configuration.Knowledge
import LintConfig.Proofs.Schema.Arrays

/-!
# Schemas for options one by one

A rule may declare one schema for each option, and `OptionsSchema.positional` makes one schema for
the list of options of them.

**Keywords.**  It is a schema of keywords for arrays (`positional_eq_object`): the list of the
schemas, between bounds.  An empty list has no place among the keywords, so there are two cases.

**Engines.**  What an engine makes of such keywords is known of every engine that reads them one by
one (`isSome_positional_iff`, `check_positional_eq_nil_iff`).

**Options.**  `positional_options` puts both together, through the compiler with its cache.
-/

namespace LintConfig

namespace OptionsSchema

open ArrayKeyword (Fits object)

section Positional

variable {engine : SchemaEngine} {items : List Json}

/-- The keywords of the schema for options. -/
def positionalKeywords (items : List Json) : List ArrayKeyword :=
  (if items = [] then [] else [.items items]) ++ [.maxItems items.length, .minItems 0, .type]

lemma positional_eq_object (items : List Json) :
    positional items = object (positionalKeywords items) := by
  cases items with
  | nil | cons item rest => rfl

lemma forall_mem_positionalKeywords_iff {p : ArrayKeyword → Prop} :
    (∀ k ∈ positionalKeywords items, p k)
      ↔ (items ≠ [] → p (.items items)) ∧ p (.maxItems items.length) ∧ p (.minItems 0)
        ∧ p .type := by
  rw [positionalKeywords]
  split_ifs with hitems
  · simp [hitems]
  · simp [hitems]

lemma fits_positionalKeywords (h : ∀ item ∈ items, item.Plain) :
    Fits (positionalKeywords items) where
  nodup := by
    rw [positionalKeywords]
    split_ifs <;> simp [ArrayKeyword.name]
  plain := by
    rw [forall_mem_positionalKeywords_iff]
    refine ⟨fun _ => h, ?_, ?_, ?_⟩
    -- there are no schemas in the bounds
    all_goals exact fun schema hschema => absurd hschema List.not_mem_nil

/-- The schema for options compiles if the schemas for each of them do. -/
lemma isSome_positional_iff (hengine : engine.ReadsArrays) (h : ∀ item ∈ items, item.Plain) :
    (engine (positional items)).isSome ↔ ∀ item ∈ items, (engine item).isSome := by
  rw [positional_eq_object, hengine.isSome_iff _ (fits_positionalKeywords h),
    forall_mem_positionalKeywords_iff]
  constructor
  · rintro ⟨hitems, -⟩ item hitem
    exact (hitems (List.ne_nil_of_mem hitem)).2 item hitem
  · exact fun hall => ⟨fun hitems => ⟨hitems, hall⟩, trivial, trivial, trivial⟩

/-- What it compiles to accepts the lists that are not too long, each of whose options is accepted
by what the schema at its position compiles to. -/
lemma check_positional_eq_nil_iff (hengine : engine.ReadsArrays) (h : ∀ item ∈ items, item.Plain)
    {check : SchemaCheck} (hcheck : engine (positional items) = some check)
    {options : List Json} :
    check (.arr options) = []
      ↔ options.length ≤ items.length ∧
        ∀ (i : ℕ) option, options[i]? = some option → ∃ item itemCheck,
          items[i]? = some item ∧ engine item = some itemCheck ∧ itemCheck option = [] := by
  have hcompile : ∀ item ∈ items, (engine item).isSome :=
    (isSome_positional_iff hengine h).1 (Option.isSome_of_eq_some hcheck)
  rw [positional_eq_object] at hcheck
  rw [hengine.accepts_iff _ check (fits_positionalKeywords h) hcheck,
    forall_mem_positionalKeywords_iff]
  constructor
  · rintro ⟨hitems, hlength, -⟩
    have hlength : options.length ≤ items.length := hlength options rfl
    refine ⟨hlength, fun i option hoption => ?_⟩
    have hi : i < items.length := lt_of_lt_of_le (List.getElem?_eq_some_iff.1 hoption).1 hlength
    obtain ⟨itemCheck, hitemCheck⟩ :=
      Option.isSome_iff_exists.1 (hcompile items[i] (List.getElem_mem hi))
    have hitem : items[i]? = some items[i] := List.getElem?_eq_getElem hi
    exact ⟨items[i], itemCheck, hitem, hitemCheck,
      hitems (List.ne_nil_of_length_pos (Nat.zero_lt_of_lt hi)) i option _ itemCheck hoption hitem
        hitemCheck⟩
  · rintro ⟨hlength, hall⟩
    refine ⟨fun _ i option item itemCheck hoption hitem hitemCheck => ?_, ?_, ?_, rfl⟩
    · obtain ⟨item', itemCheck', hitem', hitemCheck', haccepts⟩ := hall i option hoption
      obtain rfl := Option.some.inj (hitem.symm.trans hitem')
      obtain rfl := Option.some.inj (hitemCheck.symm.trans hitemCheck')
      exact haccepts
    · rintro _ ⟨rfl⟩
      exact hlength
    · exact fun _ _ => Nat.zero_le _

end Positional

end OptionsSchema

/-- **Positional schemas mean what they declare**, to every engine that reads keywords for arrays
one by one.  For a rule that declares one schema for each option, none of which uses references,
identifiers or drafts of its own, and after any use of the compiler:

* the schema for all options compiles exactly if the schema for each of them does;
* then the validator reports nothing exactly if there are no more options than schemas and each
  option is accepted by the schema at its position, compiled on its own;
* otherwise the validator reports nothing at all. -/
theorem positional_options (engine : SchemaEngine) (hengine : engine.ReadsArrays) (form : RuleForm)
    (items : List Json) (hdeclared : OptionsSchema.declared? form = some (.arr items))
    (hplain : ∀ item ∈ items, item.Plain) (operations : List SchemaCompiler.Operation) :
    ∃ schema validator, form.optionsSchema = .canonical schema
      ∧ (RuleValidator.prepare engine (SchemaCompiler.after engine operations) form).1
        = some validator
      ∧ ((engine schema).isSome ↔ ∀ item ∈ items, (engine item).isSome)
      ∧ ((∀ item ∈ items, (engine item).isSome) →
          ∀ options, validator.validate (.arr options) = [] ↔ options.length ≤ items.length ∧
            ∀ (i : Nat) option, options[i]? = some option → ∃ item check,
              items[i]? = some item ∧ engine item = some check ∧ check option = [])
      ∧ ((∃ item ∈ items, engine item = none) →
          ∀ options, validator.validate (.arr options) = []) := by
  have hcanonical : form.optionsSchema = .canonical (OptionsSchema.positional items) := by
    rw [RuleForm.optionsSchema, hdeclared]
    rfl
  have hcompiles := OptionsSchema.isSome_positional_iff hengine hplain
  refine ⟨_, .ofOutcome (engine (OptionsSchema.positional items)), hcanonical, ?_, hcompiles,
    fun hall options => ?_, ?_⟩
  · rw [prepare_fst (SchemaCompiler.mirrors_after operations), plainValidator, hcanonical]
    rfl
  · obtain ⟨check, hcheck⟩ := Option.isSome_iff_exists.1 (hcompiles.2 hall)
    rw [hcheck, ← OptionsSchema.check_positional_eq_nil_iff hengine hplain hcheck]
    exact List.map_eq_nil_iff
  · rintro ⟨item, hitem, hnone⟩ options
    have hrefused : engine (OptionsSchema.positional items) = none := by
      rw [← Option.not_isSome_iff_eq_none, hcompiles]
      intro hall
      have hsome := hall item hitem
      rw [hnone] at hsome
      cases hsome
    rw [hrefused]
    rfl

/-- A choice of two words, and an object with a property that is named like a keyword. -/
def wordAndRecord : List Json :=
  [.obj [("enum", .arr ["always", "never"])],
    .obj [("properties", .obj [("id", .obj [("type", "string")])]), ("type", "object")]]

lemma plain_wordAndRecord : ∀ item ∈ wordAndRecord, item.Plain := by
  have hstring : (Json.obj [("type", "string")]).Plain := by
    refine ⟨by decide, fun w hw => ?_⟩
    exact absurd hw (by simp [Catalog.subschemas, Json.members])
  intro item hitem
  simp only [wordAndRecord, List.mem_cons, List.not_mem_nil, or_false] at hitem
  rcases hitem with rfl | rfl
  · refine ⟨by decide, fun w hw => ?_⟩
    exact absurd hw (by simp [Catalog.subschemas, Json.members])
  · refine ⟨by decide, fun w hw => ?_⟩
    have hw' : w = .obj [("type", "string")] := by
      simpa [Catalog.subschemas, Json.members] using hw
    rw [hw']
    exact hstring

/-- Both schemas compile, so a third option is one too many. -/
theorem positional_options_wordAndRecord :
    SchemaEngine.draft04.ReadsArrays
      ∧ (∀ item ∈ wordAndRecord, item.Plain)
      ∧ (∀ item ∈ wordAndRecord, (SchemaEngine.draft04 item).isSome)
      ∧ ∃ validator, (RuleValidator.prepare .draft04 {}
          (.object { schema := some (.arr wordAndRecord) })).1 = some validator
        ∧ validator.validate (.arr ["always", .obj [], .null]) ≠ [] := by
  have hcompile : ∀ item ∈ wordAndRecord, (SchemaEngine.draft04 item).isSome := by
    intro item hitem
    have hplain := plain_wordAndRecord item hitem
    simp only [wordAndRecord, List.mem_cons, List.not_mem_nil, or_false] at hitem
    rw [Option.isSome_iff_exists]
    rcases hitem with rfl | rfl
    · exact ⟨_, (draft04_eq_some_iff_of_plain hplain).2 ⟨by decide, _, rfl, rfl⟩⟩
    · exact ⟨_, (draft04_eq_some_iff_of_plain hplain).2 ⟨by decide, _, rfl, rfl⟩⟩
  obtain ⟨schema, validator, -, hvalidator, -, haccepts, -⟩ :=
    positional_options .draft04 SchemaEngine.readsArrays_draft04
      (.object { schema := some (.arr wordAndRecord) }) wordAndRecord rfl plain_wordAndRecord []
  refine ⟨SchemaEngine.readsArrays_draft04, plain_wordAndRecord, hcompile, validator, hvalidator,
    fun hnone => ?_⟩
  exact absurd ((haccepts hcompile _).1 hnone).1 (by decide)

end LintConfig
