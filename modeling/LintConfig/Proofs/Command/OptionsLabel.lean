import Mathlib
import LintConfig.Command.Listing
import LintConfig.Proofs.Command.PrintedSchema
import LintConfig.Proofs.Schema.Bound
import LintConfig.Proofs.Schema.Endless

/-!
# The options that a listing promises

`list-rules` says of every rule what options it takes, and reads this off one keyword of its
canonical schema.  What a validation does with options is up to the engine.

**Any options.**  There is no canonical schema then, so nothing is refused.

**No options.**  The schema allows no items, and where a language keeps bounds, every check of
options by it that comes to an end finds something wrong, unless the keyword stands beside a
reference, which is all that counts in draft 4.  But a schema that does not compile refuses nothing,
and nor is an entry refused under the reserved identifier (`not_refused_labelled`).  A rule that
declares an empty list of schemas is safe from all but the last.

`optionsLabel_outcome` puts this together, for every engine that completes such a language.
-/

namespace LintConfig

/-! ## Labels -/

section Labels

variable {form : RuleForm}

lemma optionsLabel_eq_any_iff :
    Listing.optionsLabel form = "any" ↔ form.optionsSchema.schema? = none := by
  rw [Listing.optionsLabel]
  cases form.optionsSchema.schema? with
  | none => simp
  | some schema =>
      simp only [reduceCtorEq, iff_false]
      split
      · decide
      · decide

lemma optionsLabel_eq_none_iff :
    Listing.optionsLabel form = "none"
      ↔ ∃ members, form.optionsSchema = .canonical (.obj members)
          ∧ Json.lookup "maxItems" members = some (Json.ofNat 0) := by
  rw [Listing.optionsLabel]
  constructor
  · intro h
    cases hschema : form.optionsSchema.schema? with
    | none =>
        rw [hschema] at h
        exact absurd h (by decide)
    | some schema =>
        have hcanonical := OptionsSchema.schema?_eq_some_iff.1 hschema
        obtain ⟨members, rfl, -⟩ := OptionsSchema.acceptsOnlyArrays_of_canonical hcanonical
        rw [hschema] at h
        dsimp only at h
        split at h
        · exact ⟨members, hcanonical, ‹_›⟩
        · exact absurd h (by decide)
  · rintro ⟨members, hcanonical, hbound⟩
    have hmember : (Json.obj members).member? "maxItems" = some (.num (.integer 0)) := hbound
    simp only [hcanonical, OptionsSchema.schema?, hmember]

end Labels

/-! ## Verdicts -/

section Verdicts

variable {language : SchemaLanguage} {engine : SchemaEngine} {registry : Option Registry}
  {id : String} {entry : RuleEntry} {name : RuleName} {rule : RuleDefinition}
  {members : List (String × Json)}

/-- A used entry with options is refused if the schema compiles that allows none, and if the check
of the options comes to an end. -/
lemma exists_violations_of_bound (hengine : engine.Completes language)
    (hkeeps : language.KeepsBounds) (hid : id ≠ "__proto__") (hused : entry.isDisabled = false)
    (hresolve : resolve registry id = .ok (name, rule))
    (hcanonical : rule.form.optionsSchema = .canonical (.obj members))
    (hcompiles : (engine (.obj members)).isSome) (href : Json.lookup "$ref" members = none)
    (hbound : Json.lookup "maxItems" members = some (Json.ofNat 0)) (hoptions : entry.tail ≠ [])
    (hanswers : language.Answers (.obj members) (.arr entry.tail)) :
    ∃ violations, violations ≠ []
      ∧ plainVerdict engine registry id entry = .error (.invalidOptions id violations) := by
  obtain ⟨check, hcheck⟩ := Option.isSome_iff_exists.1 hcompiles
  obtain ⟨search, hsearch, hfound⟩ := hengine.exists_of_answers hcheck hanswers
  have hviolated : check (.arr entry.tail) ≠ [] :=
    hkeeps members search 0 entry.tail _ hsearch href hbound (List.length_pos_of_ne_nil hoptions)
      hfound
  refine ⟨(check (.arr entry.tail)).map Violation.display, mt List.map_eq_nil_iff.1 hviolated, ?_⟩
  exact (plainVerdict_error_iff_of_canonical hid hused hresolve hcanonical).2
    ⟨check, hcheck, hviolated, rfl⟩

lemma plainVerdict_of_reserved (hid : id = "__proto__") :
    plainVerdict engine registry id entry = .ok () :=
  plainVerdict_ok_iff.2 (Or.inl (Or.inl hid))

lemma isSome_positional_nil (hreads : engine.ReadsArrays) :
    (engine (OptionsSchema.positional [])).isSome :=
  (OptionsSchema.isSome_positional_iff hreads (by simp)).2 (by simp)

/-- An empty list of schemas accepts the empty list of options. -/
lemma plainVerdict_of_tail_eq_nil (hreads : engine.ReadsArrays)
    (hresolve : resolve registry id = .ok (name, rule))
    (hcanonical : rule.form.optionsSchema = .canonical (OptionsSchema.positional []))
    (hoptions : entry.tail = []) : plainVerdict engine registry id entry = .ok () := by
  refine plainVerdict_ok_iff.2
    (Or.inr ⟨name, rule, hresolve, fun schema check hschema hcheck => ?_⟩)
  obtain rfl := OptionsSchema.canonical.inj (hcanonical.symm.trans hschema)
  rw [hoptions, OptionsSchema.check_positional_eq_nil_iff hreads (by simp) hcheck]
  simp

end Verdicts

/-- **What the label of a rule promises**, to every engine that reads keywords for arrays one by one
and completes a language that keeps bounds, for an identifier that denotes the rule and in every
state in the middle of a call:

* Where the label is `any`, no entry is refused.
* Where it is `none`, the canonical schema allows no items.  If it compiles and is no reference,
  every used entry with options is called invalid, unless it stands under the reserved identifier or
  the check of its options does not come to an end; if it does not compile, no entry is refused, nor
  is one under this identifier.
* The schema of an empty list of options is labelled `none`, compiles, and accepts the entries
  without options. -/
theorem optionsLabel_outcome (language : SchemaLanguage) (engine : SchemaEngine)
    (hengine : engine.Completes language) (hkeeps : language.KeepsBounds)
    (hreads : engine.ReadsArrays) (past : List Configuration) (config : Configuration)
    (before : List (String × RuleEntry)) (id : String) (name : RuleName) (rule : RuleDefinition)
    (hkeys : Set.InjOn RuleDefinition.key (definitionsOf (past ++ [config])))
    (hresolve : resolve config.plugins id = .ok (name, rule)) :
    (Listing.optionsLabel rule.form = "any" → ∀ entry,
        ((RuleValidator.during engine past config.plugins before).checkEntry engine
          config.plugins id entry).1 = .ok ())
      ∧ (Listing.optionsLabel rule.form = "none" → ∃ members,
          rule.form.optionsSchema = .canonical (.obj members)
            ∧ Json.lookup "maxItems" members = some (Json.ofNat 0)
            ∧ ((engine (.obj members)).isSome → Json.lookup "$ref" members = none →
                id ≠ "__proto__" → ∀ entry : RuleEntry, entry.isDisabled = false →
                entry.tail ≠ [] → language.Answers (.obj members) (.arr entry.tail) →
                ∃ violations, violations ≠ []
                  ∧ ((RuleValidator.during engine past config.plugins before).checkEntry
                    engine config.plugins id entry).1 = .error (.invalidOptions id violations))
            ∧ (engine (.obj members) = none ∨ id = "__proto__" → ∀ entry,
                ((RuleValidator.during engine past config.plugins before).checkEntry engine
                  config.plugins id entry).1 = .ok ()))
      ∧ (rule.form.optionsSchema = .canonical (OptionsSchema.positional []) →
          Listing.optionsLabel rule.form = "none"
            ∧ (engine (OptionsSchema.positional [])).isSome
            ∧ (OptionsSchema.positional []).member? "$ref" = none
            ∧ ∀ entry : RuleEntry, entry.tail = [] →
              ((RuleValidator.during engine past config.plugins before).checkEntry engine
                config.plugins id entry).1 = .ok ()) := by
  simp only [checkEntry_during hkeys]
  refine ⟨fun hany entry => ?_, fun hnone => ?_, fun hcanonical => ⟨?_, ?_, rfl, ?_⟩⟩
  · exact plainVerdict_of_schema?_eq_none hresolve (optionsLabel_eq_any_iff.1 hany)
  · obtain ⟨members, hcanonical, hbound⟩ := optionsLabel_eq_none_iff.1 hnone
    refine ⟨members, hcanonical, hbound,
      fun hcompiles href hid entry hused hoptions hanswers => ?_, ?_⟩
    · exact exists_violations_of_bound hengine hkeeps hid hused hresolve hcanonical hcompiles href
        hbound hoptions hanswers
    · rintro (hrefused | hid) entry
      · refine plainVerdict_of_uncompiled hresolve fun schema hschema => ?_
        obtain rfl := OptionsSchema.canonical.inj (hcanonical.symm.trans hschema)
        exact hrefused
      · exact plainVerdict_of_reserved hid
  · exact optionsLabel_eq_none_iff.2 ⟨_, hcanonical, rfl⟩
  · exact isSome_positional_nil hreads
  · exact fun entry hoptions => plainVerdict_of_tail_eq_nil hreads hresolve hcanonical hoptions

/-- A bound as it should be. -/
def boundedRule : RuleDefinition :=
  ⟨⟨0⟩, .object { schema := some (.obj [("maxItems", Json.ofNat 0)]) }⟩

/-- The bound beside another one that cannot be read. -/
def unreadableRule : RuleDefinition :=
  ⟨⟨1⟩, .object
    { schema := some (.obj [("maxItems", Json.ofNat 0), ("minItems", .str "many")]) }⟩

/-- The bound beside a reference. -/
def circularRule : RuleDefinition :=
  ⟨⟨2⟩, .object { schema := some (.obj [("$ref", .str "#"), ("maxItems", Json.ofNat 0)]) }⟩

/-- The bound beside a conjunction of the schema with itself. -/
def endlessSchema : Json :=
  .obj [("allOf", .arr [.obj [("$ref", .str "#")]]), ("maxItems", Json.ofNat 0),
    ("type", .str "array")]

def endlessRule : RuleDefinition := ⟨⟨3⟩, .object { schema := some endlessSchema }⟩

/-- No schema for any option. -/
def bareRule : RuleDefinition := ⟨⟨4⟩, .object { schema := some (.arr []) }⟩

/-- The last of these is registered under the reserved name. -/
def labelled : Configuration where
  plugins := some ⟨[("@", ⟨⟨5⟩, none,
    ⟨[("bounded", boundedRule), ("unreadable", unreadableRule), ("circular", circularRule),
      ("endless", endlessRule), ("__proto__", bareRule)], by decide⟩⟩)], by decide⟩

lemma injOn_key_labelled : Set.InjOn RuleDefinition.key (definitionsOf ([] ++ [labelled])) := by
  have hdefinitions : ∀ rule ∈ definitionsOf ([] ++ [labelled]),
      rule = boundedRule ∨ rule = unreadableRule ∨ rule = circularRule ∨ rule = endlessRule
        ∨ rule = bareRule := by
    rintro rule ⟨config, hconfig, hrule⟩
    obtain rfl := List.mem_singleton.1 hconfig
    obtain ⟨name, hname⟩ := exists_mem_of_registered_singleton hrule
    simp only [List.mem_cons, Prod.mk.injEq, List.not_mem_nil, or_false] at hname
    rcases hname with ⟨-, h⟩ | ⟨-, h⟩ | ⟨-, h⟩ | ⟨-, h⟩ | ⟨-, h⟩ <;> simp [h]
  intro rule hrule other hother hkey
  rcases hdefinitions rule hrule with rfl | rfl | rfl | rfl | rfl <;>
    rcases hdefinitions other hother with rfl | rfl | rfl | rfl | rfl <;>
    first | rfl | exact absurd hkey (by decide)

lemma plain_boundedSchema : (Json.obj [("maxItems", Json.ofNat 0)]).Plain := by
  refine ⟨by decide, fun w hw => ?_⟩
  exact absurd hw (by simp [Catalog.subschemas, Json.members])

lemma isSome_draft04_boundedSchema :
    (SchemaEngine.draft04 (.obj [("maxItems", Json.ofNat 0)])).isSome :=
  Option.isSome_iff_exists.2 ⟨_, (draft04_eq_some_iff_of_plain plain_boundedSchema).2
    ⟨by decide +kernel, _, rfl, rfl⟩⟩

/-- A rule that is labelled `none` and refuses an option. -/
theorem optionsLabel_outcome_labelled :
    SchemaEngine.draft04.Completes .draft04
      ∧ SchemaLanguage.draft04.KeepsBounds
      ∧ SchemaEngine.draft04.ReadsArrays
      ∧ Set.InjOn RuleDefinition.key (definitionsOf ([] ++ [labelled]))
      ∧ resolve labelled.plugins "bounded" = .ok (⟨"@", "bounded"⟩, boundedRule)
      ∧ Listing.optionsLabel boundedRule.form = "none"
      ∧ ∃ violations, violations ≠ []
        ∧ ((RuleValidator.during .draft04 [] labelled.plugins []).checkEntry .draft04
          labelled.plugins "bounded" [.num (.integer 2), .null]).1
          = .error (.invalidOptions "bounded" violations) := by
  have hengine : SchemaEngine.draft04.Completes .draft04 := SchemaLanguage.completes_engine .draft04
  have hresolve : resolve labelled.plugins "bounded" = .ok (⟨"@", "bounded"⟩, boundedRule) := rfl
  have hlabel : Listing.optionsLabel boundedRule.form = "none" := by decide +kernel
  obtain ⟨-, hnone, -⟩ := optionsLabel_outcome .draft04 .draft04 hengine
    SchemaLanguage.keepsBounds_draft04 SchemaEngine.readsArrays_draft04 [] labelled [] "bounded" _ _
    injOn_key_labelled hresolve
  obtain ⟨members, hcanonical, -, hrefuses, -⟩ := hnone hlabel
  obtain rfl := Json.obj.inj (OptionsSchema.canonical.inj hcanonical)
  exact ⟨hengine, SchemaLanguage.keepsBounds_draft04, SchemaEngine.readsArrays_draft04,
    injOn_key_labelled, hresolve, hlabel,
    hrefuses isSome_draft04_boundedSchema rfl (by decide) _ (by decide +kernel) (by simp)
      (SchemaLanguage.answers_draft04_of_plain plain_boundedSchema _)⟩

/-- The check of an option by this schema asks for itself. -/
lemma not_answers_endlessSchema :
    ¬ SchemaLanguage.draft04.Answers endlessSchema (.arr [.null]) := by
  intro hanswers
  have hendless : (SchemaLanguage.draft04 endlessSchema).any
      (fun search => (search (.arr [.null])).isNone) = true := by decide +kernel
  cases hsearch : SchemaLanguage.draft04 endlessSchema with
  | none =>
      rw [hsearch] at hendless
      exact nomatch hendless
  | some search =>
      have hsome := hanswers search hsearch
      rw [hsearch, Option.any_some, Option.isNone_iff_eq_none] at hendless
      rw [hendless] at hsome
      exact nomatch hsome

/-- **Others that are labelled so let the same option pass**: one whose schema does not compile, one
whose schema is a reference, and one under the reserved identifier.  For yet another one nothing is
found out, since the check does not come to an end. -/
theorem not_refused_labelled :
    (resolve labelled.plugins "unreadable" = .ok (⟨"@", "unreadable"⟩, unreadableRule)
        ∧ Listing.optionsLabel unreadableRule.form = "none"
        ∧ (({} : RuleValidator).checkEntry .draft04 labelled.plugins "unreadable"
            [.num (.integer 2), .null]).1 = .ok ())
      ∧ (resolve labelled.plugins "circular" = .ok (⟨"@", "circular"⟩, circularRule)
        ∧ Listing.optionsLabel circularRule.form = "none"
        ∧ (({} : RuleValidator).checkEntry .draft04 labelled.plugins "circular"
            [.num (.integer 2), .null]).1 = .ok ())
      ∧ (resolve labelled.plugins "__proto__" = .ok (⟨"@", "__proto__"⟩, bareRule)
        ∧ Listing.optionsLabel bareRule.form = "none"
        ∧ (({} : RuleValidator).checkEntry .draft04 labelled.plugins "__proto__"
            [.num (.integer 2), .null]).1 = .ok ())
      ∧ resolve labelled.plugins "endless" = .ok (⟨"@", "endless"⟩, endlessRule)
        ∧ Listing.optionsLabel endlessRule.form = "none"
        ∧ endlessRule.form.optionsSchema = .canonical endlessSchema
        ∧ ¬ SchemaLanguage.draft04.Answers endlessSchema (.arr [.null]) := by
  have hunreadable : (({} : RuleValidator).checkEntry .draft04 labelled.plugins "unreadable"
      [.num (.integer 2), .null]).1 = .ok () := by decide +kernel
  have hcircular : (({} : RuleValidator).checkEntry .draft04 labelled.plugins "circular"
      [.num (.integer 2), .null]).1 = .ok () := by decide +kernel
  exact ⟨⟨rfl, by decide +kernel, hunreadable⟩, ⟨rfl, by decide +kernel, hcircular⟩,
    ⟨rfl, by decide +kernel, checkEntry_of_reserved rfl⟩,
    rfl, by decide +kernel, rfl, not_answers_endlessSchema⟩

end LintConfig
