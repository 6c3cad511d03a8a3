import Mathlib
import LintConfig.Proofs.Command.PrintedSchema

/-!
# Schemas for the whole list of options

A schema that is declared for the whole list of options can only be meant for arrays.  Where its
type says anything else, two mechanisms keep it from users, and neither would do alone.

**The guard.**  `OptionsSchema.acceptsOnlyArrays` turns types down that admit something else, but it
lets pass what is no type at all, an empty list of types and one that repeats itself.

**The engine.**  None of these is a type in a schema of draft 4 (`eq_of_namesArray_of_isTypes`), so
an engine that compiles nothing but such schemas does not compile them
(`type_eq_of_acceptsOnlyArrays`).

**The outcome.**  A schema that gets past both has the type `"array"` or `["array"]`, so the others
refuse nothing and are never cached: `wholeSchema_outcome`.
-/

namespace LintConfig

/-- An engine that compiles nothing but schemas of draft 4. -/
def SchemaEngine.IsStrict (engine : SchemaEngine) : Prop :=
  ∀ schema : Json, schema.isSchema = false → engine schema = none

lemma SchemaEngine.isStrict_draft04 : SchemaEngine.draft04.IsStrict := by
  intro schema h
  rw [SchemaEngine.draft04, SchemaLanguage.engine, SchemaLanguage.draft04, CompiledSchema.ofJson?,
    h]
  rfl

/-! ## Types -/

section Types

variable {members siblings : List (String × Json)} {names : List Json} {v : Json}

/-- The type among the members of a schema of draft 4 is one. -/
lemma isTypes_of_areKeywords (h : Json.areKeywords siblings members = true)
    (hv : Json.lookup "type" members = some v) : v.isTypes = true := by
  induction members with
  | nil => exact nomatch hv
  | cons member rest ih =>
      obtain ⟨keyword, w⟩ := member
      unfold Json.areKeywords at h
      rw [Bool.and_eq_true] at h
      rw [Json.lookup] at hv
      split_ifs at hv with hkeyword
      · obtain rfl := Option.some.inj hv
        subst hkeyword
        exact h.1
      · exact ih h.2 hv

/-- A list of types that names nothing but arrays names them once. -/
lemma eq_of_namesArray_of_isTypes (hnames : names.all OptionsSchema.namesArray = true)
    (htypes : Json.isTypes (.arr names) = true) : names = [.str "array"] := by
  have heach : ∀ name ∈ names, name = .str "array" := by
    intro name hname
    have harray := List.all_eq_true.1 hnames name hname
    match name with
    | .str s => rw [of_decide_eq_true harray]
    | .null | .bool _ | .num _ | .arr _ | .obj _ => exact nomatch harray
  match names with
  | [] => exact nomatch htypes
  | [name] => rw [heach name (by simp)]
  | name :: name' :: rest =>
      -- a list of types does not repeat itself
      rw [heach name (by simp), heach name' (by simp), Json.isTypes] at htypes
      have harray : (Json.string? (.str "array")).bind TypeName.ofName? = some .array := rfl
      simp only [List.mapM_cons, harray] at htypes
      cases hrest : rest.mapM fun v => (Json.string? v).bind TypeName.ofName? with
      | none => simp [hrest] at htypes
      | some types => simp [hrest] at htypes

/-- **What passes the guard and is a schema** has the type of arrays. -/
theorem type_eq_of_acceptsOnlyArrays (haccepts : OptionsSchema.acceptsOnlyArrays members = true)
    (hschema : (Json.obj members).isSchema = true) (hv : Json.lookup "type" members = some v) :
    v = .str "array" ∨ v = .arr [.str "array"] := by
  have htypes : v.isTypes = true := by
    rw [Json.isSchema] at hschema
    exact isTypes_of_areKeywords hschema hv
  rw [OptionsSchema.acceptsOnlyArrays, hv] at haccepts
  cases v with
  | str name => exact Or.inl (congrArg Json.str (of_decide_eq_true haccepts))
  | arr names => exact Or.inr (congrArg Json.arr (eq_of_namesArray_of_isTypes haccepts htypes))
  | null | bool _ | num _ | obj _ => simp [Json.isTypes] at htypes

end Types

/-! ## Rules -/

section Rules

variable {engine : SchemaEngine} {members : List (String × Json)} {v : Json}

lemma eq_of_declared {form : RuleForm} (hdeclared : OptionsSchema.declared? form = some (.obj members))
    {schema : Json} (h : form.optionsSchema = .canonical schema) : schema = .obj members := by
  rw [RuleForm.optionsSchema, hdeclared, OptionsSchema.ofDeclared] at h
  split_ifs at h
  exact (OptionsSchema.canonical.inj h).symm

/-- A schema of another type does not compile, should it be canonical for any rule. -/
lemma engine_eq_none_of_type (hengine : engine.IsStrict)
    (hv : Json.lookup "type" members = some v)
    (hother : ¬ (v = .str "array" ∨ v = .arr [.str "array"])) {form : RuleForm}
    (hcanonical : form.optionsSchema = .canonical (.obj members)) :
    engine (.obj members) = none := by
  obtain ⟨members', hmembers, haccepts⟩ := OptionsSchema.acceptsOnlyArrays_of_canonical hcanonical
  obtain rfl := Json.obj.inj hmembers
  refine hengine _ ?_
  by_contra hschema
  rw [Bool.not_eq_false] at hschema
  exact hother (type_eq_of_acceptsOnlyArrays haccepts hschema hv)

lemma Knows.cacheKey_notMem_of_type (hengine : engine.IsStrict)
    (hv : Json.lookup "type" members = some v)
    (hother : ¬ (v = .str "array" ∨ v = .arr [.str "array"])) {rules : Set RuleDefinition}
    {rv : RuleValidator} (h : Knows engine rules rv) :
    SchemaCompiler.cacheKey (.obj members) ∉ rv.compiler.checks.keys := by
  rw [h.mirrors.cacheKey_mem_keys_iff]
  rintro ⟨⟨rule, -, hcanonical⟩, hsome⟩
  rw [engine_eq_none_of_type hengine hv hother hcanonical] at hsome
  exact nomatch hsome

end Rules

/-- **A schema for the whole list that is not one of an array refuses nothing.**  Let a rule declare
an object with a type for the list of its options, and let the engine compile only schemas of draft
4.  Then after any calls on a validator, and in the middle of any further one:

* Options of the rule are called invalid, in a call or for an entry, only if the type is `"array"`
  or `["array"]`.
* If it is anything else, every entry that denotes the rule is let through, and nothing is cached
  for its schema. -/
theorem wholeSchema_outcome (engine : SchemaEngine) (hengine : engine.IsStrict)
    (past : List Configuration) (config : Configuration) (before : List (String × RuleEntry))
    (id : String) (name : RuleName) (rule : RuleDefinition) (members : List (String × Json))
    (v : Json) (hkeys : Set.InjOn RuleDefinition.key (definitionsOf (past ++ [config])))
    (hresolve : resolve config.plugins id = .ok (name, rule))
    (hdeclared : OptionsSchema.declared? rule.form = some (.obj members))
    (hv : Json.lookup "type" members = some v) :
    (∀ violations, ((RuleValidator.afterAll engine past).validate engine config).1
          = .error (.invalidOptions id violations) →
        v = .str "array" ∨ v = .arr [.str "array"])
      ∧ (∀ entry violations,
          ((RuleValidator.during engine past config.plugins before).checkEntry engine
              config.plugins id entry).1 = .error (.invalidOptions id violations) →
            v = .str "array" ∨ v = .arr [.str "array"])
      ∧ (¬ (v = .str "array" ∨ v = .arr [.str "array"]) →
          (∀ entry, ((RuleValidator.during engine past config.plugins before).checkEntry engine
              config.plugins id entry).1 = .ok ())
          ∧ SchemaCompiler.cacheKey (.obj members)
              ∉ (RuleValidator.during engine past config.plugins before).compiler.checks.keys) := by
  have haccepted : ¬ (v = .str "array" ∨ v = .arr [.str "array"]) → ∀ entry,
      plainVerdict engine config.plugins id entry = .ok () := by
    intro hother entry
    refine plainVerdict_of_uncompiled hresolve fun schema hschema => ?_
    obtain rfl := eq_of_declared hdeclared hschema
    exact engine_eq_none_of_type hengine hv hother hschema
  refine ⟨fun violations h => ?_, fun entry violations h => ?_, fun hother => ⟨fun entry => ?_, ?_⟩⟩
  · by_contra hother
    have hverdict : ((RuleValidator.afterAll engine past).validate engine config).1
        = plainVerdicts engine config.plugins config.rules.entries :=
      (checkEntries_afterAll hkeys (List.subset_append_left past [config]) (by simp) _).1
    -- the verdict is that on one of the entries for this identifier
    obtain ⟨id', entry, -, hfault⟩ := plainVerdicts_error_iff.1 (hverdict.symm.trans h)
    have hplain := plainVerdict_error_iff.2 hfault
    cases hfault with
    | violated _ _ _ _ _ => exact nomatch (haccepted hother entry).symm.trans hplain
  · by_contra hother
    rw [checkEntry_during hkeys, haccepted hother] at h
    exact nomatch h
  · rw [checkEntry_during hkeys, haccepted hother]
  · exact (knows_during hkeys before).cacheKey_notMem_of_type hengine hv hother

/-- A definition whose schema names arrays twice. -/
def repeatingRule : RuleDefinition :=
  ⟨⟨0⟩, .object { schema := some (.obj [("type", .arr [.str "array", .str "array"])]) }⟩

/-- It is used with two options. -/
def repeating : Configuration where
  rules := ⟨[("r", [.num (.integer 2), .null, .str "x"])], by decide⟩
  plugins := some ⟨[("@", ⟨⟨1⟩, none, ⟨[("r", repeatingRule)], by decide⟩⟩)], by decide⟩

lemma injOn_key_repeating :
    Set.InjOn RuleDefinition.key (definitionsOf ([repeating] ++ [repeating])) := by
  have hdefinitions : ∀ rule ∈ definitionsOf ([repeating] ++ [repeating]),
      rule = repeatingRule := by
    rintro rule ⟨config, hconfig, hrule⟩
    obtain rfl : config = repeating := by simpa using hconfig
    obtain ⟨name, hname⟩ := exists_mem_of_registered_singleton hrule
    exact (Prod.mk.inj (List.mem_singleton.1 hname)).2
  intro rule hrule other hother _
  rw [hdefinitions rule hrule, hdefinitions other hother]

/-- The guard lets this schema pass, and the engine does not compile it. -/
theorem wholeSchema_outcome_repeating :
    OptionsSchema.acceptsOnlyArrays [("type", .arr [.str "array", .str "array"])] = true
      ∧ SchemaEngine.draft04.IsStrict
      ∧ Set.InjOn RuleDefinition.key (definitionsOf ([repeating] ++ [repeating]))
      ∧ resolve repeating.plugins "r" = .ok (⟨"@", "r"⟩, repeatingRule)
      ∧ ((RuleValidator.during .draft04 [repeating] repeating.plugins []).checkEntry .draft04
          repeating.plugins "r" [.num (.integer 2), .null, .str "x"]).1 = .ok () := by
  have hresolve : resolve repeating.plugins "r" = .ok (⟨"@", "r"⟩, repeatingRule) := rfl
  obtain ⟨-, -, hother⟩ := wholeSchema_outcome .draft04 SchemaEngine.isStrict_draft04 [repeating]
    repeating [] "r" _ repeatingRule [("type", .arr [.str "array", .str "array"])]
    (.arr [.str "array", .str "array"]) injOn_key_repeating hresolve rfl rfl
  have htype : ¬ (Json.arr [.str "array", .str "array"] = .str "array"
      ∨ Json.arr [.str "array", .str "array"] = .arr [.str "array"]) := by simp
  exact ⟨rfl, SchemaEngine.isStrict_draft04, injOn_key_repeating, hresolve, (hother htype).1 _⟩

end LintConfig
