import Mathlib
import LintConfig.Command.Run
import LintConfig.Proofs.Configuration.Validation
import LintConfig.Proofs.Json.Pretty
import LintConfig.Proofs.Rule.OptionsSchema
import LintConfig.Proofs.Schema.Positional

/-!
# The schema that is printed and the schema that is enforced

`schema` prints what the options of a rule are checked with, or `null`.

**What is printed.**  The output determines the value (`eq_of_runSchema_eq`), which is the canonical
schema of the definition that the identifier denotes.

**What is enforced.**  `Enforces` says that the entries of an identifier are refused as a schema
wants it.  In every state of a validator the entries are checked as if nothing were known
(`checkEntry_during`), so the printed schema is the enforced one (`schema_enforced`) but for the
reserved identifier, whose entries nothing refuses.

**Normalization.**  A canonical schema that is declared again is canonical again
(`ofDeclared_of_canonical`).
-/

namespace LintConfig

/-! ## Normalization -/

namespace OptionsSchema

/-- **Canonical schemas are fixed by normalization.** -/
theorem ofDeclared_of_canonical {declared : Option Json} {schema : Json}
    (h : ofDeclared declared = .canonical schema) :
    ofDeclared (some schema) = .canonical schema := by
  obtain ⟨members, rfl, haccepts⟩ := acceptsOnlyArrays_of_canonical h
  rw [ofDeclared, if_pos haccepts]

lemma schema?_eq_some_iff {s : OptionsSchema} {schema : Json} :
    s.schema? = some schema ↔ s = .canonical schema := by
  cases s with
  | canonical other => simp [schema?]
  | absent | rejected other => simp [schema?]

end OptionsSchema

/-- Whether a rule in object form declares a schema, beside its information block or only in it. -/
def RuleDeclaration.Declares (declaration : RuleDeclaration) (schema : Json) : Prop :=
  declaration.schema = some schema
    ∨ declaration.schema = none ∧ ∃ info, declaration.info = some info ∧ info.schema = some schema

lemma RuleDeclaration.Declares.declared? {declaration : RuleDeclaration} {schema : Json}
    (h : declaration.Declares schema) :
    OptionsSchema.declared? (.object declaration) = some schema := by
  rw [OptionsSchema.declared?]
  rcases h with h | ⟨hnone, info, hinfo, h⟩
  · rw [h]
    rfl
  · rw [hnone, hinfo]
    exact h

/-! ## What is printed -/

section Printing

variable {config : Configuration} {id : String} {name : RuleName} {rule : RuleDefinition}

lemma runSchema_of_resolve (hresolve : resolve config.plugins id = .ok (name, rule)) :
    Command.runSchema config id
      = .success ((rule.form.optionsSchema.schema?.getD .null).pretty ++ "\n") := by
  rw [Command.runSchema, hresolve]

/-- The output says which value was printed. -/
lemma eq_of_runSchema_eq (hresolve : resolve config.plugins id = .ok (name, rule)) {schema : Json}
    (h : Command.runSchema config id = .success (schema.pretty ++ "\n")) :
    schema = rule.form.optionsSchema.schema?.getD .null := by
  rw [runSchema_of_resolve hresolve] at h
  have hstdout : (rule.form.optionsSchema.schema?.getD .null).pretty ++ "\n"
      = schema.pretty ++ "\n" := congrArg Outcome.stdout h
  exact (Json.pretty_injective ((String.append_left_inj "\n").1 hstdout)).symm

/-- A value other than null is the canonical schema. -/
lemma optionsSchema_of_printed {schema : Json}
    (h : schema = rule.form.optionsSchema.schema?.getD .null) (hnull : schema ≠ .null) :
    rule.form.optionsSchema = .canonical schema := by
  cases hschema : rule.form.optionsSchema.schema? with
  | none =>
      rw [hschema] at h
      exact absurd h hnull
  | some canonical =>
      rw [hschema] at h
      rw [h]
      exact OptionsSchema.schema?_eq_some_iff.1 hschema

/-- Null is printed if there is no canonical schema: that would be an object. -/
lemma schema?_of_printed_null
    (h : Json.null = rule.form.optionsSchema.schema?.getD .null) :
    rule.form.optionsSchema.schema? = none := by
  cases hschema : rule.form.optionsSchema.schema? with
  | none => rfl
  | some canonical =>
      obtain ⟨members, rfl, -⟩ := OptionsSchema.acceptsOnlyArrays_of_canonical
        (OptionsSchema.schema?_eq_some_iff.1 hschema)
      rw [hschema] at h
      exact nomatch h

end Printing

/-! ## What is enforced -/

/-- In a state of a validator the used entries of an identifier are refused where a schema that
compiles reports something of their options, and with what it reports. -/
def Enforces (engine : SchemaEngine) (rv : RuleValidator) (registry : Option Registry) (id : String)
    (schema : Json) : Prop :=
  ∀ entry : RuleEntry, entry.isDisabled = false → ∀ error,
    (rv.checkEntry engine registry id entry).1 = .error error
      ↔ ∃ check, engine schema = some check ∧ check (.arr entry.tail) ≠ []
          ∧ error = .invalidOptions id ((check (.arr entry.tail)).map Violation.display)

section Enforcement

variable {engine : SchemaEngine} {registry : Option Registry} {rules : Set RuleDefinition}
  {rv : RuleValidator} {id : String} {entry : RuleEntry} {name : RuleName} {rule : RuleDefinition}

lemma reachedAmong_subset_registered {before : List (String × RuleEntry)} :
    reachedAmong engine registry before ⊆ registered registry := by
  rintro rule ⟨id, entry, -, -, name, hresolve⟩
  exact mem_registered_of_resolve hresolve

/-- What is known does not show in the verdict on an entry. -/
lemma Knows.checkEntry (h : Knows engine rules rv)
    (hkeys : Set.InjOn RuleDefinition.key (rules ∪ registered registry)) :
    (rv.checkEntry engine registry id entry).1 = plainVerdict engine registry id entry := by
  have hlist := (h.checkEntries hkeys [(id, entry)]).1
  rw [RuleValidator.checkEntries, plainVerdicts] at hlist
  cases hcheck : rv.checkEntry engine registry id entry with
  | mk verdict rest =>
      rw [hcheck] at hlist
      cases verdict with
      | error error =>
          cases hplain : plainVerdict engine registry id entry with
          | error fault => simpa [hplain] using hlist
          | ok _ => simp [hplain, plainVerdicts] at hlist
      | ok _ =>
          cases hplain : plainVerdict engine registry id entry with
          | error fault => simp [hplain, RuleValidator.checkEntries] at hlist
          | ok _ => rfl

/-- **In the middle of a call** the definitions are known that were reached, in the calls before
and among the entries of this one. -/
lemma knows_during {past : List Configuration} {config : Configuration}
    (hkeys : Set.InjOn RuleDefinition.key (definitionsOf (past ++ [config])))
    (before : List (String × RuleEntry)) :
    Knows engine (reached engine past ∪ reachedAmong engine config.plugins before)
      (RuleValidator.during engine past config.plugins before) :=
  (checkEntries_afterAll hkeys (List.subset_append_left past [config]) (by simp) before).2

lemma checkEntry_during {past : List Configuration} {config : Configuration}
    (hkeys : Set.InjOn RuleDefinition.key (definitionsOf (past ++ [config])))
    (before : List (String × RuleEntry)) (id : String) (entry : RuleEntry) :
    ((RuleValidator.during engine past config.plugins before).checkEntry engine config.plugins id
      entry).1 = plainVerdict engine config.plugins id entry := by
  refine (knows_during hkeys before).checkEntry (hkeys.mono ?_)
  have hcalls : reached engine past ∪ registered config.plugins
      ⊆ definitionsOf (past ++ [config]) :=
    reached_union_registered_subset (List.subset_append_left past [config]) (by simp)
  refine Set.Subset.trans (Set.union_subset (Set.union_subset ?_ ?_) ?_) hcalls
  · exact Set.subset_union_left
  · exact Set.subset_union_of_subset_right reachedAmong_subset_registered _
  · exact Set.subset_union_right

lemma not_exempt (hid : id ≠ "__proto__") (hused : entry.isDisabled = false) :
    ¬ Exempt id entry := by
  rw [← isSkipped_iff, isSkipped, hused, Bool.or_false, decide_eq_true_iff]
  exact hid

/-- An entry under the reserved name is not looked at in any state. -/
lemma checkEntry_of_reserved (hid : id = "__proto__") :
    (rv.checkEntry engine registry id entry).1 = .ok () := by
  rw [RuleValidator.checkEntry, if_pos (isSkipped_iff.2 (Or.inl hid))]

/-- Without a canonical schema that compiles nothing is wrong with any options. -/
lemma plainVerdict_of_uncompiled (hresolve : resolve registry id = .ok (name, rule))
    (hnone : ∀ schema, rule.form.optionsSchema = .canonical schema → engine schema = none) :
    plainVerdict engine registry id entry = .ok () := by
  refine plainVerdict_ok_iff.2
    (Or.inr ⟨name, rule, hresolve, fun schema check hschema hcheck => ?_⟩)
  exact nomatch hcheck.symm.trans (hnone schema hschema)

lemma plainVerdict_of_schema?_eq_none (hresolve : resolve registry id = .ok (name, rule))
    (hnone : rule.form.optionsSchema.schema? = none) :
    plainVerdict engine registry id entry = .ok () := by
  refine plainVerdict_of_uncompiled hresolve fun schema hschema => ?_
  rw [hschema] at hnone
  exact nomatch hnone

/-- With one, a used entry is refused for what the schema reports. -/
lemma plainVerdict_error_iff_of_canonical (hid : id ≠ "__proto__")
    (hused : entry.isDisabled = false) (hresolve : resolve registry id = .ok (name, rule))
    {schema : Json} (hschema : rule.form.optionsSchema = .canonical schema) {error : EntryError} :
    plainVerdict engine registry id entry = .error error
      ↔ ∃ check, engine schema = some check ∧ check (.arr entry.tail) ≠ []
          ∧ error = .invalidOptions id ((check (.arr entry.tail)).map Violation.display) := by
  rw [plainVerdict_error_iff]
  constructor
  · intro h
    cases h with
    | unresolved _ hfails =>
        rw [hresolve] at hfails
        exact nomatch hfails
    | violated _ hresolve' hschema' hcheck hviolated =>
        obtain ⟨rfl, rfl⟩ := Prod.mk.inj (Except.ok.inj (hresolve.symm.trans hresolve'))
        obtain rfl := OptionsSchema.canonical.inj (hschema.symm.trans hschema')
        exact ⟨_, hcheck, hviolated, rfl⟩
  · rintro ⟨check, hcheck, hviolated, rfl⟩
    exact EntryFault.violated (not_exempt hid hused) hresolve hschema hcheck hviolated

end Enforcement

/-- **The printed schema is the enforced one**, for an identifier that resolves and after any calls
on a validator, in the middle of any further one.

* The definition that is printed of is the one registered under the resolved name.
* A value is printed, and only one.
* If it is null, no entry of the identifier is refused.
* Otherwise it is an object that admits nothing but arrays, it is enforced unless the identifier is
  the reserved one, and it is its own canonical schema wherever a rule declares it. -/
theorem schema_enforced (engine : SchemaEngine) (past : List Configuration)
    (config : Configuration) (before : List (String × RuleEntry)) (id : String) (name : RuleName)
    (rule : RuleDefinition)
    (hkeys : Set.InjOn RuleDefinition.key (definitionsOf (past ++ [config])))
    (hresolve : resolve config.plugins id = .ok (name, rule)) :
    (config.plugins.bind fun plugins => plugins.rule? name.plugin name.rule) = some rule
      ∧ (∃! schema : Json, Command.runSchema config id = .success (schema.pretty ++ "\n"))
      ∧ (Command.runSchema config id = .success (Json.null.pretty ++ "\n") → ∀ entry,
          ((RuleValidator.during engine past config.plugins before).checkEntry engine
            config.plugins id entry).1 = .ok ())
      ∧ ∀ schema : Json, Command.runSchema config id = .success (schema.pretty ++ "\n") →
          schema ≠ .null →
          (∃ members, schema = .obj members ∧ OptionsSchema.acceptsOnlyArrays members = true)
          ∧ (id ≠ "__proto__" →
              Enforces engine (RuleValidator.during engine past config.plugins before)
                config.plugins id schema)
          ∧ (id = "__proto__" → ∀ entry,
              ((RuleValidator.during engine past config.plugins before).checkEntry engine
                config.plugins id entry).1 = .ok ())
          ∧ ∀ declaration : RuleDeclaration, declaration.Declares schema →
              (RuleForm.object declaration).optionsSchema = .canonical schema := by
  have hverdict : ∀ entry, ((RuleValidator.during engine past config.plugins before).checkEntry
      engine config.plugins id entry).1 = plainVerdict engine config.plugins id entry :=
    fun entry => checkEntry_during hkeys before id entry
  obtain ⟨plugins, hplugins, hrule⟩ := rule?_of_resolve hresolve
  refine ⟨by rw [hplugins]; exact hrule, ⟨_, runSchema_of_resolve hresolve,
    fun schema h => eq_of_runSchema_eq hresolve h⟩, fun h entry => ?_, fun schema h hnull => ?_⟩
  · rw [hverdict]
    exact plainVerdict_of_schema?_eq_none hresolve
      (schema?_of_printed_null (eq_of_runSchema_eq hresolve h))
  · have hcanonical := optionsSchema_of_printed (eq_of_runSchema_eq hresolve h) hnull
    refine ⟨OptionsSchema.acceptsOnlyArrays_of_canonical hcanonical,
      fun hid entry hused error => ?_, fun hid entry => checkEntry_of_reserved hid,
      fun declaration hdeclares => ?_⟩
    · rw [hverdict]
      exact plainVerdict_error_iff_of_canonical hid hused hresolve hcanonical
    · rw [RuleForm.optionsSchema, hdeclares.declared?]
      exact OptionsSchema.ofDeclared_of_canonical hcanonical

/-- An option too many for a rule with the empty schema, after a call that failed for the same
reason. -/
theorem schema_enforced_aliasing :
    Set.InjOn RuleDefinition.key (definitionsOf ([aliasing] ++ [aliasing]))
      ∧ resolve aliasing.plugins "a" = .ok (⟨"@", "a"⟩, strictRule)
      ∧ Command.runSchema aliasing "a" = .success ((Json.obj []).pretty ++ "\n")
      ∧ ((RuleValidator.during emptyLanguage [aliasing] aliasing.plugins []).checkEntry
          emptyLanguage aliasing.plugins "a" [.str "warn", .null]).1
        = .error (.invalidOptions "a" ["/ not empty."]) := by
  have hresolve : resolve aliasing.plugins "a" = .ok (⟨"@", "a"⟩, strictRule) := rfl
  have hprints : Command.runSchema aliasing "a" = .success ((Json.obj []).pretty ++ "\n") :=
    runSchema_of_resolve hresolve
  obtain ⟨-, -, -, henforces⟩ := schema_enforced emptyLanguage [aliasing] aliasing [] "a" _ _
    injOn_key_aliasing hresolve
  obtain ⟨-, hused, -, -⟩ := henforces _ hprints (fun h => nomatch h)
  refine ⟨injOn_key_aliasing, hresolve, hprints, ?_⟩
  exact (hused (by decide) [.str "warn", .null] rfl _).2 ⟨emptyOnly, rfl, by simp [emptyOnly], rfl⟩

/-- A definition of a rule without options. -/
def optionlessRule : RuleDefinition := ⟨⟨0⟩, .object { schema := some (.arr []) }⟩

/-- It is registered under the reserved name, and an entry gives it an option. -/
def reserved : Configuration where
  rules := ⟨[("__proto__", [.num (.integer 2), .num (.integer 1)])], by decide⟩
  plugins := some ⟨[("@", ⟨⟨1⟩, none, ⟨[("__proto__", optionlessRule)], by decide⟩⟩)], by decide⟩

/-- **The reserved identifier is different**: its schema is printed and not enforced. -/
theorem not_enforces_reserved :
    resolve reserved.plugins "__proto__" = .ok (⟨"@", "__proto__"⟩, optionlessRule)
      ∧ Command.runSchema reserved "__proto__"
        = .success ((OptionsSchema.positional []).pretty ++ "\n")
      ∧ ¬ Enforces .draft04 {} reserved.plugins "__proto__" (OptionsSchema.positional []) := by
  have hresolve : resolve reserved.plugins "__proto__"
      = .ok (⟨"@", "__proto__"⟩, optionlessRule) := rfl
  have hcanonical : optionlessRule.form.optionsSchema.schema?.getD .null
      = OptionsSchema.positional [] := rfl
  refine ⟨hresolve, by rw [runSchema_of_resolve hresolve, hcanonical], fun henforces => ?_⟩
  -- the schema compiles and allows no option
  have hplain : ∀ item ∈ ([] : List Json), item.Plain := by simp
  obtain ⟨check, hcheck⟩ := Option.isSome_iff_exists.1
    ((OptionsSchema.isSome_positional_iff SchemaEngine.readsArrays_draft04 hplain).2 (by simp))
  have hviolated : check (.arr [.num (.integer 1)]) ≠ [] := by
    rw [Ne,
      OptionsSchema.check_positional_eq_nil_iff SchemaEngine.readsArrays_draft04 hplain hcheck]
    simp
  have hrefused := (henforces [.num (.integer 2), .num (.integer 1)] (by decide +kernel) _).2
    ⟨check, hcheck, hviolated, rfl⟩
  -- but the entry is not looked at
  rw [checkEntry_of_reserved rfl] at hrefused
  exact nomatch hrefused

end LintConfig
