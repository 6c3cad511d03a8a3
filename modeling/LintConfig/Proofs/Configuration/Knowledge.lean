import LintConfig.Proofs.Configuration.Reference
import LintConfig.Proofs.Rule.OptionsSchema
import LintConfig.Proofs.Schema.Compiler

/-!
# What a validator knows

Two caches stand between a rule and its verdict: one by the key of the definition, one by the text
of its schema.  They forget and remember differently, since a schema that does not compile is known
to the first and unknown to the second.

**The invariant.**  `Knows engine rules rv` says what both caches and the count of requests are once
exactly the definitions in `rules` have been looked at.  Looking at one more definition puts it into
the set (`Knows.validatorFor`), and the answer is always the one of `plainValidator`.

**Eviction.**  A rejected schema is evicted, but no canonical schema has its text, so nothing is
ever there to evict (`evict_of_rejected`).

**Runs.**  Checking a list of entries gives the verdict that knows nothing beforehand, and the
validator then knows what the list reaches, also where the check stopped in the middle
(`Knows.checkEntries`).  `knows_afterAll` is that for every list of calls on a new validator.
-/

namespace LintConfig

/-- The schemas that the options of some definitions are checked with. -/
def canonicalSchemas (rules : Set RuleDefinition) : Set Json :=
  {schema | ∃ rule ∈ rules, rule.form.optionsSchema = .canonical schema}

/-- The texts of those schemas that compile. -/
def compiledTexts (engine : SchemaEngine) (rules : Set RuleDefinition) : Set String :=
  {text | ∃ schema ∈ canonicalSchemas rules,
    (engine schema).isSome ∧ SchemaCompiler.cacheKey schema = text}

/-- The keys of the definitions whose schema does not compile. -/
def refusedKeys (engine : SchemaEngine) (rules : Set RuleDefinition) : Set RuleKey :=
  {key | ∃ rule ∈ rules, rule.key = key ∧
    ∃ schema, rule.form.optionsSchema = .canonical schema ∧ engine schema = none}

/-- A validator that has looked at exactly the definitions of a set. -/
structure Knows (engine : SchemaEngine) (rules : Set RuleDefinition) (rv : RuleValidator) :
    Prop where
  validators_iff : ∀ key validator, rv.validators.get? key = some validator
    ↔ ∃ rule ∈ rules, rule.key = key ∧ plainValidator engine rule.form = validator
  mirrors : SchemaCompiler.Mirrors engine (canonicalSchemas rules) rv.compiler
  /-- One request for each text that compiles, and one for each definition that is refused. -/
  requests : (rv.compiler.requests : ℕ∞)
    = (compiledTexts engine rules).encard + (refusedKeys engine rules).encard

/-! ## One more definition in the set -/

section Insertion

variable {engine : SchemaEngine} {rules : Set RuleDefinition} {rule : RuleDefinition}

lemma canonicalSchemas_insert {schema : Json}
    (hschema : rule.form.optionsSchema = .canonical schema) :
    canonicalSchemas (insert rule rules) = insert schema (canonicalSchemas rules) := by
  ext other
  simp [canonicalSchemas, hschema, eq_comm]

lemma canonicalSchemas_insert_of_none (hschema : rule.form.optionsSchema.schema? = none) :
    canonicalSchemas (insert rule rules) = canonicalSchemas rules := by
  have hnot : ∀ schema, rule.form.optionsSchema ≠ .canonical schema := by
    intro schema heq
    rw [heq] at hschema
    exact nomatch hschema
  ext other
  simp [canonicalSchemas, hnot]

lemma compiledTexts_insert_of_none (hschema : rule.form.optionsSchema.schema? = none) :
    compiledTexts engine (insert rule rules) = compiledTexts engine rules := by
  rw [compiledTexts, canonicalSchemas_insert_of_none hschema, compiledTexts]

/-- A schema that compiles adds its text. -/
lemma compiledTexts_insert {schema : Json}
    (hschema : rule.form.optionsSchema = .canonical schema) (hsome : (engine schema).isSome) :
    compiledTexts engine (insert rule rules)
      = insert (SchemaCompiler.cacheKey schema) (compiledTexts engine rules) := by
  ext text
  rw [compiledTexts, canonicalSchemas_insert hschema, Set.mem_ofPred_eq, Set.exists_mem_insert,
    Set.mem_insert_iff, eq_comm (a := text)]
  simp only [hsome, true_and]
  rfl

/-- One that does not compile adds none. -/
lemma compiledTexts_insert_of_refused {schema : Json}
    (hschema : rule.form.optionsSchema = .canonical schema) (hnone : engine schema = none) :
    compiledTexts engine (insert rule rules) = compiledTexts engine rules := by
  ext text
  simp [compiledTexts, canonicalSchemas_insert hschema, hnone]

/-- A definition whose schema does not compile adds its key. -/
lemma refusedKeys_insert {schema : Json}
    (hschema : rule.form.optionsSchema = .canonical schema) (hnone : engine schema = none) :
    refusedKeys engine (insert rule rules) = insert rule.key (refusedKeys engine rules) := by
  ext key
  simp [refusedKeys, hschema, hnone, eq_comm]

/-- Any other definition adds none. -/
lemma refusedKeys_insert_of_some
    (hsome : ∀ schema, rule.form.optionsSchema = .canonical schema → (engine schema).isSome) :
    refusedKeys engine (insert rule rules) = refusedKeys engine rules := by
  have hnot : ¬ ∃ schema, rule.form.optionsSchema = .canonical schema ∧ engine schema = none := by
    rintro ⟨schema, hschema, hnone⟩
    have hcompiles := hsome schema hschema
    rw [hnone] at hcompiles
    exact nomatch hcompiles
  ext key
  simp only [refusedKeys, Set.mem_ofPred_eq, Set.exists_mem_insert, hnot, and_false, false_or]

lemma refusedKeys_subset : refusedKeys engine rules ⊆ RuleDefinition.key '' rules := by
  rintro key ⟨rule, hrule, hkey, -⟩
  exact ⟨rule, hrule, hkey⟩

end Insertion

/-! ## Looking at one definition -/

section Steps

variable {engine : SchemaEngine} {rules : Set RuleDefinition} {rule : RuleDefinition}
  {rv : RuleValidator}

/-- **A rejected schema is never there to evict.** -/
theorem evict_of_rejected {c : SchemaCompiler}
    (h : SchemaCompiler.Mirrors engine (canonicalSchemas rules) c) {form : RuleForm} {schema : Json}
    (hrejected : form.optionsSchema = .rejected schema) : c.evict schema = (false, c) := by
  have hunbound : SchemaCompiler.cacheKey schema ∉ c.checks.keys := by
    rw [h.cacheKey_mem_keys_iff]
    rintro ⟨⟨other, -, hcanonical⟩, -⟩
    exact OptionsSchema.ne_of_rejected_of_canonical hrejected hcanonical rfl
  have hfst : (c.evict schema).1 = false := by
    rw [SchemaCompiler.evict_fst, decide_eq_false hunbound]
  have hsnd : (c.evict schema).2 = c := by
    rw [SchemaCompiler.evict, c.checks.erase_of_notMem hunbound]
  exact Prod.ext hfst hsnd

/-- What is cached never shows in what is prepared. -/
lemma prepare_fst {live : Set Json} {c : SchemaCompiler}
    (h : SchemaCompiler.Mirrors engine live c) (form : RuleForm) :
    (RuleValidator.prepare engine c form).1 = plainValidator engine form := by
  rw [RuleValidator.prepare, plainValidator]
  cases form.optionsSchema with
  | absent => rfl
  | rejected schema => rfl
  | canonical schema =>
      show some (c.compile engine schema).1 = _
      rw [h.compile_fst]
      rfl

/-- Preparing a definition makes its schema live, if it has one. -/
lemma mirrors_prepare {c : SchemaCompiler}
    (h : SchemaCompiler.Mirrors engine (canonicalSchemas rules) c) (rule : RuleDefinition) :
    SchemaCompiler.Mirrors engine (canonicalSchemas (insert rule rules))
      (RuleValidator.prepare engine c rule.form).2 := by
  cases hschema : rule.form.optionsSchema with
  | absent =>
      rw [canonicalSchemas_insert_of_none (by rw [hschema]; rfl)]
      simpa only [RuleValidator.prepare, hschema] using h
  | rejected schema =>
      rw [canonicalSchemas_insert_of_none (by rw [hschema]; rfl)]
      simpa only [RuleValidator.prepare, hschema, evict_of_rejected h hschema] using h
  | canonical schema =>
      rw [canonicalSchemas_insert hschema]
      simpa only [RuleValidator.prepare, hschema] using h.compile schema

/-- The requests after preparing a definition with a new key.  A schema that compiles is asked for
if its text is new, one that does not in any case. -/
lemma Knows.requests_prepare (h : Knows engine rules rv)
    (hnew : rule.key ∉ RuleDefinition.key '' rules) :
    ((RuleValidator.prepare engine rv.compiler rule.form).2.requests : ℕ∞)
      = (compiledTexts engine (insert rule rules)).encard
        + (refusedKeys engine (insert rule rules)).encard := by
  have hkeys : ∀ text, text ∈ rv.compiler.checks.keys ↔ text ∈ compiledTexts engine rules :=
    fun text => h.mirrors.mem_keys_iff
  cases hschema : rule.form.optionsSchema with
  | absent =>
      rw [compiledTexts_insert_of_none (by rw [hschema]; rfl),
        refusedKeys_insert_of_some (by simp [hschema]), ← h.requests]
      simp only [RuleValidator.prepare, hschema]
  | rejected schema =>
      rw [compiledTexts_insert_of_none (by rw [hschema]; rfl),
        refusedKeys_insert_of_some (by simp [hschema]), ← h.requests]
      simp only [RuleValidator.prepare, hschema, evict_of_rejected h.mirrors hschema]
  | canonical schema =>
      have hrequests : (RuleValidator.prepare engine rv.compiler rule.form).2.requests
          = rv.compiler.requests
            + if SchemaCompiler.cacheKey schema ∈ rv.compiler.checks.keys then 0 else 1 := by
        rw [← SchemaCompiler.requests_compile engine]
        simp only [RuleValidator.prepare, hschema]
      cases hengine : engine schema with
      | some check =>
          have hsome : (engine schema).isSome := by rw [hengine]; rfl
          have hrefused : refusedKeys engine (insert rule rules) = refusedKeys engine rules := by
            refine refusedKeys_insert_of_some fun other hother => ?_
            rw [hschema] at hother
            rw [← OptionsSchema.canonical.inj hother]
            exact hsome
          rw [hrequests, compiledTexts_insert hschema hsome, hrefused]
          -- the text may be bound already, through another definition with the same schema
          by_cases hbound : SchemaCompiler.cacheKey schema ∈ rv.compiler.checks.keys
          · rw [if_pos hbound, Set.insert_eq_of_mem ((hkeys _).1 hbound), ← h.requests,
              Nat.add_zero]
          · rw [if_neg hbound, Set.encard_insert_of_notMem (mt (hkeys _).2 hbound), Nat.cast_add,
              h.requests, add_right_comm]
            rfl
      | none =>
          have hunbound : SchemaCompiler.cacheKey schema ∉ rv.compiler.checks.keys := by
            rw [h.mirrors.cacheKey_mem_keys_iff, hengine]
            rintro ⟨-, hsome⟩
            exact nomatch hsome
          rw [hrequests, if_neg hunbound, compiledTexts_insert_of_refused hschema hengine,
            refusedKeys_insert hschema hengine,
            Set.encard_insert_of_notMem fun hmem => hnew (refusedKeys_subset hmem), Nat.cast_add,
            h.requests, add_assoc]
          rfl

/-- A definition that has been looked at is answered from the cache. -/
lemma Knows.validatorFor_of_mem (h : Knows engine rules rv) (hmem : rule ∈ rules) :
    rv.validatorFor engine rule = (plainValidator engine rule.form, rv) := by
  have hknown := (h.validators_iff rule.key _).2 ⟨rule, hmem, rfl, rfl⟩
  rw [RuleValidator.validatorFor, hknown]

/-- **Looking at a definition.**  The answer is what its form says, and the definition is known
afterwards, whether it was before or not. -/
theorem Knows.validatorFor (h : Knows engine rules rv)
    (hkeys : Set.InjOn RuleDefinition.key (insert rule rules)) :
    (rv.validatorFor engine rule).1 = plainValidator engine rule.form
      ∧ Knows engine (insert rule rules) (rv.validatorFor engine rule).2 := by
  by_cases hmem : rule ∈ rules
  · rw [h.validatorFor_of_mem hmem, Set.insert_eq_of_mem hmem]
    exact ⟨rfl, h⟩
  -- a known key could only be that of the definition itself
  have hnew : rule.key ∉ RuleDefinition.key '' rules := by
    rintro ⟨other, hother, hkey⟩
    have heq := hkeys (Set.mem_insert_of_mem rule hother) (Set.mem_insert rule rules) hkey
    exact hmem (heq ▸ hother)
  have hnone : rv.validators.get? rule.key = none := by
    rw [Option.eq_none_iff_forall_ne_some]
    intro validator hsome
    obtain ⟨other, hother, hkey, -⟩ := (h.validators_iff _ _).1 hsome
    exact hnew ⟨other, hother, hkey⟩
  have hprepared : rv.validatorFor engine rule
      = (plainValidator engine rule.form,
          ⟨(RuleValidator.prepare engine rv.compiler rule.form).2,
            rv.validators.insert rule.key (plainValidator engine rule.form)⟩) := by
    rw [RuleValidator.validatorFor, hnone, ← prepare_fst h.mirrors]
  rw [hprepared]
  refine ⟨rfl, fun key validator => ?_, mirrors_prepare h.mirrors rule, h.requests_prepare hnew⟩
  rw [OrderedMap.get?_insert, Set.exists_mem_insert]
  by_cases hkey : rule.key = key
  · have hother : ¬ ∃ other ∈ rules, other.key = key
        ∧ plainValidator engine other.form = validator := by
      rintro ⟨other, hother, hsame, -⟩
      exact hnew ⟨other, hother, hsame.trans hkey.symm⟩
    rw [if_pos hkey, or_iff_left hother, Option.some.injEq]
    exact (and_iff_right hkey).symm
  · rw [if_neg hkey, h.validators_iff, or_iff_right fun hsame => hkey hsame.1]

/-! ## What is known -/

lemma encard_keys {α β : Type} (m : OrderedMap α β) : {k | k ∈ m.keys}.encard = m.size := by
  classical
  have hnodup : m.keys.Nodup := m.nodup
  rw [← List.coe_toFinset, Set.encard_coe_eq_coe_finsetCard, List.toFinset_card_of_nodup hnodup]
  simp [OrderedMap.keys, OrderedMap.size]

/-- One validator is kept for each key of a definition that was looked at. -/
lemma Knows.cachedRules (h : Knows engine rules rv) :
    (rv.cachedRules : ℕ∞) = (RuleDefinition.key '' rules).encard := by
  have hkeys : {key | key ∈ rv.validators.keys} = RuleDefinition.key '' rules := by
    ext key
    rw [Set.mem_ofPred_eq, OrderedMap.mem_keys_iff, Option.isSome_iff_exists]
    constructor
    · rintro ⟨validator, hget⟩
      obtain ⟨rule, hrule, hkey, -⟩ := (h.validators_iff key validator).1 hget
      exact ⟨rule, hrule, hkey⟩
    · rintro ⟨rule, hrule, hkey⟩
      exact ⟨_, (h.validators_iff key _).2 ⟨rule, hrule, hkey, rfl⟩⟩
  rw [← hkeys, encard_keys]
  rfl

/-- What is bound for some definitions stays bound for more of them. -/
lemma Knows.get?_mono {more : Set RuleDefinition} {later : RuleValidator}
    (h : Knows engine rules rv) (hlater : Knows engine more later)
    (hsubset : rules ⊆ more) {text : String} {check : SchemaCheck}
    (hget : rv.compiler.checks.get? text = some check) :
    later.compiler.checks.get? text = some check := by
  obtain ⟨schema, rfl⟩ := h.mirrors.exists_schema text (OrderedMap.mem_keys_of_get? hget)
  obtain ⟨⟨rule, hrule, hschema⟩, hengine⟩ := (h.mirrors.get?_iff schema check).1 hget
  exact (hlater.mirrors.get?_iff schema check).2 ⟨⟨rule, hsubset hrule, hschema⟩, hengine⟩

end Steps

/-! ## Runs -/

/-- The validator after one call after the other, each of them on its own configuration. -/
def RuleValidator.afterAll (engine : SchemaEngine) (history : List Configuration) : RuleValidator :=
  history.foldl (fun rv config => (rv.validate engine config).2) {}

section Runs

variable {engine : SchemaEngine} {rules : Set RuleDefinition} {rv : RuleValidator}
  {registry : Option Registry}

/-- A validator on which nothing was called. -/
lemma knows_new : Knows engine ∅ {} where
  validators_iff key validator := by
    have hnone : ({} : RuleValidator).validators.get? key = none := rfl
    simp [hnone]
  mirrors := by
    have hempty : canonicalSchemas ∅ = ∅ := by simp [canonicalSchemas]
    rw [hempty]
    exact SchemaCompiler.mirrors_empty
  requests := by simp [compiledTexts, refusedKeys, canonicalSchemas]

/-- **Checking a list of entries.**  The verdict does not depend on what is known beforehand, and
what the list reaches is known afterwards. -/
theorem Knows.checkEntries (h : Knows engine rules rv)
    (hkeys : Set.InjOn RuleDefinition.key (rules ∪ registered registry))
    (entries : List (String × RuleEntry)) :
    (rv.checkEntries engine registry entries).1 = plainVerdicts engine registry entries
      ∧ Knows engine (rules ∪ reachedAmong engine registry entries)
          (rv.checkEntries engine registry entries).2 := by
  induction entries generalizing rv rules with
  | nil =>
      rw [reachedAmong_nil, Set.union_empty]
      exact ⟨rfl, h⟩
  | cons head rest ih =>
      obtain ⟨id, entry⟩ := head
      by_cases hexempt : Exempt id entry
      · have hskipped := isSkipped_iff.2 hexempt
        simp only [RuleValidator.checkEntries, RuleValidator.checkEntry, plainVerdicts,
          plainVerdict, hskipped, if_true, reachedAmong_cons_of_exempt hexempt]
        exact ih h hkeys
      have hlooked : isSkipped id entry = false := by
        rw [← Bool.not_eq_true, isSkipped_iff]
        exact hexempt
      cases hresolve : resolve registry id with
      | error failure =>
          simp only [RuleValidator.checkEntries, RuleValidator.checkEntry, plainVerdicts,
            plainVerdict, hlooked, lookupRule, hresolve, Bool.false_eq_true, if_false,
            reachedAmong_cons_of_unresolved hexempt hresolve, Set.union_empty, true_and]
          exact h
      | ok found =>
          obtain ⟨name, rule⟩ := found
          have hrule : rule ∈ registered registry := mem_registered_of_resolve hresolve
          have hinsert : insert rule rules ⊆ rules ∪ registered registry :=
            Set.insert_subset (Or.inr hrule) Set.subset_union_left
          obtain ⟨hanswer, hknows⟩ := h.validatorFor (hkeys.mono hinsert)
          simp only [RuleValidator.checkEntries, RuleValidator.checkEntry, plainVerdicts,
            plainVerdict, hlooked, lookupRule, hresolve, Bool.false_eq_true, if_false, hanswer]
          cases hcheck : RuleValidator.checkOptions id entry (plainValidator engine rule.form) with
          | error error =>
              -- the check stops here, with the definition known and the rest not reached
              have hfails : ¬ Passes engine registry id entry := by
                rw [← plainVerdict_ok_iff, plainVerdict_of_resolve hexempt hresolve, hcheck]
                simp
              rw [reachedAmong_cons_of_fails hexempt hresolve hfails, Set.union_singleton]
              exact ⟨rfl, hknows⟩
          | ok _ =>
              have hpasses : Passes engine registry id entry := by
                rw [← plainVerdict_ok_iff, plainVerdict_of_resolve hexempt hresolve, hcheck]
              rw [reachedAmong_cons_of_passes hexempt hresolve hpasses, Set.union_insert,
                ← Set.insert_union]
              refine ih hknows (hkeys.mono ?_)
              exact Set.union_subset hinsert Set.subset_union_right

/-- **After every list of calls a new validator knows what the calls reached.** -/
theorem knows_afterAll {history : List Configuration}
    (hkeys : Set.InjOn RuleDefinition.key (definitionsOf history)) :
    Knows engine (reached engine history) (RuleValidator.afterAll engine history) := by
  induction history using List.reverseRecOn with
  | nil =>
      have hempty : reached engine [] = ∅ := by simp [reached]
      rw [hempty]
      exact knows_new
  | append_singleton history config ih =>
      have hpast : history ⊆ history ++ [config] := List.subset_append_left history [config]
      have hknows := ih (hkeys.mono (definitionsOf_mono hpast))
      have hcall : reached engine history ∪ registered config.plugins
          ⊆ definitionsOf (history ++ [config]) :=
        reached_union_registered_subset hpast (by simp)
      rw [reached_append_singleton, RuleValidator.afterAll, List.foldl_append]
      exact (hknows.checkEntries (hkeys.mono hcall) config.rules.entries).2

/-- **One more call in the middle of its entries**, after some calls of a history. -/
theorem checkEntries_afterAll {past history : List Configuration} {config : Configuration}
    (hkeys : Set.InjOn RuleDefinition.key (definitionsOf history)) (hpast : past ⊆ history)
    (hconfig : config ∈ history) (entries : List (String × RuleEntry)) :
    ((RuleValidator.afterAll engine past).checkEntries engine config.plugins entries).1
        = plainVerdicts engine config.plugins entries
      ∧ Knows engine (reached engine past ∪ reachedAmong engine config.plugins entries)
          ((RuleValidator.afterAll engine past).checkEntries engine config.plugins entries).2 :=
  (knows_afterAll (hkeys.mono (definitionsOf_mono hpast))).checkEntries
    (hkeys.mono (reached_union_registered_subset hpast hconfig)) entries

end Runs

end LintConfig
