import LintConfig.Configuration.Validation
import LintConfig.Proofs.Rule.Resolution

/-!
# What validation is meant to say

What a configuration has to satisfy is said here without caches and without an order of work.

**Entries.**  An entry is `Exempt` if it is not looked at, and `Accepted` if its identifier resolves
and its options satisfy the schema of the definition, where there is one that compiles.
`EntryFault` is the error of an entry that is neither.  `plainVerdict` decides between them
(`plainVerdict_ok_iff`, `plainVerdict_error_iff`).

**Lists of entries.**  The verdict on a list is the one on the first entry that has an error
(`plainVerdicts_ok_iff`, `plainVerdicts_error_iff`).

**Reached definitions.**  `ComesTo` says that everything in front of an entry passes, and `reached`
collects the definitions of all the entries that some call came to.
-/

namespace LintConfig

/-! ## One entry -/

/-- An entry under the reserved name, or one whose severity is a number of level zero. -/
def Exempt (id : String) (entry : RuleEntry) : Prop :=
  id = "__proto__" ∨ ∃ n options, entry = .num n :: options ∧ Severity.ofNumber? n = some .off

/-- An entry whose identifier denotes a definition, and whose options satisfy its schema where the
definition has a canonical one that compiles. -/
def Accepted (engine : SchemaEngine) (registry : Option Registry) (id : String)
    (entry : RuleEntry) : Prop :=
  ∃ name rule, resolve registry id = .ok (name, rule) ∧
    ∀ schema check, rule.form.optionsSchema = .canonical schema → engine schema = some check →
      check (.arr entry.tail) = []

/-- An entry passes if it is exempt or accepted. -/
def Passes (engine : SchemaEngine) (registry : Option Registry) (id : String)
    (entry : RuleEntry) : Prop :=
  Exempt id entry ∨ Accepted engine registry id entry

/-- The error of an entry that is looked at and not accepted. -/
inductive EntryFault (engine : SchemaEngine) (registry : Option Registry) (id : String)
    (entry : RuleEntry) : EntryError → Prop where
  | unresolved {failure : LookupFailure} :
      ¬ Exempt id entry → resolve registry id = .error failure →
      EntryFault engine registry id entry (.unknownRule id (explain registry id failure.toError))
  | violated {name : RuleName} {rule : RuleDefinition} {schema : Json} {check : SchemaCheck} :
      ¬ Exempt id entry → resolve registry id = .ok (name, rule) →
      rule.form.optionsSchema = .canonical schema → engine schema = some check →
      check (.arr entry.tail) ≠ [] →
      EntryFault engine registry id entry
        (.invalidOptions id ((check (.arr entry.tail)).map Violation.display))

/-- How the options of a form are checked if nothing is known beforehand. -/
def plainValidator (engine : SchemaEngine) (form : RuleForm) : Option OptionsValidator :=
  form.optionsSchema.schema?.map fun schema => .ofOutcome (engine schema)

/-- The check of one entry if nothing is known beforehand. -/
def plainVerdict (engine : SchemaEngine) (registry : Option Registry) (id : String)
    (entry : RuleEntry) : Except EntryError Unit :=
  if isSkipped id entry then .ok ()
  else
    match lookupRule registry id with
    | .error error => .error error
    | .ok rule => RuleValidator.checkOptions id entry (plainValidator engine rule.form)

section Entries

variable {engine : SchemaEngine} {registry : Option Registry} {id : String} {entry : RuleEntry}

lemma isSkipped_iff : isSkipped id entry = true ↔ Exempt id entry := by
  have hdisabled : entry.isDisabled = true
      ↔ ∃ n options, entry = .num n :: options ∧ Severity.ofNumber? n = some .off := by
    unfold RuleEntry.isDisabled
    match entry with
    | .num n :: options => simp
    | [] | .null :: _ | .bool _ :: _ | .str _ :: _ | .arr _ :: _ | .obj _ :: _ => simp
  rw [isSkipped, Bool.or_eq_true, decide_eq_true_iff, hdisabled]
  rfl

lemma plainValidator_eq_some_iff {form : RuleForm} {validator : OptionsValidator} :
    plainValidator engine form = some validator
      ↔ ∃ schema, form.optionsSchema = .canonical schema
          ∧ validator = .ofOutcome (engine schema) := by
  rw [plainValidator]
  match form.optionsSchema with
  | .absent | .rejected _ => simp [OptionsSchema.schema?]
  | .canonical schema => simp [OptionsSchema.schema?, eq_comm]

/-- A validator reports something only if its schema compiled and reports it. -/
lemma validate_ofOutcome_ne_nil_iff {outcome : Option SchemaCheck} {v : Json} :
    (OptionsValidator.ofOutcome outcome).validate v ≠ []
      ↔ ∃ check, outcome = some check ∧ check v ≠ [] := by
  cases outcome with
  | none => simp [OptionsValidator.ofOutcome, OptionsValidator.validate]
  | some check => simp [OptionsValidator.ofOutcome, OptionsValidator.validate]

lemma checkOptions_some (validator : OptionsValidator) :
    RuleValidator.checkOptions id entry (some validator)
      = if validator.validate entry.options = [] then .ok ()
        else .error (.invalidOptions id (validator.validate entry.options)) := by
  cases hviolations : validator.validate entry.options with
  | nil => simp only [RuleValidator.checkOptions, hviolations, if_true]
  | cons violation rest =>
      simp only [RuleValidator.checkOptions, hviolations, reduceCtorEq, if_false]

lemma checkOptions_ok_iff {validator : Option OptionsValidator} :
    RuleValidator.checkOptions id entry validator = .ok ()
      ↔ ∀ v, validator = some v → v.validate entry.options = [] := by
  cases validator with
  | none => simp [RuleValidator.checkOptions]
  | some v =>
      rw [checkOptions_some]
      by_cases hvalid : v.validate entry.options = []
      · simp [hvalid]
      · simp [hvalid]

lemma checkOptions_error_iff {validator : Option OptionsValidator} {error : EntryError} :
    RuleValidator.checkOptions id entry validator = .error error
      ↔ ∃ v, validator = some v ∧ v.validate entry.options ≠ []
          ∧ error = .invalidOptions id (v.validate entry.options) := by
  cases validator with
  | none => simp [RuleValidator.checkOptions]
  | some v =>
      rw [checkOptions_some]
      by_cases hvalid : v.validate entry.options = []
      · simp [hvalid]
      · simp only [hvalid, if_false, Except.error.injEq, Option.some.injEq, exists_eq_left', ne_eq,
          not_false_eq_true, true_and]
        exact eq_comm

/-- An entry that is not exempt is checked with the validator of its definition. -/
lemma plainVerdict_of_resolve (hexempt : ¬ Exempt id entry) {name : RuleName}
    {rule : RuleDefinition} (hresolve : resolve registry id = .ok (name, rule)) :
    plainVerdict engine registry id entry
      = RuleValidator.checkOptions id entry (plainValidator engine rule.form) := by
  rw [plainVerdict, if_neg (mt isSkipped_iff.1 hexempt), lookupRule, hresolve]

lemma plainVerdict_of_unresolved (hexempt : ¬ Exempt id entry) {failure : LookupFailure}
    (hresolve : resolve registry id = .error failure) :
    plainVerdict engine registry id entry
      = .error (.unknownRule id (explain registry id failure.toError)) := by
  rw [plainVerdict, if_neg (mt isSkipped_iff.1 hexempt), lookupRule, hresolve]

/-- **The entries that the check lets through are those that pass.** -/
theorem plainVerdict_ok_iff :
    plainVerdict engine registry id entry = .ok () ↔ Passes engine registry id entry := by
  by_cases hexempt : Exempt id entry
  · simp only [plainVerdict, isSkipped_iff.2 hexempt, if_true, Passes, hexempt, true_or]
  rw [Passes, or_iff_right hexempt, Accepted]
  cases hresolve : resolve registry id with
  | error failure =>
      rw [plainVerdict_of_unresolved hexempt hresolve]
      simp
  | ok found =>
      obtain ⟨name, rule⟩ := found
      rw [plainVerdict_of_resolve hexempt hresolve, checkOptions_ok_iff]
      constructor
      · intro h
        refine ⟨name, rule, rfl, fun schema check hschema hcheck => ?_⟩
        have hvalid := h _ (plainValidator_eq_some_iff.2 ⟨schema, hschema, rfl⟩)
        by_contra hne
        exact validate_ofOutcome_ne_nil_iff.2 ⟨check, hcheck, hne⟩ hvalid
      · rintro ⟨name', rule', heq, h⟩ v hv
        obtain ⟨rfl, rfl⟩ := Prod.mk.inj (Except.ok.inj heq)
        obtain ⟨schema, hschema, rfl⟩ := plainValidator_eq_some_iff.1 hv
        by_contra hne
        obtain ⟨check, hcheck, hviolated⟩ := validate_ofOutcome_ne_nil_iff.1 hne
        exact hviolated (h schema check hschema hcheck)

/-- **The errors of the check are the faults of the entry.** -/
theorem plainVerdict_error_iff {error : EntryError} :
    plainVerdict engine registry id entry = .error error
      ↔ EntryFault engine registry id entry error := by
  constructor
  · intro h
    have hexempt : ¬ Exempt id entry := by
      intro hexempt
      rw [plainVerdict_ok_iff.2 (Or.inl hexempt)] at h
      exact nomatch h
    cases hresolve : resolve registry id with
    | error failure =>
        rw [plainVerdict_of_unresolved hexempt hresolve] at h
        rw [← Except.error.inj h]
        exact EntryFault.unresolved hexempt hresolve
    | ok found =>
        obtain ⟨name, rule⟩ := found
        rw [plainVerdict_of_resolve hexempt hresolve, checkOptions_error_iff] at h
        obtain ⟨v, hv, hne, rfl⟩ := h
        obtain ⟨schema, hschema, rfl⟩ := plainValidator_eq_some_iff.1 hv
        obtain ⟨check, hcheck, hviolated⟩ := validate_ofOutcome_ne_nil_iff.1 hne
        rw [hcheck]
        exact EntryFault.violated hexempt hresolve hschema hcheck hviolated
  · rintro (⟨hexempt, hresolve⟩ | ⟨hexempt, hresolve, hschema, hcheck, hviolated⟩)
    · exact plainVerdict_of_unresolved hexempt hresolve
    · rw [plainVerdict_of_resolve hexempt hresolve, checkOptions_error_iff]
      refine ⟨_, plainValidator_eq_some_iff.2 ⟨_, hschema, rfl⟩,
        validate_ofOutcome_ne_nil_iff.2 ⟨_, hcheck, hviolated⟩, ?_⟩
      rw [hcheck]
      rfl

end Entries

/-! ## Lists of entries -/

/-- The check of entries one after the other if nothing is known beforehand. -/
def plainVerdicts (engine : SchemaEngine) (registry : Option Registry) :
    List (String × RuleEntry) → Except EntryError Unit
  | [] => .ok ()
  | (id, entry) :: rest =>
    match plainVerdict engine registry id entry with
    | .error error => .error error
    | .ok () => plainVerdicts engine registry rest

/-- An entry of a list with nothing but passing entries in front of it. -/
def ComesTo (engine : SchemaEngine) (registry : Option Registry)
    (entries : List (String × RuleEntry)) (id : String) (entry : RuleEntry) : Prop :=
  ∃ before later, entries = before ++ (id, entry) :: later ∧
    ∀ e ∈ before, Passes engine registry e.1 e.2

section Lists

variable {engine : SchemaEngine} {registry : Option Registry} {id : String} {entry : RuleEntry}
  {head : String × RuleEntry} {rest : List (String × RuleEntry)}

lemma not_comesTo_nil : ¬ ComesTo engine registry [] id entry := by
  rintro ⟨before, later, heq, -⟩
  exact absurd heq (by simp)

/-- The first entry is come to, and the others are if it passes. -/
lemma comesTo_cons_iff :
    ComesTo engine registry (head :: rest) id entry
      ↔ (id, entry) = head ∨
        Passes engine registry head.1 head.2 ∧ ComesTo engine registry rest id entry := by
  constructor
  · rintro ⟨before, later, heq, hbefore⟩
    cases before with
    | nil => exact Or.inl (List.cons.inj heq).1.symm
    | cons first before =>
        obtain ⟨rfl, hrest⟩ := List.cons.inj heq
        rw [List.forall_mem_cons] at hbefore
        exact Or.inr ⟨hbefore.1, before, later, hrest, hbefore.2⟩
  · rintro (rfl | ⟨hhead, before, later, rfl, hbefore⟩)
    · exact ⟨[], rest, rfl, fun e he => absurd he List.not_mem_nil⟩
    · exact ⟨head :: before, later, rfl, List.forall_mem_cons.2 ⟨hhead, hbefore⟩⟩

/-- More entries behind do not matter for what is come to. -/
lemma ComesTo.append {before : List (String × RuleEntry)}
    (h : ComesTo engine registry before id entry) (rest : List (String × RuleEntry)) :
    ComesTo engine registry (before ++ rest) id entry := by
  obtain ⟨earlier, later, rfl, hearlier⟩ := h
  exact ⟨earlier, later ++ rest, by simp, hearlier⟩

/-- **A list is let through if all its entries pass.** -/
theorem plainVerdicts_ok_iff {entries : List (String × RuleEntry)} :
    plainVerdicts engine registry entries = .ok ()
      ↔ ∀ e ∈ entries, Passes engine registry e.1 e.2 := by
  induction entries with
  | nil => exact ⟨fun _ e he => absurd he List.not_mem_nil, fun _ => rfl⟩
  | cons head rest ih =>
      rw [List.forall_mem_cons, ← ih, ← plainVerdict_ok_iff, plainVerdicts]
      cases plainVerdict engine registry head.1 head.2 with
      | error error => simp
      | ok _ => simp

/-- **Otherwise its error is that of the first entry that does not pass.** -/
theorem plainVerdicts_error_iff {entries : List (String × RuleEntry)} {error : EntryError} :
    plainVerdicts engine registry entries = .error error
      ↔ ∃ id entry, ComesTo engine registry entries id entry ∧
          EntryFault engine registry id entry error := by
  induction entries with
  | nil =>
      constructor
      · exact fun h => nomatch h
      · rintro ⟨id, entry, hcomes, -⟩
        exact absurd hcomes not_comesTo_nil
  | cons head rest ih =>
      rw [plainVerdicts]
      cases hhead : plainVerdict engine registry head.1 head.2 with
      | error fault =>
          have hfails : ¬ Passes engine registry head.1 head.2 := by
            rw [← plainVerdict_ok_iff, hhead]
            exact fun h => nomatch h
          constructor
          · intro h
            rw [Except.error.inj h] at hhead
            exact ⟨head.1, head.2, comesTo_cons_iff.2 (Or.inl rfl), plainVerdict_error_iff.1 hhead⟩
          · rintro ⟨id, entry, hcomes, hfault⟩
            rcases comesTo_cons_iff.1 hcomes with rfl | ⟨hpasses, -⟩
            · rw [plainVerdict_error_iff.2 hfault] at hhead
              exact hhead.symm
            · exact absurd hpasses hfails
      | ok _ =>
          have hpasses : Passes engine registry head.1 head.2 := plainVerdict_ok_iff.1 hhead
          rw [ih]
          constructor
          · rintro ⟨id, entry, hcomes, hfault⟩
            exact ⟨id, entry, comesTo_cons_iff.2 (Or.inr ⟨hpasses, hcomes⟩), hfault⟩
          · rintro ⟨id, entry, hcomes, hfault⟩
            rcases comesTo_cons_iff.1 hcomes with rfl | ⟨-, hcomes⟩
            · rw [plainVerdict_error_iff.2 hfault] at hhead
              exact nomatch hhead
            · exact ⟨id, entry, hcomes, hfault⟩

end Lists

/-! ## Reached definitions -/

/-- The definitions of the entries of a list that are come to and looked at. -/
def reachedAmong (engine : SchemaEngine) (registry : Option Registry)
    (entries : List (String × RuleEntry)) : Set RuleDefinition :=
  {rule | ∃ id entry, ComesTo engine registry entries id entry ∧ ¬ Exempt id entry ∧
    ∃ name, resolve registry id = .ok (name, rule)}

/-- The definitions that calls on a list of configurations come to. -/
def reached (engine : SchemaEngine) (history : List Configuration) : Set RuleDefinition :=
  {rule | ∃ config ∈ history, rule ∈ reachedAmong engine config.plugins config.rules.entries}

/-- The definitions in a registry. -/
def registered (registry : Option Registry) : Set RuleDefinition :=
  {rule | ∃ plugins plugin name, registry = some plugins ∧ plugins.rule? plugin name = some rule}

/-- The definitions in the registries of a list of configurations. -/
def definitionsOf (history : List Configuration) : Set RuleDefinition :=
  {rule | ∃ config ∈ history, rule ∈ registered config.plugins}

section Reached

variable {engine : SchemaEngine} {registry : Option Registry} {id : String} {entry : RuleEntry}
  {rest : List (String × RuleEntry)}

/-- The definitions of a registry with one plugin are those of the plugin. -/
lemma exists_mem_of_registered_singleton {plugin : String} {bundle : Plugin}
    {hnodup : ([(plugin, bundle)].map Prod.fst).Nodup} {rule : RuleDefinition}
    (h : rule ∈ registered (some ⟨[(plugin, bundle)], hnodup⟩)) :
    ∃ name, (name, rule) ∈ bundle.rules.entries := by
  obtain ⟨plugins, plugin', name, hplugins, hrule⟩ := h
  obtain rfl := Option.some.inj hplugins
  obtain ⟨found, hfound, hname⟩ := Option.bind_eq_some_iff.1 hrule
  rw [OrderedMap.get?_eq_some_iff, List.mem_singleton, Prod.mk.injEq] at hfound
  obtain ⟨-, rfl⟩ := hfound
  exact ⟨name, (OrderedMap.get?_eq_some_iff _).1 hname⟩

lemma mem_registered_of_resolve {name : RuleName} {rule : RuleDefinition}
    (h : resolve registry id = .ok (name, rule)) : rule ∈ registered registry := by
  obtain ⟨plugins, hplugins, hrule⟩ := rule?_of_resolve h
  exact ⟨plugins, _, _, hplugins, hrule⟩

lemma reachedAmong_nil : reachedAmong engine registry [] = ∅ := by
  ext rule
  constructor
  · rintro ⟨id, entry, hcomes, -⟩
    exact absurd hcomes not_comesTo_nil
  · exact fun h => absurd h (Set.notMem_empty rule)

/-- What a list reaches: the definition of its first entry if that is looked at, and what the other
entries reach if the first one passes. -/
lemma mem_reachedAmong_cons_iff {rule : RuleDefinition} :
    rule ∈ reachedAmong engine registry ((id, entry) :: rest)
      ↔ (¬ Exempt id entry ∧ ∃ name, resolve registry id = .ok (name, rule)) ∨
        Passes engine registry id entry ∧ rule ∈ reachedAmong engine registry rest := by
  constructor
  · rintro ⟨id', entry', hcomes, hlooked⟩
    rcases comesTo_cons_iff.1 hcomes with heq | ⟨hpasses, hcomes⟩
    · obtain ⟨rfl, rfl⟩ := Prod.mk.inj heq
      exact Or.inl hlooked
    · exact Or.inr ⟨hpasses, id', entry', hcomes, hlooked⟩
  · rintro (hlooked | ⟨hpasses, id', entry', hcomes, hlooked⟩)
    · exact ⟨id, entry, comesTo_cons_iff.2 (Or.inl rfl), hlooked⟩
    · exact ⟨id', entry', comesTo_cons_iff.2 (Or.inr ⟨hpasses, hcomes⟩), hlooked⟩

lemma reachedAmong_cons_of_exempt (hexempt : Exempt id entry) :
    reachedAmong engine registry ((id, entry) :: rest) = reachedAmong engine registry rest := by
  ext rule
  rw [mem_reachedAmong_cons_iff]
  simp [hexempt, Passes]

lemma reachedAmong_cons_of_unresolved (hexempt : ¬ Exempt id entry) {failure : LookupFailure}
    (hresolve : resolve registry id = .error failure) :
    reachedAmong engine registry ((id, entry) :: rest) = ∅ := by
  ext rule
  rw [mem_reachedAmong_cons_iff]
  simp [hexempt, hresolve, Passes, Accepted]

lemma reachedAmong_cons_of_passes (hexempt : ¬ Exempt id entry) {name : RuleName}
    {rule : RuleDefinition} (hresolve : resolve registry id = .ok (name, rule))
    (hpasses : Passes engine registry id entry) :
    reachedAmong engine registry ((id, entry) :: rest)
      = insert rule (reachedAmong engine registry rest) := by
  ext rule'
  rw [mem_reachedAmong_cons_iff]
  simp [hexempt, hresolve, hpasses, eq_comm]

lemma reachedAmong_cons_of_fails (hexempt : ¬ Exempt id entry) {name : RuleName}
    {rule : RuleDefinition} (hresolve : resolve registry id = .ok (name, rule))
    (hfails : ¬ Passes engine registry id entry) :
    reachedAmong engine registry ((id, entry) :: rest) = {rule} := by
  ext rule'
  rw [mem_reachedAmong_cons_iff]
  simp [hexempt, hresolve, hfails, eq_comm]

lemma reachedAmong_subset_append (before rest : List (String × RuleEntry)) :
    reachedAmong engine registry before ⊆ reachedAmong engine registry (before ++ rest) := by
  rintro rule ⟨id, entry, hcomes, hlooked⟩
  exact ⟨id, entry, hcomes.append rest, hlooked⟩

lemma reached_append_singleton (history : List Configuration) (config : Configuration) :
    reached engine (history ++ [config])
      = reached engine history ∪ reachedAmong engine config.plugins config.rules.entries := by
  ext rule
  simp [reached, or_and_right, exists_or]

lemma definitionsOf_mono {past history : List Configuration} (h : past ⊆ history) :
    definitionsOf past ⊆ definitionsOf history := by
  rintro rule ⟨config, hconfig, hrule⟩
  exact ⟨config, h hconfig, hrule⟩

/-- All that calls reach, and all that one more call can reach, is in the registries. -/
lemma reached_union_registered_subset {past history : List Configuration} {config : Configuration}
    (hpast : past ⊆ history) (hconfig : config ∈ history) :
    reached engine past ∪ registered config.plugins ⊆ definitionsOf history := by
  rintro rule (⟨earlier, hearlier, id, entry, -, -, name, hresolve⟩ | hrule)
  · exact ⟨earlier, hpast hearlier, mem_registered_of_resolve hresolve⟩
  · exact ⟨config, hconfig, hrule⟩

/-- A call in the middle of its entries has reached no more than the calls up to the end. -/
lemma reached_union_reachedAmong_subset {past future : List Configuration} {config : Configuration}
    {before rest : List (String × RuleEntry)} (hentries : config.rules.entries = before ++ rest) :
    reached engine past ∪ reachedAmong engine config.plugins before
      ⊆ reached engine (past ++ config :: future) := by
  rintro rule (⟨earlier, hearlier, hrule⟩ | hrule)
  · exact ⟨earlier, List.mem_append_left _ hearlier, hrule⟩
  · refine ⟨config, by simp, ?_⟩
    rw [hentries]
    exact reachedAmong_subset_append before rest hrule

end Reached

end LintConfig
