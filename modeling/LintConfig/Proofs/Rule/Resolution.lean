import LintConfig.Rule.Resolution
import LintConfig.Proofs.Rule.Identifier

/-!
# What an identifier denotes

**The grammar.**  `Denotes` says which rule an identifier denotes, or which kind of failure it is:
a bare identifier denotes a built-in rule, one with slashes the rule of its registered reading with
the shortest plugin name.  It looks at no search and at no order of registration.

**The search.**  `Registry.find` has a branch for no slash, one for a single slash and one for more.
The last two are one search (`kind_find_of_slash`): the first split that names a rule.

* `findSome?_ruleOfSplit?_eq_some_iff`: that split is the reading with the shortest plugin name.
* `resolve_iff_denotes`: resolution decides the grammar, on every registry and every string.
-/

namespace LintConfig

/-- A registered reading of an identifier: a plugin name and a rule name around one of its slashes,
neither of them empty, with the definition that the registry gives them. -/
structure Registry.Reads (registry : Registry) (id plugin rule : String)
    (definition : RuleDefinition) : Prop where
  joined : plugin ++ "/" ++ rule = id
  plugin_ne : plugin ≠ ""
  rule_ne : rule ≠ ""
  registered : registry.rule? plugin rule = some definition

/-- What an identifier denotes: a rule with its definition, or a kind of failure. -/
inductive Denotes :
    Option Registry → String → Except LookupKind (RuleName × RuleDefinition) → Prop where
  | noRegistry {id : String} : Denotes none id (.error .notInAnyPlugin)
  | emptyIdentifier {registry : Option Registry} : Denotes registry "" (.error .notInAnyPlugin)
  | builtin {registry : Registry} {id : String} {definition : RuleDefinition} :
      id ≠ "" → '/' ∉ id.toList → registry.rule? builtinName id = some definition →
      Denotes (some registry) id (.ok (⟨builtinName, id⟩, definition))
  | notBuiltin {registry : Registry} {id : String} :
      id ≠ "" → '/' ∉ id.toList → registry.rule? builtinName id = none →
      Denotes (some registry) id (.error .noBuiltIn)
  | shortest {registry : Registry} {id plugin rule : String} {definition : RuleDefinition} :
      registry.Reads id plugin rule definition →
      (∀ plugin' rule' definition', registry.Reads id plugin' rule' definition' →
        ¬ plugin'.length < plugin.length) →
      Denotes (some registry) id (.ok (⟨plugin, rule⟩, definition))
  | noReadingOfOne {registry : Registry} {id : String} :
      id.toList.count '/' = 1 →
      (∀ plugin rule definition, ¬ registry.Reads id plugin rule definition) →
      Denotes (some registry) id (.error .notInSpecifiedPlugin)
  | noReadingOfMany {registry : Registry} {id : String} :
      2 ≤ id.toList.count '/' →
      (∀ plugin rule definition, ¬ registry.Reads id plugin rule definition) →
      Denotes (some registry) id (.error .notInAnyPlugin)

namespace Registry

/-! ## One split -/

lemma Reads.slash_mem {registry : Registry} {id plugin rule : String} {definition : RuleDefinition}
    (h : registry.Reads id plugin rule definition) : '/' ∈ id.toList := by
  rw [← h.joined]
  simp

lemma Reads.mem_splits {registry : Registry} {id plugin rule : String} {definition : RuleDefinition}
    (h : registry.Reads id plugin rule definition) : (plugin, rule) ∈ RuleId.splits id :=
  RuleId.mem_splits.2 h.joined

/-- A split names a rule exactly when it is a reading with the definition of that rule. -/
lemma ruleOfSplit?_eq_some_iff {registry : Registry} {id : String} {split : String × String}
    (hsplit : split ∈ RuleId.splits id) {name : RuleName} {definition : RuleDefinition} :
    registry.ruleOfSplit? split = some (name, definition)
      ↔ name = ⟨split.1, split.2⟩ ∧ registry.Reads id split.1 split.2 definition := by
  have hjoined : split.1 ++ "/" ++ split.2 = id := RuleId.mem_splits.1 hsplit
  by_cases hempty : split.1 = "" ∨ split.2 = ""
  · simp only [ruleOfSplit?, hempty, if_true, reduceCtorEq, false_iff, not_and]
    rintro - hreads
    exact hempty.elim hreads.plugin_ne hreads.rule_ne
  · simp only [ruleOfSplit?, hempty, if_false, Option.map_eq_some_iff, Prod.mk.injEq]
    rw [not_or] at hempty
    constructor
    · rintro ⟨rule, hrule, rfl, rfl⟩
      exact ⟨rfl, hjoined, hempty.1, hempty.2, hrule⟩
    · rintro ⟨rfl, hreads⟩
      exact ⟨definition, hreads.registered, rfl, rfl⟩

/-- A split names no rule exactly when it is not a reading. -/
lemma ruleOfSplit?_eq_none_iff {registry : Registry} {id : String} {split : String × String}
    (hsplit : split ∈ RuleId.splits id) :
    registry.ruleOfSplit? split = none
      ↔ ∀ definition, ¬ registry.Reads id split.1 split.2 definition := by
  rw [Option.eq_none_iff_forall_ne_some]
  constructor
  · intro h definition hreads
    exact h _ ((ruleOfSplit?_eq_some_iff hsplit).2 ⟨rfl, hreads⟩)
  · rintro h ⟨name, definition⟩ hsome
    exact h definition ((ruleOfSplit?_eq_some_iff hsplit).1 hsome).2

/-! ## The search among the splits -/

lemma findSome?_ruleOfSplit?_eq_none_iff {registry : Registry} {id : String} :
    (RuleId.splits id).findSome? registry.ruleOfSplit? = none
      ↔ ∀ plugin rule definition, ¬ registry.Reads id plugin rule definition := by
  rw [List.findSome?_eq_none_iff]
  constructor
  · intro h plugin rule definition hreads
    exact (ruleOfSplit?_eq_none_iff hreads.mem_splits).1 (h _ hreads.mem_splits) definition hreads
  · intro h split hsplit
    exact (ruleOfSplit?_eq_none_iff hsplit).2 (h split.1 split.2)

/-- **The first split that names a rule is the shortest reading.**  The splits before it have
shorter plugin names and are no readings, those after it have longer ones. -/
theorem findSome?_ruleOfSplit?_eq_some_iff {registry : Registry} {id plugin rule : String}
    {definition : RuleDefinition} :
    (RuleId.splits id).findSome? registry.ruleOfSplit? = some (⟨plugin, rule⟩, definition)
      ↔ registry.Reads id plugin rule definition ∧
        ∀ plugin' rule' definition', registry.Reads id plugin' rule' definition' →
          ¬ plugin'.length < plugin.length := by
  have hincreasing := RuleId.pairwise_splits id
  rw [List.findSome?_eq_some_iff]
  constructor
  · rintro ⟨shorter, split, longer, hsplits, hfound, hnone⟩
    have hmem : split ∈ RuleId.splits id := by rw [hsplits]; simp
    obtain ⟨hname, hreads⟩ := (ruleOfSplit?_eq_some_iff hmem).1 hfound
    simp only [RuleName.mk.injEq] at hname
    obtain ⟨rfl, rfl⟩ := hname
    refine ⟨hreads, fun plugin' rule' definition' hreads' hlt => ?_⟩
    have hmem' := hreads'.mem_splits
    rw [hsplits] at hincreasing hmem'
    rcases List.mem_append.1 hmem' with hshorter | hlater
    · have hsome := (ruleOfSplit?_eq_some_iff hreads'.mem_splits).2 ⟨rfl, hreads'⟩
      rw [hnone _ hshorter] at hsome
      exact nomatch hsome
    · rcases List.mem_cons.1 hlater with rfl | hlonger
      · exact absurd hlt (Nat.lt_irrefl _)
      · have hgt := (List.pairwise_cons.1 (List.pairwise_append.1 hincreasing).2.1).1 _ hlonger
        exact absurd hlt (Nat.lt_asymm hgt)
  · rintro ⟨hreads, hleast⟩
    obtain ⟨shorter, longer, hsplits⟩ := List.append_of_mem hreads.mem_splits
    refine ⟨shorter, (plugin, rule), longer, hsplits,
      (ruleOfSplit?_eq_some_iff hreads.mem_splits).2 ⟨rfl, hreads⟩, fun split hshorter => ?_⟩
    have hmem : split ∈ RuleId.splits id := by rw [hsplits]; simp [hshorter]
    refine (ruleOfSplit?_eq_none_iff hmem).2 fun definition' hreads' => ?_
    rw [hsplits] at hincreasing
    have hlt := (List.pairwise_append.1 hincreasing).2.2 split hshorter (plugin, rule) (by simp)
    exact hleast _ _ _ hreads' hlt

/-! ## Finding a rule -/

lemma find_of_bare {registry : Registry} {id : String} (hbare : '/' ∉ id.toList) :
    registry.find id
      = match registry.rule? builtinName id with
        | some definition => .ok (⟨builtinName, id⟩, definition)
        | none => .error (.notBuiltIn id) := by
  have hsplits : RuleId.splits id = [] := RuleId.splits_eq_nil_iff.2 hbare
  cases hrule : registry.rule? builtinName id with
  | some definition => simp only [find, hsplits, hrule]
  | none => simp only [find, hsplits, hrule]

/-- With one slash or with more, the search is the same; only the failures differ. -/
lemma kind_find_of_slash {registry : Registry} {id : String} (hslash : '/' ∈ id.toList) :
    (registry.find id).mapError LookupFailure.kind
      = match (RuleId.splits id).findSome? registry.ruleOfSplit? with
        | some found => .ok found
        | none => .error (if id.toList.count '/' = 1 then .notInSpecifiedPlugin
            else .notInAnyPlugin) := by
  rw [find, ← RuleId.length_splits]
  match hsplits : RuleId.splits id with
  | [] => exact absurd hslash (RuleId.splits_eq_nil_iff.1 hsplits)
  | [split] =>
      cases hfound : registry.ruleOfSplit? split with
      | some found => simp [hfound, Except.mapError]
      | none =>
          by_cases hplugin : (registry.get? split.1).isSome
          · simp [hfound, hplugin, Except.mapError, LookupFailure.kind]
          · simp [hfound, hplugin, Except.mapError, LookupFailure.kind]
  | split :: split' :: rest =>
      cases hfound : (split :: split' :: rest).findSome? registry.ruleOfSplit? with
      | some found => simp [hfound, Except.mapError]
      | none => simp [hfound, Except.mapError, LookupFailure.kind]

end Registry

/-! ## Resolution -/

/-- What resolution answers is something that the identifier denotes. -/
lemma denotes_kind_resolve (registry : Option Registry) (id : String) :
    Denotes registry id ((resolve registry id).mapError LookupFailure.kind) := by
  by_cases hid : id = ""
  · subst hid
    exact Denotes.emptyIdentifier
  cases registry with
  | none =>
      rw [resolve, if_neg hid]
      exact Denotes.noRegistry
  | some registry =>
      rw [resolve, if_neg hid]
      by_cases hslash : '/' ∈ id.toList
      · rw [Registry.kind_find_of_slash hslash]
        cases hfound : (RuleId.splits id).findSome? registry.ruleOfSplit? with
        | some found =>
            obtain ⟨hreads, hleast⟩ := Registry.findSome?_ruleOfSplit?_eq_some_iff.1 hfound
            exact Denotes.shortest hreads hleast
        | none =>
            have hnone := Registry.findSome?_ruleOfSplit?_eq_none_iff.1 hfound
            have hpos : 0 < id.toList.count '/' := List.count_pos_iff.2 hslash
            by_cases hone : id.toList.count '/' = 1
            · simp only [hone, if_true]
              exact Denotes.noReadingOfOne hone hnone
            · simp only [hone, if_false]
              exact Denotes.noReadingOfMany (by omega) hnone
      · rw [Registry.find_of_bare hslash]
        cases hrule : registry.rule? builtinName id with
        | some definition => exact Denotes.builtin hid hslash hrule
        | none => exact Denotes.notBuiltin hid hslash hrule

/-- An identifier with slashes is resolved by the search among its splits. -/
lemma kind_resolve_of_slash {registry : Registry} {id : String} (hslash : '/' ∈ id.toList) :
    (resolve (some registry) id).mapError LookupFailure.kind
      = match (RuleId.splits id).findSome? registry.ruleOfSplit? with
        | some found => .ok found
        | none => .error (if id.toList.count '/' = 1 then .notInSpecifiedPlugin
            else .notInAnyPlugin) := by
  have hid : id ≠ "" := by
    rintro rfl
    simp at hslash
  rw [resolve, if_neg hid]
  exact Registry.kind_find_of_slash hslash

/-- An identifier denotes nothing but what resolution answers. -/
lemma kind_resolve_of_denotes {registry : Option Registry} {id : String}
    {outcome : Except LookupKind (RuleName × RuleDefinition)}
    (h : Denotes registry id outcome) :
    (resolve registry id).mapError LookupFailure.kind = outcome := by
  cases h with
  | noRegistry =>
      by_cases hid : id = ""
      · simp [resolve, hid, Except.mapError, LookupFailure.kind]
      · simp [resolve, hid, Except.mapError, LookupFailure.kind]
  | emptyIdentifier => rfl
  | builtin hid hbare hrule =>
      rw [resolve, if_neg hid]
      simp [Registry.find_of_bare hbare, hrule, Except.mapError]
  | notBuiltin hid hbare hrule =>
      rw [resolve, if_neg hid]
      simp [Registry.find_of_bare hbare, hrule, Except.mapError, LookupFailure.kind]
  | shortest hreads hleast =>
      rw [kind_resolve_of_slash hreads.slash_mem,
        Registry.findSome?_ruleOfSplit?_eq_some_iff.2 ⟨hreads, hleast⟩]
  | noReadingOfOne hone hnone =>
      have hslash : '/' ∈ id.toList := List.count_pos_iff.1 (by omega)
      rw [kind_resolve_of_slash hslash, Registry.findSome?_ruleOfSplit?_eq_none_iff.2 hnone]
      simp only [hone, if_true]
  | noReadingOfMany hmany hnone =>
      have hslash : '/' ∈ id.toList := List.count_pos_iff.1 (by omega)
      have hone : id.toList.count '/' ≠ 1 := by omega
      rw [kind_resolve_of_slash hslash, Registry.findSome?_ruleOfSplit?_eq_none_iff.2 hnone]
      simp only [hone, if_false]

section Bare

variable {registry : Registry} {id : String} {name : RuleName} {definition : RuleDefinition}

/-- An identifier without slashes denotes a built-in rule. -/
lemma resolve_of_bare_iff (hid : id ≠ "") (hbare : '/' ∉ id.toList) :
    resolve (some registry) id = .ok (name, definition)
      ↔ name = ⟨"@", id⟩ ∧ registry.rule? "@" id = some definition := by
  rw [resolve, if_neg hid]
  simp only [Registry.find_of_bare hbare, builtinName]
  cases registry.rule? "@" id with
  | none => simp
  | some found => simp [eq_comm]

/-- Nothing is resolved without an identifier. -/
lemma ne_empty_of_resolve (h : resolve (some registry) id = .ok (name, definition)) : id ≠ "" := by
  rintro rfl
  exact nomatch h

end Bare

/-- **Resolution decides the grammar of identifiers.**  On every string and every registry, in
whatever order its plugins and their rules were registered, it answers what the identifier denotes
and nothing else: the rule with the definition the registry gives it, or the kind of failure. -/
theorem resolve_iff_denotes (registry : Option Registry) (id : String)
    (outcome : Except LookupKind (RuleName × RuleDefinition)) :
    (resolve registry id).mapError LookupFailure.kind = outcome ↔ Denotes registry id outcome := by
  constructor
  · rintro rfl
    exact denotes_kind_resolve registry id
  · exact kind_resolve_of_denotes

/-- A resolved definition is the one that the registry gives for its name. -/
lemma rule?_of_resolve {registry : Option Registry} {id : String} {name : RuleName}
    {definition : RuleDefinition} (h : resolve registry id = .ok (name, definition)) :
    ∃ plugins, registry = some plugins ∧ plugins.rule? name.plugin name.rule = some definition := by
  have hdenotes := denotes_kind_resolve registry id
  rw [h] at hdenotes
  cases hdenotes with
  | builtin _ _ hrule => exact ⟨_, rfl, hrule⟩
  | shortest hreads _ => exact ⟨_, rfl, hreads.registered⟩

end LintConfig
