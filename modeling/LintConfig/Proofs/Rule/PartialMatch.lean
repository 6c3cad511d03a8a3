import Mathlib
import LintConfig.Proofs.Rule.Identifier
import LintConfig.Rule.Suggestion

/-!
# Partial matches and their order

`partialMatches` lists texts.  Two different rules may give the same text, since plugin and rule
names may both hold slashes, so how often and in which order it lists its finds can only be said of
the pairs behind the texts.

**Pairs.**  `IsPartialMatch` says which rules a failed lookup may have meant.  `matchingRules` lists
their names, and `partialMatches` gives the identifier of each (`partialMatches_eq_map`).

**Order.**  The searched names get shorter from one to the next (`pairwise_searchedNames`), and for
one name the plugins come in the order of registration.  Any two pairs differ in one of the two, so
none is listed twice.
-/

namespace LintConfig

/-- The places of a list without repetitions go up along the list. -/
lemma pairwise_idxOf_of_nodup {α : Type} [DecidableEq α] {l : List α} (h : l.Nodup) :
    l.Pairwise fun a b => l.idxOf a < l.idxOf b := by
  rw [List.pairwise_iff_getElem]
  intro i j hi hj hij
  rw [h.idxOf_getElem, h.idxOf_getElem]
  exact hij

/-- A rule that a failed lookup may have meant: one that a registered plugin has under the whole
identifier or under what follows one of its slashes. -/
structure IsPartialMatch (registry : Registry) (id plugin name : String) : Prop where
  name_ne : name ≠ ""
  searched : name = id ∨ ∃ before, RuleId.join before name = id
  registered : ∃ p, registry.get? plugin = some p ∧ (p.rule? name).isSome

/-- The plugin and rule names behind the partial matches, in their order. -/
def matchingRules (registry : Registry) (id : String) : List (String × String) :=
  (searchedNames id).flatMap fun name =>
    (registry.entries.filter fun e => (e.2.rule? name).isSome).map fun e => (e.1, name)

section Matches

variable {registry : Registry} {id plugin name candidate : String}

lemma isSome_rule?_iff :
    (registry.rule? plugin name).isSome
      ↔ ∃ p, registry.get? plugin = some p ∧ (p.rule? name).isSome := by
  rw [Registry.rule?, Option.isSome_bind]
  cases registry.get? plugin with
  | none => simp
  | some p => simp

lemma mem_searchedNames_iff :
    name ∈ searchedNames id
      ↔ (name = id ∨ ∃ before, RuleId.join before name = id) ∧ name ≠ "" := by
  rw [searchedNames, List.mem_filter, List.mem_cons, List.mem_map, decide_eq_true_iff]
  refine and_congr_left' (or_congr_right ?_)
  constructor
  · rintro ⟨⟨before, name⟩, hsplit, rfl⟩
    exact ⟨before, RuleId.mem_splits.1 hsplit⟩
  · rintro ⟨before, hjoin⟩
    exact ⟨(before, name), RuleId.mem_splits.2 hjoin, rfl⟩

lemma partialMatches_eq_map :
    partialMatches registry id
      = (matchingRules registry id).map fun m => RuleId.join m.1 m.2 := by
  simp only [partialMatches, matchingRules, List.map_flatMap, List.map_map, Function.comp_def]

/-- **Sound and complete**: the pairs are those of the rules that may have been meant. -/
lemma mem_matchingRules_iff :
    (plugin, name) ∈ matchingRules registry id ↔ IsPartialMatch registry id plugin name := by
  rw [matchingRules, List.mem_flatMap]
  constructor
  · rintro ⟨name', hname, hmem⟩
    obtain ⟨⟨plugin', p⟩, hentry, heq⟩ := List.mem_map.1 hmem
    obtain ⟨rfl, rfl⟩ := Prod.mk.inj heq
    obtain ⟨hentry, hrule⟩ := List.mem_filter.1 hentry
    obtain ⟨hsearched, hne⟩ := mem_searchedNames_iff.1 hname
    exact ⟨hne, hsearched, p, (OrderedMap.get?_eq_some_iff _).2 hentry, hrule⟩
  · rintro ⟨hne, hsearched, p, hplugin, hrule⟩
    refine ⟨name, mem_searchedNames_iff.2 ⟨hsearched, hne⟩, List.mem_map.2 ⟨(plugin, p), ?_, rfl⟩⟩
    exact List.mem_filter.2 ⟨(OrderedMap.get?_eq_some_iff _).1 hplugin, hrule⟩

lemma mem_partialMatches_iff :
    candidate ∈ partialMatches registry id
      ↔ ∃ name ∈ searchedNames id, ∃ plugin,
          (registry.rule? plugin name).isSome ∧ candidate = RuleId.join plugin name := by
  rw [partialMatches_eq_map, List.mem_map]
  constructor
  · rintro ⟨⟨plugin, name⟩, hmem, rfl⟩
    obtain ⟨hne, hsearched, hregistered⟩ := mem_matchingRules_iff.1 hmem
    exact ⟨name, mem_searchedNames_iff.2 ⟨hsearched, hne⟩, plugin,
      isSome_rule?_iff.2 hregistered, rfl⟩
  · rintro ⟨name, hname, plugin, hrule, rfl⟩
    obtain ⟨hsearched, hne⟩ := mem_searchedNames_iff.1 hname
    exact ⟨(plugin, name),
      mem_matchingRules_iff.2 ⟨hne, hsearched, isSome_rule?_iff.1 hrule⟩, rfl⟩

/-- The remainders of an identifier get shorter, each by at least a slash. -/
lemma pairwise_searchedNames (id : String) :
    (searchedNames id).Pairwise fun a b => b.length < a.length := by
  refine ((RuleId.pairwise_remainders id).imp ?_).filter _
  rintro a b ⟨before, rfl⟩
  rw [RuleId.length_join]
  omega

/-- **Ordered**: longer names first, and for one name the plugins as they are registered. -/
lemma pairwise_matchingRules (registry : Registry) (id : String) :
    (matchingRules registry id).Pairwise fun a b =>
      b.2.length < a.2.length
        ∨ a.2 = b.2 ∧ registry.keys.idxOf a.1 < registry.keys.idxOf b.1 := by
  rw [matchingRules, List.pairwise_flatMap]
  constructor
  · intro name _
    rw [List.pairwise_map]
    have hentries := List.pairwise_map.1 (pairwise_idxOf_of_nodup registry.nodup)
    exact (hentries.filter _).imp fun hbefore => Or.inr ⟨rfl, hbefore⟩
  · refine (pairwise_searchedNames id).imp fun hshorter a ha b hb => Or.inl ?_
    obtain ⟨_, _, rfl⟩ := List.mem_map.1 ha
    obtain ⟨_, _, rfl⟩ := List.mem_map.1 hb
    exact hshorter

/-- No pair comes before itself. -/
lemma nodup_matchingRules (registry : Registry) (id : String) :
    (matchingRules registry id).Nodup := by
  refine (pairwise_matchingRules registry id).imp fun hbefore heq => ?_
  subst heq
  rcases hbefore with hshorter | ⟨-, hearlier⟩
  · exact lt_irrefl _ hshorter
  · exact lt_irrefl _ hearlier

end Matches

/-- **The partial matches are the identifiers of the rules that may have been meant**, one for each
pair of a plugin and a rule name, by falling length of the rule name and for one rule name in the
order of registration.  There are none exactly if there is no such rule. -/
theorem partialMatches_listing (registry : Registry) (id : String) :
    ∃ found : List (String × String),
      partialMatches registry id = found.map (fun m => m.1 ++ "/" ++ m.2)
        ∧ found.Nodup
        ∧ (∀ plugin name, (plugin, name) ∈ found ↔ IsPartialMatch registry id plugin name)
        ∧ found.Pairwise (fun a b =>
            b.2.length < a.2.length
              ∨ a.2 = b.2 ∧ registry.keys.idxOf a.1 < registry.keys.idxOf b.1)
        ∧ ((partialMatches registry id).isEmpty = true
            ↔ ¬ ∃ plugin name, IsPartialMatch registry id plugin name) := by
  refine ⟨matchingRules registry id, partialMatches_eq_map, nodup_matchingRules registry id,
    fun plugin name => mem_matchingRules_iff, pairwise_matchingRules registry id, ?_⟩
  rw [partialMatches_eq_map, List.isEmpty_iff, List.map_eq_nil_iff, List.eq_nil_iff_forall_not_mem]
  constructor
  · rintro hnone ⟨plugin, name, hmatch⟩
    exact hnone (plugin, name) (mem_matchingRules_iff.2 hmatch)
  · rintro hnone ⟨plugin, name⟩ hmem
    exact hnone ⟨plugin, name, mem_matchingRules_iff.1 hmem⟩

end LintConfig
