import Mathlib
import LintConfig.Rule.Identifier

/-!
# The ways to take an identifier apart

`RuleId.splits` gives every way to write an identifier as a plugin name, a slash and a rule name
(`mem_splits`), as many as there are slashes (`length_splits`).  From one to the next a part of the
rule name goes over to the plugin name (`pairwise_splits_join`), so the plugin names get longer
(`pairwise_splits`): no two of them have the same length, and the first split with some property is
the one whose plugin name is the shortest.
-/

namespace LintConfig

namespace RuleId

lemma toList_join (plugin rule : String) :
    (join plugin rule).toList = plugin.toList ++ '/' :: rule.toList := by
  simp [join]

/-- Identifiers whose plugin names have the same length are the same only part by part. -/
lemma join_inj_of_length_eq {plugin plugin' rule rule' : String}
    (hlength : plugin.length = plugin'.length) :
    join plugin rule = join plugin' rule' ↔ plugin = plugin' ∧ rule = rule' := by
  constructor
  · intro h
    rw [← String.toList_inj, toList_join, toList_join] at h
    have hlengths : plugin.toList.length = plugin'.toList.length := by
      rwa [String.length_toList, String.length_toList]
    obtain ⟨hplugin, hrule⟩ := List.append_inj h hlengths
    exact ⟨String.toList_inj.1 hplugin, String.toList_inj.1 (List.cons.inj hrule).2⟩
  · rintro ⟨rfl, rfl⟩
    rfl

lemma mem_splits {id plugin rule : String} :
    (plugin, rule) ∈ splits id ↔ join plugin rule = id := by
  rw [← String.toList_inj, toList_join, ← mem_splitsChars, splits, List.mem_map]
  constructor
  · rintro ⟨⟨before, after⟩, hmem, heq⟩
    simp only [Prod.mk.injEq] at heq
    obtain ⟨rfl, rfl⟩ := heq
    simpa using hmem
  · intro hmem
    exact ⟨_, hmem, by simp⟩

lemma length_splits (id : String) : (splits id).length = id.toList.count '/' := by
  rw [splits, List.length_map, length_splitsChars]

/-- Only an identifier without a slash cannot be taken apart. -/
lemma splits_eq_nil_iff {id : String} : splits id = [] ↔ '/' ∉ id.toList := by
  rw [← List.length_eq_zero_iff, length_splits, List.count_eq_zero]

lemma pairwise_splitsChars (cs : List Char) :
    (splitsChars cs).Pairwise fun a b =>
      ∃ between, b.1 = a.1 ++ '/' :: between ∧ a.2 = between ++ '/' :: b.2 := by
  induction cs with
  | nil => exact List.Pairwise.nil
  | cons c rest ih =>
      have hlater : ((splitsChars rest).map fun p => (c :: p.1, p.2)).Pairwise fun a b =>
          ∃ between, b.1 = a.1 ++ '/' :: between ∧ a.2 = between ++ '/' :: b.2 := by
        rw [List.pairwise_map]
        refine ih.imp ?_
        rintro a b ⟨between, hbefore, hafter⟩
        exact ⟨between, congrArg (c :: ·) hbefore, hafter⟩
      by_cases hc : c = '/'
      · simp only [splitsChars, hc, if_true]
        refine List.pairwise_cons.2 ⟨?_, by simpa [hc] using hlater⟩
        intro split hsplit
        obtain ⟨p, hp, rfl⟩ := List.mem_map.1 hsplit
        exact ⟨p.1, rfl, (mem_splitsChars.1 hp).symm⟩
      · simp only [splitsChars, hc, if_false]
        exact hlater

/-- **From one split to the next, a part of the rule name goes over to the plugin name.** -/
lemma pairwise_splits_join (id : String) :
    (splits id).Pairwise fun a b =>
      ∃ between, b.1 = join a.1 between ∧ a.2 = join between b.2 := by
  rw [splits, List.pairwise_map]
  refine (pairwise_splitsChars id.toList).imp ?_
  rintro a b ⟨between, hbefore, hafter⟩
  refine ⟨String.ofList between, String.toList_inj.1 ?_, String.toList_inj.1 ?_⟩
  · simpa [toList_join] using hbefore
  · simpa [toList_join] using hafter

/-- The identifier and its rule names: each is what follows a slash of those in front of it. -/
lemma pairwise_remainders (id : String) :
    (id :: (splits id).map Prod.snd).Pairwise fun a b => ∃ before, a = join before b := by
  refine List.pairwise_cons.2 ⟨fun after hafter => ?_, ?_⟩
  · obtain ⟨split, hsplit, rfl⟩ := List.mem_map.1 hafter
    exact ⟨split.1, (mem_splits.1 hsplit).symm⟩
  · rw [List.pairwise_map]
    refine (pairwise_splits_join id).imp ?_
    rintro a b ⟨between, -, hafter⟩
    exact ⟨between, hafter⟩

lemma length_join (plugin rule : String) :
    (join plugin rule).length = plugin.length + 1 + rule.length := by
  rw [join, String.length_append, String.length_append]
  rfl

/-- The plugin names of the splits get longer, each by at least a slash. -/
lemma pairwise_splits (id : String) :
    (splits id).Pairwise fun a b => a.1.length < b.1.length := by
  refine (pairwise_splits_join id).imp ?_
  rintro a b ⟨between, hbefore, -⟩
  rw [hbefore, length_join]
  omega

end RuleId

end LintConfig
