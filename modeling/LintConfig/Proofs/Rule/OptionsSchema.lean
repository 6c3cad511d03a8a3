import Mathlib
import LintConfig.Rule.OptionsSchema

/-!
# The two outcomes of normalization are told apart by the type

`OptionsSchema.ofDeclared` keeps a schema that admits nothing but arrays, or builds one, and turns
the others down.  So the test on the type splits the canonical schemas from the rejected ones
(`acceptsOnlyArrays_of_canonical`, `acceptsOnlyArrays_of_rejected`), and no schema is canonical for
one rule and rejected for another.
-/

namespace LintConfig

namespace OptionsSchema

lemma acceptsOnlyArrays_positional (items : List Json) :
    ∃ members, positional items = .obj members ∧ acceptsOnlyArrays members = true := by
  by_cases hempty : items.isEmpty
  · exact ⟨_, by rw [positional, if_pos hempty], rfl⟩
  · exact ⟨_, by rw [positional, if_neg hempty], rfl⟩

lemma acceptsOnlyArrays_of_canonical {declared : Option Json} {schema : Json}
    (h : ofDeclared declared = .canonical schema) :
    ∃ members, schema = .obj members ∧ acceptsOnlyArrays members = true := by
  match declared with
  | some (.arr items) =>
      obtain rfl := OptionsSchema.canonical.inj h
      exact acceptsOnlyArrays_positional items
  | some (.obj members) =>
      rw [ofDeclared] at h
      split_ifs at h with haccepts
      obtain rfl := OptionsSchema.canonical.inj h
      exact ⟨members, rfl, haccepts⟩
  | none | some .null | some (.bool _) | some (.num _) | some (.str _) => exact nomatch h

lemma acceptsOnlyArrays_of_rejected {declared : Option Json} {schema : Json}
    (h : ofDeclared declared = .rejected schema) :
    ∃ members, schema = .obj members ∧ acceptsOnlyArrays members = false := by
  match declared with
  | some (.obj members) =>
      rw [ofDeclared] at h
      split_ifs at h with haccepts
      obtain rfl := OptionsSchema.rejected.inj h
      exact ⟨members, rfl, by simpa using haccepts⟩
  | none | some (.arr _) | some .null | some (.bool _) | some (.num _) | some (.str _) =>
      exact nomatch h

/-- **A rejected schema is canonical for no rule.** -/
theorem ne_of_rejected_of_canonical {declared declared' : Option Json} {schema schema' : Json}
    (hrejected : ofDeclared declared = .rejected schema)
    (hcanonical : ofDeclared declared' = .canonical schema') : schema ≠ schema' := by
  obtain ⟨members, rfl, hfalse⟩ := acceptsOnlyArrays_of_rejected hrejected
  obtain ⟨members', rfl, htrue⟩ := acceptsOnlyArrays_of_canonical hcanonical
  intro heq
  rw [Json.obj.inj heq, htrue] at hfalse
  exact nomatch hfalse

end OptionsSchema

end LintConfig
