import Mathlib
import LintConfig.Proofs.Json.Sorting
import LintConfig.Proofs.Schema.Compiler

/-!
# One key for each schema

A schema is remembered by the text of its sorted tree.  A text determines its tree
(`cacheKey_injective`) and a value has one sorted tree (`Json.eq_of_value_eq`), so two schemas have
one key exactly if they are one value: objects are compared as maps, numbers by their kind, strings
character by character (`cacheKey_faithful`).
-/

namespace LintConfig

namespace SchemaCompiler

variable {engine : SchemaEngine} {c : SchemaCompiler} {a b : Json}

/-- Schemas have one key exactly if they are one value. -/
lemma cacheKey_sort_eq_iff : cacheKey a.sort = cacheKey b.sort ↔ a.value = b.value :=
  cacheKey_injective.eq_iff.trans Json.sort_eq_sort_iff

/-- A schema that has been compiled is remembered under every tree of its value. -/
lemma get?_compile_of_value_eq (h : a.value = b.value) :
    (c.compile engine a.sort).2.checks.get? (cacheKey b.sort)
      = (c.checks.get? (cacheKey a.sort) <|> engine a.sort) := by
  rw [get?_compile, ← cacheKey_sort_eq_iff.2 h, if_pos rfl]

lemma get?_compile_of_value_ne (h : a.value ≠ b.value) :
    (c.compile engine a.sort).2.checks.get? (cacheKey b.sort)
      = c.checks.get? (cacheKey b.sort) := by
  rw [get?_compile, if_neg (mt cacheKey_sort_eq_iff.1 h)]

lemma get?_evict_of_value_eq (h : a.value = b.value) :
    (c.evict a.sort).2.checks.get? (cacheKey b.sort) = none := by
  rw [get?_evict, if_pos (cacheKey_sort_eq_iff.2 h).symm]

lemma get?_evict_of_value_ne (h : a.value ≠ b.value) :
    (c.evict a.sort).2.checks.get? (cacheKey b.sort) = c.checks.get? (cacheKey b.sort) := by
  rw [get?_evict, if_neg (mt cacheKey_sort_eq_iff.1 (Ne.symm h))]

/-- **The key of a schema is faithful.**

* Sorted trees, and trees of any order once they are sorted, have one key exactly if they have one
  value.  In particular the order of members does not matter.
* So one value has one place in the cache, whatever else the cache holds: compiling a schema
  remembers it, and evicting it forgets it, under all trees of its value and under no other. -/
theorem cacheKey_faithful :
    (∀ a b : Json, a.Sorted → b.Sorted → (cacheKey a = cacheKey b ↔ a.value = b.value))
      ∧ (∀ a b : Json, cacheKey a.sort = cacheKey b.sort ↔ a.value = b.value)
      ∧ (∀ members members' : List (String × Json), members.Perm members' →
          (members.map Prod.fst).Nodup →
          cacheKey (Json.obj members).sort = cacheKey (Json.obj members').sort)
      ∧ ∀ (engine : SchemaEngine) (c : SchemaCompiler) (a b : Json),
          (a.value = b.value →
              (c.compile engine a.sort).2.checks.get? (cacheKey b.sort)
                  = (c.checks.get? (cacheKey a.sort) <|> engine a.sort)
                ∧ (c.evict a.sort).2.checks.get? (cacheKey b.sort) = none)
            ∧ (a.value ≠ b.value →
              (c.compile engine a.sort).2.checks.get? (cacheKey b.sort)
                  = c.checks.get? (cacheKey b.sort)
                ∧ (c.evict a.sort).2.checks.get? (cacheKey b.sort)
                  = c.checks.get? (cacheKey b.sort)) := by
  refine ⟨fun a b ha hb => ?_, fun a b => cacheKey_sort_eq_iff, fun members members' hperm h => ?_,
    fun engine c a b => ⟨fun h => ?_, fun h => ?_⟩⟩
  · rw [← cacheKey_sort_eq_iff, Json.sort_eq_self ha, Json.sort_eq_self hb]
  · refine cacheKey_sort_eq_iff.2 ?_
    rw [Json.value, Json.value, Json.bindings_perm hperm h]
  · exact ⟨get?_compile_of_value_eq h, get?_evict_of_value_eq h⟩
  · exact ⟨get?_compile_of_value_ne h, get?_evict_of_value_ne h⟩

/-- The double one. -/
def oneDouble : Double := ⟨false, 0x10000000000000, -52, by decide⟩

/-- Trees that differ in the order of members, inside of an array too, have one key.  Values that
look like each other have two: an integer and a double, the two zeros, and a string with quotes, a
backslash and a line feed in it and the array whose text it is. -/
theorem cacheKey_faithful_lookalikes :
    cacheKey (Json.obj [("b", 1), ("a", .arr [.obj [("d", .null), ("c", "x")]])]).sort
        = cacheKey (Json.obj [("a", .arr [.obj [("c", "x"), ("d", .null)]]), ("b", 1)]).sort
      ∧ cacheKey 1 ≠ cacheKey (.num (.double oneDouble))
      ∧ cacheKey (.num (.double (.zero false))) ≠ cacheKey (.num (.double (.zero true)))
      ∧ cacheKey (.str "[\"\\\\\\n\"]") ≠ cacheKey (.arr [.str "\\\n"]) := by
  obtain ⟨hsorted, htrees, hperm, -⟩ := cacheKey_faithful
  have hne : ∀ a b : Json, a.Sorted → b.Sorted → a.value ≠ b.value → cacheKey a ≠ cacheKey b :=
    fun a b ha hb hvalue => mt (hsorted a b ha hb).1 hvalue
  have hinner : (Json.arr [.obj [("d", .null), ("c", "x")]]).value
      = (Json.arr [.obj [("c", "x"), ("d", .null)]]).value :=
    congrArg (fun bound => Json.Value.arr [.obj bound])
      (Json.bindings_perm (List.Perm.swap _ _ _) (by decide))
  refine ⟨?_, ?_, ?_, ?_⟩
  · refine (hperm _ _ (List.Perm.swap _ _ _) (by decide)).trans ((htrees _ _).2 ?_)
    refine congrArg Json.Value.obj (funext fun name => ?_)
    rw [Json.bindings, Json.bindings, hinner]
    rfl
  · refine hne _ _ ?_ ?_ fun h => ?_
    · trivial
    · trivial
    · exact absurd (Json.Value.num.inj h) (by decide)
  · refine hne _ _ ?_ ?_ fun h => ?_
    · trivial
    · trivial
    · exact absurd (Json.Value.num.inj h) (by decide)
  · refine hne _ _ ?_ ?_ fun h => ?_
    · trivial
    · exact ⟨trivial, trivial⟩
    · exact Json.Value.noConfusion h

end SchemaCompiler

end LintConfig
