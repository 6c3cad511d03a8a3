import Mathlib
import LintConfig.OrderedMap

/-!
# What registration keeps

Pairs that are registered one after the other leave a map in which every key stands at the place of
its first pair (`keys_ofList`) with the value of its last one (`get?_ofList_eq_some_iff`).  Both are
by induction on the list from its end, where one registration is added.
-/

namespace LintConfig

namespace OrderedMap

variable {α β : Type} [DecidableEq α] {l : List (α × β)} {k : α} {v : β}

lemma ofList_append_singleton (l : List (α × β)) (e : α × β) :
    ofList (l ++ [e]) = (ofList l).insert e.1 e.2 := by
  rw [ofList, List.foldl_append]
  rfl

lemma eraseDups_append_singleton (keys : List α) (k : α) :
    (keys ++ [k]).eraseDups
      = if k ∈ keys.eraseDups then keys.eraseDups else keys.eraseDups ++ [k] := by
  rw [List.eraseDups_append]
  by_cases h : k ∈ keys
  · rw [if_pos (List.mem_eraseDups.2 h)]
    simp [List.cons_removeAll, h]
  · rw [if_neg (mt List.mem_eraseDups.1 h)]
    simp [List.cons_removeAll, List.eraseDups_cons, h]

/-- **Keys keep the order of their first appearances.** -/
theorem keys_ofList (l : List (α × β)) : (ofList l).keys = (l.map Prod.fst).eraseDups := by
  induction l using List.reverseRecOn with
  | nil => rfl
  | append_singleton l e ih =>
      rw [ofList_append_singleton, keys_insert, ih, List.map_append, List.map_singleton,
        eraseDups_append_singleton]

/-- **A key has the value of its last pair.** -/
theorem get?_ofList_eq_some_iff :
    (ofList l).get? k = some v
      ↔ ∃ before later, l = before ++ (k, v) :: later ∧ k ∉ later.map Prod.fst := by
  have hlookup : (ofList l).get? k = l.reverse.lookup k := by
    induction l using List.reverseRecOn with
    | nil => rfl
    | append_singleton l e ih =>
        rw [ofList_append_singleton, get?_insert, ih, List.reverse_append, List.reverse_singleton,
          List.singleton_append, List.lookup_cons]
        by_cases h : e.1 = k
        · simp [h]
        · simp [h, beq_false_of_ne (Ne.symm h)]
  rw [hlookup, List.lookup_eq_some_iff]
  constructor
  · rintro ⟨later, before, hreverse, hlater⟩
    refine ⟨before.reverse, later.reverse, ?_, ?_⟩
    · rw [← List.reverse_reverse l, hreverse]
      simp
    · intro hmem
      obtain ⟨e, he, rfl⟩ := List.mem_map.1 hmem
      exact absurd (hlater e (List.mem_reverse.1 he)) (by simp)
  · rintro ⟨before, later, rfl, hlater⟩
    refine ⟨later.reverse, before.reverse, by simp, fun e he => ?_⟩
    rw [bne_iff_ne]
    rintro rfl
    exact hlater (List.mem_map_of_mem (List.mem_reverse.1 he))

/-- A pair that is registered among others is found under its key, and in the way of none of them,
if its key is not registered again. -/
lemma get?_ofList_insert {before after : List (α × β)} (h : k ∉ after.map Prod.fst) (j : α) :
    (ofList (before ++ (k, v) :: after)).get? j
      = if k = j then some v else (ofList (before ++ after)).get? j := by
  induction after using List.reverseRecOn with
  | nil => rw [List.append_nil, ofList_append_singleton, get?_insert]
  | append_singleton after e ih =>
      rw [List.map_append, List.mem_append, not_or, List.map_singleton, List.mem_singleton] at h
      rw [← List.cons_append, ← List.append_assoc, ← List.append_assoc, ofList_append_singleton,
        ofList_append_singleton, get?_insert, get?_insert, ih h.1]
      by_cases hj : e.1 = j
      · rw [if_pos hj, if_pos hj, if_neg (hj ▸ h.2)]
      · rw [if_neg hj, if_neg hj]

/-- Applying a function to every value applies it to what is found. -/
lemma get?_mapValues {γ : Type} (f : β → γ) (m : OrderedMap α β) (k : α) :
    (m.mapValues f).get? k = (m.get? k).map f := by
  have hfind : ∀ l : List (α × β), find k (l.map fun e => (e.1, f e.2)) = (find k l).map f := by
    intro l
    induction l with
    | nil => rfl
    | cons e l ih =>
        by_cases h : e.1 = k
        · simp [find, h]
        · simp [find, h, ih]
  exact hfind m.entries

end OrderedMap

end LintConfig
