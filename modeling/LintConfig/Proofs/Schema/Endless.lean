import Mathlib
import LintConfig.Proofs.Schema.Following
import LintConfig.Proofs.Schema.Plain

/-!
# Which checks come to an end

A reference is followed without bound if its target asks for it again about the same value.
`CompiledSchema.follow` cannot tell this from a long way, so it has to be known how long a way can
be.

**Growth.**  Following more references keeps the answers (`follow_extendsTo`).  So there can be at
most as many steps with new answers about a value as there are questions about it: a verdict and a
report for each target (`length_answered_le`).  Behind a step without a new answer there is none at
all, if everything is known of what lies deeper (`suffices_of_repeated`).

**Depth.**  Level by level this bounds how many references suffice (`suffices_hops`).  So a check
that has no answer within the bound has none, however many references are followed
(**`check_eq_some_iff`**, `violations?_eq_none_iff`).

**Without references.**  The checks by plain schemas all come to an end
(`SchemaLanguage.answers_draft04_of_plain`).
-/

namespace LintConfig

namespace CompiledSchema

open Check (ExtendsTo)

section Growth

variable {targets : List (Reference × Schema)} {r : Reference} {v : Json} {n m : ℕ}

lemma follow_extendsTo_succ (n : ℕ) (r : Reference) (v : Json) :
    (follow targets n r v).ExtendsTo (follow targets (n + 1) r v) := by
  induction n generalizing r v with
  | zero => exact Check.endless_extendsTo _
  | succ n ih =>
      rw [follow, follow.eq_def targets (n + 1 + 1)]
      dsimp only
      cases targets.lookup r with
      | none => exact ExtendsTo.refl _
      | some schema => exact schema.check_extendsTo fun r w _ => ih r w

/-- **Following more references keeps the answers.** -/
theorem follow_extendsTo (h : n ≤ m) :
    (follow targets n r v).ExtendsTo (follow targets m r v) := by
  induction h with
  | refl => exact ExtendsTo.refl _
  | step _ ih =>
      exact fun demand found hfound => follow_extendsTo_succ _ r v demand found
        (ih demand found hfound)

/-- What one more reference adds depends on what is known of the value and of what lies deeper. -/
lemma follow_succ_congr
    (h : ∀ r w, w = v ∨ w.depth < v.depth → follow targets m r w = follow targets n r w) :
    follow targets (m + 1) r v = follow targets (n + 1) r v := by
  rw [follow, follow.eq_def targets (n + 1)]
  dsimp only
  cases targets.lookup r with
  | none => rfl
  | some schema =>
      have hforth : Schema.RelatedWithin ExtendsTo v (follow targets m) (follow targets n) := by
        intro r w hw
        rw [h r w hw]
        exact ExtendsTo.refl _
      have hback : Schema.RelatedWithin ExtendsTo v (follow targets n) (follow targets m) := by
        intro r w hw
        rw [h r w hw]
        exact ExtendsTo.refl _
      exact (schema.check_extendsTo hforth).antisymm (schema.check_extendsTo hback)

/-- So many references are enough for all that can be found out about a value. -/
def Suffices (targets : List (Reference × Schema)) (n : ℕ) (v : Json) : Prop :=
  ∀ m, n ≤ m → ∀ r, follow targets m r v = follow targets n r v

lemma Suffices.mono (h : Suffices targets n v) (hnm : n ≤ m) : Suffices targets m v := by
  intro k hmk r
  rw [h k (hnm.trans hmk), h m hnm]

/-- What suffices gives all the answers that any number of references gives. -/
lemma Suffices.extendsTo (h : Suffices targets n v) (m : ℕ) :
    (follow targets m r v).ExtendsTo (follow targets n r v) := by
  rcases le_total m n with hmn | hnm
  · exact follow_extendsTo hmn
  · rw [h m hnm]
    exact ExtendsTo.refl _

/-- Behind a step that finds nothing out there is nothing to be found out. -/
lemma suffices_of_repeated (hdeeper : ∀ w : Json, w.depth < v.depth → Suffices targets n w)
    (hrepeated : ∀ r, follow targets (n + 1) r v = follow targets n r v) :
    Suffices targets n v := by
  intro m hnm
  induction m, hnm using Nat.le_induction with
  | base => exact fun r => rfl
  | succ m hnm ih =>
      intro r
      rw [← hrepeated r]
      refine follow_succ_congr fun r w hw => ?_
      rcases hw with rfl | hw
      · exact ih r
      · exact hdeeper w hw m hnm r

/-! ## Counting answers -/

/-- What can be asked about a value. -/
def questions (targets : List (Reference × Schema)) : List (Reference × Demand) :=
  targets.flatMap fun e => [(e.1, .verdict), (e.1, .report)]

/-- What has been found out about a value. -/
def answered (targets : List (Reference × Schema)) (n : ℕ) (v : Json) :
    List (Reference × Demand) :=
  (questions targets).filter fun q => (follow targets n q.1 v q.2).isSome

lemma length_answered_le : (answered targets n v).length ≤ 2 * targets.length := by
  have hquestions : (questions targets).length = 2 * targets.length := by
    simp [questions, List.length_flatMap, mul_comm]
  rw [← hquestions]
  exact List.length_filter_le _ _

lemma answered_sublist_succ (targets : List (Reference × Schema)) (n : ℕ) (v : Json) :
    (answered targets n v).Sublist (answered targets (n + 1) v) := by
  refine List.monotone_filter_right _ fun q hq => ?_
  obtain ⟨found, hfound⟩ := Option.isSome_iff_exists.1 hq
  rw [follow_extendsTo_succ n q.1 v q.2 found hfound]
  rfl

lemma mem_questions (h : targets.lookup r ≠ none) (demand : Demand) :
    (r, demand) ∈ questions targets := by
  obtain ⟨schema, hschema⟩ := Option.ne_none_iff_exists'.1 h
  obtain ⟨before, later, rfl, -⟩ := List.lookup_eq_some_iff.1 hschema
  refine List.mem_flatMap.2 ⟨(r, schema), by simp, ?_⟩
  cases demand with
  | verdict | report => simp

/-- A step that answers no more questions finds nothing out. -/
lemma follow_succ_of_length_answered_eq (hn : 1 ≤ n)
    (h : (answered targets (n + 1) v).length = (answered targets n v).length) (r : Reference) :
    follow targets (n + 1) r v = follow targets n r v := by
  cases hlookup : targets.lookup r with
  | none =>
      -- one step is enough to see that the reference leads nowhere
      obtain ⟨n, rfl⟩ := Nat.exists_eq_add_of_le' hn
      simp only [follow, hlookup]
  | some schema =>
      have hsame := (answered_sublist_succ targets n v).eq_of_length h.symm
      refine ExtendsTo.antisymm (fun demand found hfound => ?_) (follow_extendsTo_succ n r v)
      have hmem : (r, demand) ∈ answered targets (n + 1) v := by
        refine List.mem_filter.2 ⟨mem_questions (by simp [hlookup]) demand, ?_⟩
        simp [hfound]
      rw [← hsame] at hmem
      obtain ⟨found', hfound'⟩ := Option.isSome_iff_exists.1 (List.mem_filter.1 hmem).2
      have hagain := follow_extendsTo_succ n r v demand found' hfound'
      rw [hfound', ← hagain, hfound]

/-- With so many more steps as there are open questions, everything is found out. -/
lemma suffices_add (k : ℕ) (hn : 1 ≤ n)
    (hdeeper : ∀ w : Json, w.depth < v.depth → Suffices targets n w)
    (hopen : 2 * targets.length ≤ (answered targets n v).length + k) :
    Suffices targets (n + k) v := by
  induction k generalizing n with
  | zero =>
      have hle : (answered targets (n + 1) v).length ≤ 2 * targets.length := length_answered_le
      have hgrows := (answered_sublist_succ targets n v).length_le
      exact suffices_of_repeated hdeeper (follow_succ_of_length_answered_eq hn (by omega))
  | succ k ih =>
      by_cases hsame : (answered targets (n + 1) v).length = (answered targets n v).length
      · have hnow := suffices_of_repeated hdeeper (follow_succ_of_length_answered_eq hn hsame)
        exact hnow.mono (Nat.le_add_right n (k + 1))
      · have hgrows := (answered_sublist_succ targets n v).length_le
        have hlater : Suffices targets (n + 1 + k) v :=
          ih (by omega) (fun w hw => (hdeeper w hw).mono (Nat.le_succ n)) (by omega)
        rwa [Nat.add_assoc, Nat.add_comm 1 k] at hlater

/-- **So many references suffice for a value of some depth.** -/
theorem suffices_depth (targets : List (Reference × Schema)) (v : Json) :
    Suffices targets (2 * targets.length * (v.depth + 1) + 1) v := by
  induction hdepth : v.depth using Nat.strong_induction_on generalizing v with
  | _ depth ih =>
      subst hdepth
      have hdeeper : ∀ w : Json, w.depth < v.depth →
          Suffices targets (2 * targets.length * v.depth + 1) w := by
        intro w hw
        refine (ih w.depth hw w rfl).mono (Nat.add_le_add_right ?_ 1)
        exact Nat.mul_le_mul_left _ hw
      have hlater := suffices_add (2 * targets.length) (by omega) hdeeper (by omega)
      have hsum : 2 * targets.length * v.depth + 1 + 2 * targets.length
          = 2 * targets.length * (v.depth + 1) + 1 := by ring
      rwa [hsum] at hlater

end Growth

/-! ## Exactness -/

section Exactness

variable {compiled : CompiledSchema} {v : Json} {demand : Demand} {found : List Violation}

lemma suffices_hops {w : Json} (h : w.depth ≤ v.depth) :
    Suffices compiled.targets (compiled.hops v) w := by
  refine (suffices_depth compiled.targets w).mono (Nat.add_le_add_right ?_ 1)
  exact Nat.mul_le_mul_left _ (Nat.succ_le_succ h)

/-- **A check has every answer that can be found by following references**, however many of them
have to be followed. -/
theorem check_eq_some_iff :
    compiled.check v demand = some found
      ↔ ∃ hops, compiled.root.check (follow compiled.targets hops) v demand = some found := by
  refine ⟨fun h => ⟨compiled.hops v, h⟩, ?_⟩
  rintro ⟨hops, h⟩
  refine compiled.root.check_extendsTo (fun r w hw => Suffices.extendsTo ?_ hops) demand found h
  refine suffices_hops ?_
  rcases hw with rfl | hw
  · exact le_rfl
  · exact hw.le

/-- A check that does not come to an end has no report, however many references are followed. -/
theorem violations?_eq_none_iff :
    compiled.violations? v = none
      ↔ ∀ hops, compiled.root.check (follow compiled.targets hops) v .report = none := by
  simp only [Option.eq_none_iff_forall_ne_some, violations?, Ne, check_eq_some_iff, not_exists]
  exact forall_comm

end Exactness

end CompiledSchema

/-- **The checks by plain schemas come to an end.** -/
theorem SchemaLanguage.answers_draft04_of_plain {schema : Json} (h : schema.Plain) (v : Json) :
    SchemaLanguage.draft04.Answers schema v := by
  intro search hsearch
  obtain ⟨-, read, -, rfl⟩ := (language_eq_some_iff_of_plain h).1 hsearch
  exact read.check_ends (fun r w demand => rfl) .report

end LintConfig
