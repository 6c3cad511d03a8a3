import Mathlib
import LintConfig.Proofs.Schema.Check
import LintConfig.Proofs.Schema.Settled
import LintConfig.Schema.Compiled

/-!
# Following references

A check follows a limited number of references and has no answer where more would have to be
followed.

**Locality.**  The check of a value asks references about the value itself or about something inside
of it.  So the checks with two choices of targets are related if the targets are related there, in
every relation that is respected (`Schema.check_related`).  The induction is on the schema, by way
of the schemas directly inside of it.

**Answers.**  A check has the answers that it has with targets that have fewer (`check_extendsTo`),
and it has all of them if the targets do (`check_ends`).
-/

namespace LintConfig

/-! ## Depth -/

namespace Json

variable {v w : Json} {name : String}

lemma depth_le_depthItems {items : List Json} (h : w ∈ items) : w.depth ≤ depthItems items := by
  induction items with
  | nil => exact absurd h List.not_mem_nil
  | cons first rest ih =>
      rw [depthItems]
      rcases List.mem_cons.1 h with rfl | h
      · exact le_max_left _ _
      · exact (ih h).trans (le_max_right _ _)

lemma depth_le_depthValues {members : List (String × Json)} (h : (name, w) ∈ members) :
    w.depth ≤ depthValues members := by
  induction members with
  | nil => exact absurd h List.not_mem_nil
  | cons first rest ih =>
      obtain ⟨k, first⟩ := first
      rw [depthValues]
      rcases List.mem_cons.1 h with heq | h
      · obtain ⟨rfl, rfl⟩ := Prod.mk.inj heq
        exact le_max_left _ _
      · exact (ih h).trans (le_max_right _ _)

lemma depth_lt_of_mem_items (h : w ∈ v.items) : w.depth < v.depth := by
  cases v with
  | arr items => exact Nat.lt_succ_of_le (depth_le_depthItems h)
  | null | bool | num | str | obj => exact absurd h List.not_mem_nil

lemma depth_lt_of_mem_members (h : (name, w) ∈ v.members) : w.depth < v.depth := by
  cases v with
  | obj members => exact Nat.lt_succ_of_le (depth_le_depthValues h)
  | null | bool | num | str | arr => exact absurd h List.not_mem_nil

/-- A name is a text, which is less deep than the object around it. -/
lemma depth_str_lt_of_mem_members (h : (name, w) ∈ v.members) : (str name).depth < v.depth :=
  (Nat.zero_le w.depth).trans_lt (depth_lt_of_mem_members h)

end Json

namespace Schema

/-! ## Induction on the schemas inside -/

lemma sizeOf_lt_of_mem_children {schema child : Schema} (h : child ∈ schema.children) :
    sizeOf child < sizeOf schema := by
  have hlist : ∀ schemas : List Schema, child ∈ schemas → sizeOf child < sizeOf schemas :=
    fun schemas => List.sizeOf_lt_of_mem
  have hnamed : ∀ schemas : List (String × Schema), child ∈ schemas.map Prod.snd →
      sizeOf child < sizeOf schemas := by
    intro schemas hchild
    obtain ⟨⟨name, child⟩, hmem, rfl⟩ := List.mem_map.1 hchild
    have hentry := List.sizeOf_lt_of_mem hmem
    simp only [Prod.mk.sizeOf_spec] at hentry
    dsimp only
    omega
  have hpatterns : ∀ schemas : List (PropertyPattern × Schema), child ∈ schemas.map Prod.snd →
      sizeOf child < sizeOf schemas := by
    intro schemas hchild
    obtain ⟨⟨p, child⟩, hmem, rfl⟩ := List.mem_map.1 hchild
    have hentry := List.sizeOf_lt_of_mem hmem
    simp only [Prod.mk.sizeOf_spec] at hentry
    dsimp only
    omega
  cases schema with
  | all schemas | firstItems schemas | anyOf schemas | oneOf schemas =>
      have hsize := hlist schemas h
      simp only [all.sizeOf_spec, firstItems.sizeOf_spec, anyOf.sizeOf_spec, oneOf.sizeOf_spec]
      omega
  | eachItem schema | laterItems first schema | contains least most schema | propertyNames schema
  | not source schema | ifPresent name schema =>
      obtain rfl := List.mem_singleton.1 h
      simp only [eachItem.sizeOf_spec, laterItems.sizeOf_spec, contains.sizeOf_spec,
        propertyNames.sizeOf_spec, not.sizeOf_spec, ifPresent.sizeOf_spec]
      omega
  | properties schemas =>
      have hsize := hnamed schemas h
      simp only [properties.sizeOf_spec]
      omega
  | patternProperties schemas =>
      have hsize := hpatterns schemas h
      simp only [patternProperties.sizeOf_spec]
      omega
  | closed known patterns others =>
      simp only [closed.sizeOf_spec]
      rcases List.mem_append.1 h with h | h
      · rcases List.mem_append.1 h with h | h
        · have hsize := hnamed known h
          omega
        · have hsize := hpatterns patterns h
          omega
      · obtain rfl := Option.mem_toList.1 h
        simp only [Option.some.sizeOf_spec]
        omega
  | conditional test accepted refused =>
      simp only [conditional.sizeOf_spec]
      rcases List.mem_cons.1 h with rfl | h
      · omega
      · rcases List.mem_cons.1 h with rfl | h
        · omega
        · obtain rfl := List.mem_singleton.1 h
          omega
  | anything | nothing | reference | types | enum | const | atLeastNumber | atMostNumber
  | multipleOf | atLeast | atMost | uniqueItems | required | noLaterItems | noProperties | unnamed
  | pattern | format | content => exact absurd h List.not_mem_nil

/-- Induction on the schemas directly inside of a schema. -/
theorem induction_on_children {motive : Schema → Prop} (schema : Schema)
    (step : ∀ schema : Schema, (∀ child ∈ schema.children, motive child) → motive schema) :
    motive schema := by
  induction hsize : sizeOf schema using Nat.strong_induction_on generalizing schema with
  | _ size ih =>
      subst hsize
      exact step schema fun child hchild => ih _ (sizeOf_lt_of_mem_children hchild) child rfl

/-! ## Locality -/

/-- Two choices of targets are related as far as the check of a value asks for them: about the
value, and about what lies deeper. -/
def RelatedWithin (R : Check → Check → Prop) (v : Json)
    (target target' : Reference → Json → Check) : Prop :=
  ∀ r w, w = v ∨ w.depth < v.depth → R (target r w) (target' r w)

section Locality

open Check (ExtendsTo Respects)

variable {R : Check → Check → Prop} {target target' : Reference → Json → Check} {v w : Json}
  {schemas : List Schema}

lemma RelatedWithin.inside (h : RelatedWithin R v target target') (hw : w.depth < v.depth) :
    RelatedWithin R w target target' := by
  rintro r u (rfl | hu)
  · exact h r u (Or.inr hw)
  · exact h r u (Or.inr (hu.trans hw))

lemma forall₂_map_checks {α : Type} {elements : List α} {check check' : α → Check}
    (h : ∀ a ∈ elements, R (check a) (check' a)) :
    List.Forall₂ R (elements.map check) (elements.map check') := by
  rw [List.forall₂_map_left_iff, List.forall₂_map_right_iff, List.forall₂_same]
  exact h

lemma forall₂_checksOfList
    (h : ∀ schema ∈ schemas, R (schema.check target v) (schema.check target' v)) :
    List.Forall₂ R (checksOfList target schemas v) (checksOfList target' schemas v) := by
  rw [checksOfList_eq_map, checksOfList_eq_map]
  exact forall₂_map_checks h

lemma forall₂_checksOfFirst (hR : Respects R) {items : List Json}
    (h : ∀ schema ∈ schemas, ∀ w ∈ items, R (schema.check target w) (schema.check target' w))
    (index : ℕ) :
    List.Forall₂ R (checksOfFirst target index schemas items)
      (checksOfFirst target' index schemas items) := by
  induction schemas generalizing items index with
  | nil => exact List.Forall₂.nil
  | cons schema rest ih =>
      cases items with
      | nil => exact List.Forall₂.nil
      | cons w items =>
          have hfirst := h schema List.mem_cons_self w List.mem_cons_self
          refine List.Forall₂.cons (hR.under _ hfirst) (ih (fun other hother u hu => ?_) _)
          exact h other (List.mem_cons_of_mem _ hother) u (List.mem_cons_of_mem _ hu)

variable {known : List (String × Schema)} {patterns : List (PropertyPattern × Schema)}
  {members : List (String × Json)} {name : String}

lemma forall₂_checksOfProperties (hR : Respects R)
    (h : ∀ e ∈ known, ∀ m ∈ members, R (e.2.check target m.2) (e.2.check target' m.2)) :
    List.Forall₂ R (checksOfProperties target known members)
      (checksOfProperties target' known members) := by
  induction known with
  | nil => exact List.Forall₂.nil
  | cons e rest ih =>
      obtain ⟨k, schema⟩ := e
      obtain ⟨hfirst, hrest⟩ := List.forall_mem_cons.1 h
      rw [checksOfProperties, checksOfProperties]
      refine List.rel_append ?_ (ih hrest)
      cases hlookup : Json.lookup k members with
      | none => exact List.Forall₂.nil
      | some w =>
          have hmember := hfirst (k, w) (Json.mem_of_lookup hlookup)
          exact List.Forall₂.cons (hR.under _ hmember) List.Forall₂.nil

lemma forall₂_checksOfPatterns (hR : Respects R)
    (h : ∀ e ∈ patterns, ∀ m ∈ members, R (e.2.check target m.2) (e.2.check target' m.2)) :
    List.Forall₂ R (checksOfPatterns target patterns members)
      (checksOfPatterns target' patterns members) := by
  induction patterns with
  | nil => exact List.Forall₂.nil
  | cons e rest ih =>
      obtain ⟨hfirst, hrest⟩ := List.forall_mem_cons.1 h
      rw [checksOfPatterns, checksOfPatterns]
      refine List.rel_append (forall₂_map_checks fun m hm => ?_) (ih hrest)
      exact hR.under _ (hfirst m (List.mem_of_mem_filter hm))

lemma forall₂_checksOfNamed
    (h : ∀ e ∈ known, R (e.2.check target w) (e.2.check target' w)) :
    List.Forall₂ R (checksOfNamed target known name w) (checksOfNamed target' known name w) := by
  induction known with
  | nil => exact List.Forall₂.nil
  | cons e rest ih =>
      obtain ⟨hfirst, hrest⟩ := List.forall_mem_cons.1 h
      rw [checksOfNamed, checksOfNamed]
      split_ifs
      · exact List.Forall₂.cons hfirst List.Forall₂.nil
      · exact ih hrest

lemma forall₂_checksOfMatching
    (h : ∀ e ∈ patterns, R (e.2.check target w) (e.2.check target' w)) :
    List.Forall₂ R (checksOfMatching target patterns name w)
      (checksOfMatching target' patterns name w) := by
  induction patterns with
  | nil => exact List.Forall₂.nil
  | cons e rest ih =>
      obtain ⟨hfirst, hrest⟩ := List.forall_mem_cons.1 h
      rw [checksOfMatching, checksOfMatching]
      refine List.rel_append ?_ (ih hrest)
      split_ifs
      · exact List.Forall₂.cons hfirst List.Forall₂.nil
      · exact List.Forall₂.nil

lemma checkOfOthers_related (hR : Respects R) {others : Option Schema}
    (h : ∀ schema ∈ others, R (schema.check target w) (schema.check target' w)) :
    R (checkOfOthers target others name w) (checkOfOthers target' others name w) := by
  cases others with
  | none => exact hR.early _
  | some schema => exact h schema rfl

/-- The step: checks are related if those by the schemas inside are, of the value and of what lies
deeper. -/
lemma check_related_of_children (hR : Respects R) {schema : Schema}
    (h : RelatedWithin R v target target')
    (hchildren : ∀ child ∈ schema.children, ∀ w, w = v ∨ w.depth < v.depth →
      R (child.check target w) (child.check target' w)) :
    R (schema.check target v) (schema.check target' v) := by
  cases schema with
  | reference r => exact h r v (Or.inl rfl)
  | all schemas =>
      exact hR.inTurn
        (forall₂_checksOfList fun schema hmem => hchildren schema hmem v (Or.inl rfl))
  | anyOf schemas | oneOf schemas =>
      exact hR.counting _ _
        (forall₂_checksOfList fun schema hmem => hchildren schema hmem v (Or.inl rfl))
  | firstItems schemas =>
      refine hR.inTurn (forall₂_checksOfFirst hR (fun schema hmem w hw => ?_) 0)
      exact hchildren schema hmem w (Or.inr (Json.depth_lt_of_mem_items hw))
  | eachItem schema =>
      refine hR.inTurn (forall₂_map_checks fun e he => hR.under _ ?_)
      have hitem : e.1 ∈ v.items := List.fst_mem_of_mem_zipIdx he
      exact hchildren schema (List.mem_singleton_self _) e.1
        (Or.inr (Json.depth_lt_of_mem_items hitem))
  | laterItems first schema =>
      refine hR.inTurn (forall₂_map_checks fun e he => hR.under _ ?_)
      have hitem : e.1 ∈ v.items := List.fst_mem_of_mem_zipIdx (List.mem_of_mem_drop he)
      exact hchildren schema (List.mem_singleton_self _) e.1
        (Or.inr (Json.depth_lt_of_mem_items hitem))
  | contains least most schema =>
      cases v with
      | arr items =>
          refine hR.counting _ _ (forall₂_map_checks fun w hw => ?_)
          exact hchildren schema (List.mem_singleton_self _) w
            (Or.inr (Json.depth_lt_of_mem_items hw))
      | null | bool | num | str | obj => exact hR.finding _
  | properties schemas =>
      refine hR.inTurn (forall₂_checksOfProperties hR fun e he m hm => ?_)
      exact hchildren e.2 (List.mem_map_of_mem he) m.2 (Or.inr (Json.depth_lt_of_mem_members hm))
  | patternProperties schemas =>
      refine hR.inTurn (forall₂_checksOfPatterns hR fun e he m hm => ?_)
      exact hchildren e.2 (List.mem_map_of_mem he) m.2 (Or.inr (Json.depth_lt_of_mem_members hm))
  | closed known patterns others =>
      have hdescribed : ∀ child ∈ known.map Prod.snd ++ patterns.map Prod.snd ++ others.toList,
          ∀ m ∈ v.members, R (child.check target m.2) (child.check target' m.2) :=
        fun child hchild m hm =>
          hchildren child hchild m.2 (Or.inr (Json.depth_lt_of_mem_members hm))
      simp only [List.forall_mem_append, List.forall_mem_map] at hdescribed
      obtain ⟨⟨hknown, hpatterns⟩, hothers⟩ := hdescribed
      refine hR.inTurn (List.rel_append (forall₂_map_checks fun m hm => ?_)
        (List.Forall₂.cons (hR.finding _) List.Forall₂.nil))
      refine hR.under _ (hR.inTurn (List.rel_append (List.rel_append
        (forall₂_checksOfNamed fun e he => hknown e he m hm)
        (forall₂_checksOfMatching fun e he => hpatterns e he m hm)) ?_))
      split_ifs
      · exact List.Forall₂.nil
      · refine List.Forall₂.cons (checkOfOthers_related hR fun schema hschema => ?_)
          List.Forall₂.nil
        exact hothers schema (Option.mem_toList.2 hschema) m hm
  | propertyNames schema =>
      refine hR.inTurn (forall₂_map_checks fun m hm => hR.under _ ?_)
      exact hchildren schema (List.mem_singleton_self _) (.str m.1)
        (Or.inr (Json.depth_str_lt_of_mem_members hm))
  | not source schema =>
      exact hR.choosing (hchildren schema (List.mem_singleton_self _) v (Or.inl rfl))
        (hR.finding _) (hR.finding _)
  | ifPresent name schema =>
      rw [check, check]
      split_ifs
      · exact hchildren schema (List.mem_singleton_self _) v (Or.inl rfl)
      · exact hR.finding _
  | conditional test accepted refused =>
      have hall : ∀ child ∈ [test, accepted, refused],
          R (child.check target v) (child.check target' v) :=
        fun child hchild => hchildren child hchild v (Or.inl rfl)
      simp only [List.forall_mem_cons] at hall
      exact hR.choosing hall.1 hall.2.1 hall.2.2.1
  | anything | nothing | types | enum | const | uniqueItems | noLaterItems | unnamed =>
      exact hR.finding _
  | atLeastNumber | atMostNumber | multipleOf | required | format | content =>
      cases v with
      | null | bool | num | str | arr | obj => exact hR.finding _
  | atLeast measure n | atMost measure n =>
      rw [check, check]
      cases measure.count? v with
      | none | some count => exact hR.finding _
  | noProperties =>
      rw [check, check]
      cases v.members with
      | nil | cons member rest => exact hR.finding _
  | pattern source p =>
      cases v with
      | str s =>
          rw [check, check]
          cases p.search s with
          | found | missing | givenUp => exact hR.finding _
      | null | bool | num | arr | obj => exact hR.finding _

/-- **A check asks references about the value and about what lies deeper**, and about nothing
else. -/
theorem check_related (hR : Respects R) (schema : Schema) (h : RelatedWithin R v target target') :
    R (schema.check target v) (schema.check target' v) := by
  induction schema using induction_on_children generalizing v with
  | step schema ih =>
      refine check_related_of_children hR h fun child hchild w hw => ?_
      rcases hw with rfl | hw
      · exact ih child hchild h
      · exact ih child hchild (h.inside hw)

/-- With targets that have more answers a check has the same answers and maybe more. -/
theorem check_extendsTo (schema : Schema) (h : RelatedWithin ExtendsTo v target target') :
    (schema.check target v).ExtendsTo (schema.check target' v) :=
  schema.check_related Check.respects_extendsTo h

/-- If the checks that references ask for come to an end, so does the check. -/
theorem check_ends (schema : Schema) (h : ∀ r w, (target r w).Ends) :
    (schema.check target v).Ends := by
  have hwithin : RelatedWithin (fun check _ => check.Ends) v target target := fun r w _ => h r w
  exact schema.check_related Check.respects_ends hwithin

end Locality

end Schema

end LintConfig
