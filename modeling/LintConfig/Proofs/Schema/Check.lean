import Mathlib.Data.List.Forall2
import LintConfig.Schema.Checking

/-!
# What is known of checks

**Answers.**  Checks one after the other find nothing if each of them finds nothing
(`inTurn_eq_some_nil_iff`).

**Relations.**  Every way to make one check of others respects some relations between checks
(`Respects`): what it makes of related checks is related.  One is that a check `ExtendsTo` another
one, which gives the same answers and may have more of them (`respects_extendsTo`); an answer rests
on answers alone, and in no way on there being none.  Another is that a check `Ends`, which says
nothing of the other one (`respects_ends`).

**Schemas.**  The checks of conjunctions and of schemas one by one, by the same laws.
-/

namespace LintConfig

namespace Check

/-! ## Answers -/

section Answers

variable {checks : List Check} {demand : Demand} {found : List Violation}

lemma finding_eq_some_nil_iff : finding found demand = some [] ↔ found = [] :=
  Option.some_inj

lemma under_eq_some_nil_iff {check : Check} {place : Violation → Violation} :
    check.under place demand = some [] ↔ check demand = some [] := by
  rw [under, Option.map_eq_some_iff]
  simp

lemma isMet_nil : demand.isMet [] = false := by
  cases demand with
  | verdict | report => rfl

/-- **Checks in turn find nothing if none of them does**, whatever they are made for. -/
theorem inTurn_eq_some_nil_iff :
    inTurn checks demand = some [] ↔ ∀ check ∈ checks, check demand = some [] := by
  induction checks with
  | nil => simp [inTurn]
  | cons check rest ih =>
      rw [inTurn, List.forall_mem_cons, ← ih]
      cases hcheck : check demand with
      | none => simp
      | some found =>
          cases found with
          | nil => simp [isMet_nil]
          | cons violation later =>
              simp only [Option.some.injEq, reduceCtorEq, false_and, iff_false]
              split_ifs <;> simp

end Answers

/-! ## Relations -/

/-- What checks make of related checks is related. -/
structure Respects (R : Check → Check → Prop) : Prop where
  finding : ∀ found, R (finding found) (finding found)
  early : ∀ violation, R (early violation) (early violation)
  under : ∀ {check check'} place, R check check' → R (check.under place) (check'.under place)
  inTurn : ∀ {checks checks'}, List.Forall₂ R checks checks' → R (inTurn checks) (inTurn checks')
  counting : ∀ {checks checks'} limit judge, List.Forall₂ R checks checks' →
    R (counting limit checks judge) (counting limit checks' judge)
  choosing : ∀ {test test' accepted accepted' refused refused'}, R test test' →
    R accepted accepted' → R refused refused' →
    R (choosing test accepted refused) (choosing test' accepted' refused')

/-- Wherever one check has an answer, the other one has the same. -/
def ExtendsTo (check check' : Check) : Prop :=
  ∀ demand found, check demand = some found → check' demand = some found

section Extensions

variable {check check' : Check} {checks checks' : List Check}

lemma ExtendsTo.refl (check : Check) : check.ExtendsTo check := fun _ _ h => h

lemma endless_extendsTo (check : Check) : endless.ExtendsTo check := fun _ _ h => nomatch h

/-- Checks that extend to one another are the same. -/
lemma ExtendsTo.antisymm (h : check.ExtendsTo check') (h' : check'.ExtendsTo check) :
    check = check' := by
  funext demand
  exact Option.ext fun found => ⟨h demand found, h' demand found⟩

lemma ExtendsTo.under (h : check.ExtendsTo check') (place : Violation → Violation) :
    (check.under place).ExtendsTo (check'.under place) := by
  intro demand found hfound
  obtain ⟨inside, hinside, rfl⟩ := Option.map_eq_some_iff.1 hfound
  exact Option.map_eq_some_iff.2 ⟨inside, h demand inside hinside, rfl⟩

lemma ExtendsTo.accepts? (h : check.ExtendsTo check') {accepted : Bool}
    (haccepts : check.accepts? = some accepted) : check'.accepts? = some accepted := by
  obtain ⟨found, hfound, rfl⟩ := Option.map_eq_some_iff.1 haccepts
  exact Option.map_eq_some_iff.2 ⟨found, h .verdict found hfound, rfl⟩

/-- By induction on the checks: what comes after an answer is asked for in both cases or in
neither. -/
lemma extendsTo_inTurn (h : List.Forall₂ ExtendsTo checks checks') :
    (inTurn checks).ExtendsTo (inTurn checks') := by
  induction h with
  | nil => exact ExtendsTo.refl _
  | @cons check check' rest rest' hfirst _ ih =>
      intro demand found hfound
      rw [inTurn] at hfound ⊢
      cases hcheck : check demand with
      | none =>
          rw [hcheck] at hfound
          exact nomatch hfound
      | some part =>
          rw [hcheck] at hfound
          rw [hfirst demand part hcheck]
          dsimp only at hfound ⊢
          split_ifs at hfound ⊢
          · exact hfound
          · obtain ⟨others, hothers, rfl⟩ := Option.map_eq_some_iff.1 hfound
            rw [ih demand others hothers, Option.map_some]

lemma acceptances?_of_extendsTo (h : List.Forall₂ ExtendsTo checks checks') {limit count : ℕ}
    (hcount : acceptances? limit checks = some count) :
    acceptances? limit checks' = some count := by
  induction h generalizing limit count with
  | nil => exact hcount
  | @cons check check' rest rest' hfirst _ ih =>
      cases limit with
      | zero => exact hcount
      | succ limit =>
          rw [acceptances?] at hcount ⊢
          cases haccepts : check.accepts? with
          | none =>
              rw [haccepts] at hcount
              exact nomatch hcount
          | some accepted =>
              rw [haccepts] at hcount
              rw [hfirst.accepts? haccepts]
              cases accepted with
              | true =>
                  obtain ⟨others, hothers, rfl⟩ := Option.map_eq_some_iff.1 hcount
                  exact Option.map_eq_some_iff.2 ⟨others, ih hothers, rfl⟩
              | false => exact ih hcount

lemma extendsTo_counting (h : List.Forall₂ ExtendsTo checks checks') (limit : ℕ)
    (judge : ℕ → List Violation) :
    (counting limit checks judge).ExtendsTo (counting limit checks' judge) := by
  intro demand found hfound
  obtain ⟨count, hcount, rfl⟩ := Option.map_eq_some_iff.1 hfound
  exact Option.map_eq_some_iff.2 ⟨count, acceptances?_of_extendsTo h hcount, rfl⟩

lemma extendsTo_choosing {accepted accepted' refused refused' : Check}
    (h : check.ExtendsTo check') (haccepted : accepted.ExtendsTo accepted')
    (hrefused : refused.ExtendsTo refused') :
    (choosing check accepted refused).ExtendsTo (choosing check' accepted' refused') := by
  intro demand found hfound
  rw [choosing] at hfound ⊢
  cases haccepts : check.accepts? with
  | none =>
      rw [haccepts] at hfound
      exact nomatch hfound
  | some accepts =>
      rw [haccepts] at hfound
      rw [h.accepts? haccepts]
      cases accepts with
      | true => exact haccepted demand found hfound
      | false => exact hrefused demand found hfound

theorem respects_extendsTo : Respects ExtendsTo where
  finding _ := ExtendsTo.refl _
  early _ := ExtendsTo.refl _
  under place h := h.under place
  inTurn := extendsTo_inTurn
  counting limit judge h := extendsTo_counting h limit judge
  choosing := extendsTo_choosing

end Extensions

/-- The check has an answer, whatever it is made for. -/
def Ends (check : Check) : Prop := ∀ demand, (check demand).isSome

section Ends

variable {check test accepted refused : Check} {checks checks' : List Check}

lemma Ends.accepts? (h : check.Ends) : check.accepts?.isSome := by
  rw [Check.accepts?, Option.isSome_map]
  exact h .verdict

lemma ends_inTurn (h : List.Forall₂ (fun check _ => check.Ends) checks checks') :
    (inTurn checks).Ends := by
  intro demand
  induction h with
  | nil => rfl
  | cons hfirst _ ih =>
      obtain ⟨found, hfound⟩ := Option.isSome_iff_exists.1 (hfirst demand)
      rw [inTurn, hfound]
      dsimp only
      split_ifs
      · rfl
      · rw [Option.isSome_map]
        exact ih

lemma isSome_acceptances? (h : List.Forall₂ (fun check _ => check.Ends) checks checks')
    (limit : ℕ) : (acceptances? limit checks).isSome := by
  induction h generalizing limit with
  | nil =>
      cases limit with
      | zero | succ limit => rfl
  | cons hfirst _ ih =>
      cases limit with
      | zero => rfl
      | succ limit =>
          obtain ⟨accepted, haccepts⟩ := Option.isSome_iff_exists.1 hfirst.accepts?
          rw [acceptances?, haccepts]
          cases accepted with
          | true =>
              rw [Option.isSome_map]
              exact ih limit
          | false => exact ih (limit + 1)

lemma ends_choosing (htest : test.Ends) (haccepted : accepted.Ends) (hrefused : refused.Ends) :
    (choosing test accepted refused).Ends := by
  intro demand
  obtain ⟨accepts, haccepts⟩ := Option.isSome_iff_exists.1 htest.accepts?
  rw [choosing, haccepts]
  cases accepts with
  | true => exact haccepted demand
  | false => exact hrefused demand

theorem respects_ends : Respects fun check _ => check.Ends where
  finding _ _ := rfl
  early _ demand := by cases demand <;> rfl
  under place h demand := by
    rw [Check.under, Option.isSome_map]
    exact h demand
  inTurn := ends_inTurn
  counting limit judge h demand := by
    rw [Check.counting, Option.isSome_map]
    exact isSome_acceptances? h limit
  choosing := ends_choosing

end Ends

end Check

namespace Schema

variable {target : Reference → Json → Check} {schemas : List Schema} {demand : Demand}

lemma report_eq_nil_iff {passed : Bool} {fault : Fault} : report passed fault = [] ↔ passed := by
  cases passed with
  | false => simp [report]
  | true => simp [report]

lemma checksOfList_eq_map (schemas : List Schema) (v : Json) :
    checksOfList target schemas v = schemas.map fun schema => schema.check target v := by
  induction schemas with
  | nil => rfl
  | cons schema rest ih => rw [checksOfList, ih, List.map_cons]

/-- A conjunction finds nothing if none of its parts does. -/
lemma check_all_eq_some_nil_iff {v : Json} :
    (all schemas).check target v demand = some []
      ↔ ∀ schema ∈ schemas, schema.check target v demand = some [] := by
  rw [check, Check.inTurn_eq_some_nil_iff, checksOfList_eq_map, List.forall_mem_map]

/-- Schemas one by one find nothing if none of them does at its own position. -/
lemma inTurn_checksOfFirst_eq_some_nil_iff {items : List Json} {first : ℕ} :
    Check.inTurn (checksOfFirst target first schemas items) demand = some []
      ↔ ∀ (i : ℕ) schema w, schemas[i]? = some schema → items[i]? = some w →
          schema.check target w demand = some [] := by
  rw [Check.inTurn_eq_some_nil_iff]
  induction schemas generalizing items first with
  | nil => simp [checksOfFirst]
  | cons schema schemas ih =>
      cases items with
      | nil => simp [checksOfFirst]
      | cons w items =>
          rw [checksOfFirst, List.forall_mem_cons, Check.under_eq_some_nil_iff, ih]
          constructor
          · rintro ⟨hfirst, hrest⟩ i schema' w' hschema hw
            cases i with
            | zero =>
                obtain rfl := Option.some.inj hschema
                obtain rfl := Option.some.inj hw
                exact hfirst
            | succ i => exact hrest i schema' w' hschema hw
          · intro h
            exact ⟨h 0 schema w rfl rfl, fun i => h (i + 1)⟩

end Schema

end LintConfig
